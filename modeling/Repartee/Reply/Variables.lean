import Repartee.Decimal
import Repartee.Reply.Turn
import Repartee.Text.LeadingInt

/-!
# Variable tags

Tags that read and write variables are carried out one by one, the first tag without another one
inside before all others. Those of a user are those of the user who is answered. Unknown tags are
set aside with their brackets replaced by control characters until no tag is left.

* `Variables.carryOut`: the text of one tag, and its effect.
* `Variables.resolve`: all tags of a text.
-/

namespace Repartee

/-- The operations on numeric variables. -/
inductive Arithmetic where
  | add
  | sub
  | mult
  | div
  deriving DecidableEq, Repr

/-- The name of the tag. -/
def Arithmetic.name : Arithmetic → String
  | add => "add"
  | sub => "sub"
  | mult => "mult"
  | div => "div"

/-- The result of an operation. -/
def Arithmetic.apply : Arithmetic → Double → Double → Double
  | add, x, y => x.add y
  | sub, x, y => x.sub y
  | mult, x, y => x.mul y
  | div, x, y => x.div y

/-- A tag that reads or writes variables. -/
inductive VariableTag where
  | bot
  | env
  | set
  | get
  | arithmetic (op : Arithmetic)
  deriving DecidableEq, Repr

/-- The tag of a name. -/
def VariableTag.named? (name : Text) : Option VariableTag :=
  [("bot", bot), ("env", env), ("set", set), ("get", get), ("add", arithmetic .add),
    ("sub", arithmetic .sub), ("mult", arithmetic .mult), ("div", arithmetic .div)].lookup
    (String.ofList (name.map Char.toLower))

namespace Variables

/-! ## Brackets set aside -/

/-- A tag without another one inside; its body is what stands between the brackets. -/
def innermost : Scan Text := Scan.delimited "<" (· != '<') 1 ">"

/-- A tag with its brackets set aside. -/
def park (body : Text) : Text := '\x00' :: body ++ ['\x01']

/-- Brackets that were set aside, as they were written. -/
def unpark (t : Text) : Text :=
  t.map fun c => if c = '\x00' then '<' else if c = '\x01' then '>' else c

/-! ## Single tags -/

/-- Read or assign a variable of a table; an empty value reads as undefined. -/
def readOrAssign (table : Table String) (data : Text) : Table String × Text :=
  match Text.cut? '=' data with
  | some (name, value) => (table.insert (String.ofList name) (String.ofList value), [])
  | none =>
    match table.find? (String.ofList data) with
    | none | some "" => (table, undefined.toList)
    | some value => (table, value.toList)

/-- The text for something that is no number. -/
def refusal (op : Arithmetic) (what : String) (t : Text) : Text :=
  ("[ERR: Math can't '" ++ op.name ++ "' non-numeric " ++ what ++ " '").toList ++ t ++ "']".toList

/-- Change a numeric variable of the user, given what it holds; the text is empty unless something
is wrong. -/
def calculateFrom (user : String) (op : Arithmetic) (name value current : Text) : Talk Text :=
  match Text.leadingInt? value, Text.leadingInt? current with
  | none, _ => pure (refusal op "value" value)
  | some _, none => pure (refusal op "user variable" name)
  | some operand, some base =>
    if op = .div ∧ operand = 0 then pure "[ERR: Can't Divide By Zero]".toList
    else do
      Talk.setVar user name (op.apply (.ofInt base) (.ofInt operand)).text.toList
      pure []

/-- Change a numeric variable of the user. An unset variable counts as zero, and is set to zero
first. -/
def calculate (user : String) (op : Arithmetic) (data : Text) : Talk Text := do
  let (name, value) := (Text.cut? '=' data).getD (data, [])
  let stored ← Talk.getVar user name
  if stored = undefined.toList then do
    Talk.setVar user name ['0']
    calculateFrom user op name value ['0']
  else calculateFrom user op name value stored

/-- Carry out a tag on its data. -/
def carryOut (user : String) (tag : VariableTag) (data : Text) : Talk Text :=
  match tag with
  | .bot => modifyGet fun t =>
    let (vars, text) := readOrAssign t.vars data
    (text, { t with vars })
  | .env => modifyGet fun t =>
    let (globals, text) := readOrAssign t.globals data
    (text, { t with globals })
  | .set =>
    match Text.cut? '=' data with
    | some (name, value) => do
      Talk.setVar user name value
      pure []
    | none => pure []
  | .get => Talk.getVar user data
  | .arithmetic op => calculate user op data

/-! ## All tags of a text -/

/-- Carry out what stands between brackets, or set it aside if it is no tag. -/
def step (user : String) (body : Text) : Talk Text :=
  let (name, data) := (Text.cut? ' ' body).getD (body, [])
  match VariableTag.named? name with
  | some tag => carryOut user tag (unpark data)
  | none => pure (park body)

/-- Variable tags of one text that are carried out. -/
def limit : Nat := 1000

/-- Carry out the variable tags of a text. -/
def resolve (user : String) (t : Text) : Talk Text :=
  unpark <$> Talk.replacing innermost (step user) limit t

end Variables

end Repartee
