import Repartee.Document.Basic
import Repartee.Text.LeadingInt

/-!
# Conditions

A condition reads `left operator right => reply`.

* `Condition.split?`: the test and the reply; there must be exactly one arrow.
* `Condition.comparison?`: the two sides of a test and the operator between them.
* `Comparison.holds`: (in)equality compares texts, order compares leading integers.
-/

namespace Repartee

/-- How a condition compares. -/
inductive Comparison where
  | equal
  | different
  | less
  | atMost
  | greater
  | atLeast
  deriving DecidableEq, Repr

namespace Comparison

/-- The ways to write the operators. -/
def spellings : List (String × Comparison) :=
  [("==", equal), ("eq", equal), ("!=", different), ("ne", different), ("<>", different),
    ("<", less), ("<=", atMost), (">", greater), (">=", atLeast)]

/-- The order of two integers. -/
def ofInts : Comparison → Int → Int → Bool
  | equal, a, b => a == b
  | different, a, b => a != b
  | less, a, b => a < b
  | atMost, a, b => a ≤ b
  | greater, a, b => b < a
  | atLeast, a, b => b ≤ a

/-- The comparison holds between two texts; an order fails where a side has no integer. -/
def holds (op : Comparison) (a b : Text) : Bool :=
  match op with
  | equal => a == b
  | different => a != b
  | op =>
    match Text.leadingInt? a, Text.leadingInt? b with
    | some m, some n => op.ofInts m n
    | _, _ => false

end Comparison

namespace Condition

/-- The test and the reply of a condition. -/
def split? (t : Text) : Option (Text × Text) :=
  match Text.cutAt? "=>".toList t with
  | some (test, reply) =>
    if (Text.cutAt? "=>".toList reply).isSome then none else some (Text.trim test, Text.trim reply)
  | none => none

/-- An operator between blanks, and a right side on one line. -/
def operator? (t : Text) : Option (Comparison × Text) :=
  if t.head?.any isBlank then
    Comparison.spellings.findSome? fun (spelling, op) =>
      match Text.startsWith? spelling.toList (Text.trimLeft t) with
      | some rest =>
        let right := Text.trimLeft rest
        if rest.head?.any isBlank ∧ '\n' ∉ right then some (op, right) else none
      | none => none
  else none

/-- The shortest left side on one line that an operator follows. -/
def sides? : Text → Option (Text × Comparison × Text)
  | [] => none
  | c :: cs =>
    if c = '\n' then none
    else match operator? cs with
      | some (op, right) => some ([c], op, right)
      | none => (sides? cs).map fun r => (c :: r.1, r.2)

/-- The trimmed sides of a test and its operator. -/
def comparison? (test : Text) : Option (Text × Comparison × Text) :=
  (sides? test).map fun (left, op, right) => (Text.trim left, op, Text.trim right)

end Condition

end Repartee
