import Repartee.Text.Basic
import Repartee.Text.CaseTable
import Repartee.Text.Cased
import Repartee.Text.CaseIgnorable

/-!
# Letter case

* `lower`: full lower case; a capital sigma that ends a word becomes the final sigma.
* `upper`: full upper case, where one character may become several.
* `capitalize`: the first character in upper case, the others unchanged.
* `Casing`: the four case changes a reply can ask for.
-/

namespace Repartee

/-- The lower case of one character, context aside. -/
def lowerChar (c : Char) : Text :=
  if c.toNat < 128 then [c.toLower]
  else if c = 'İ' then ['i', '\u0307']
  else [(lowercaseShifts.findSome? (·.partner? c.toNat)).getD c]

/-- The upper case of one character. -/
def upperChar (c : Char) : Text :=
  if c.toNat < 128 then [c.toUpper]
  else match uppercaseExpansions.lookup c.toNat with
    | some cs => cs.map Char.ofNat
    | none => [(uppercaseShifts.findSome? (·.partner? c.toNat)).getD c]

namespace Text

/-- Behind case-ignorable characters comes a cased one. -/
def leadsToCased (t : Text) : Bool :=
  match t.dropWhile isCaseIgnorable with
  | [] => false
  | c :: _ => isCased c

/-- A sigma between these neighbours ends a word; `before` is read backwards. -/
def endsWord (before after : Text) : Bool := leadsToCased before && !leadsToCased after

/-- Lower case of `t` behind `before`, which is read backwards. -/
def lowerAfter (before : Text) : Text → Text
  | [] => []
  | c :: cs =>
    (if c = 'Σ' then [if endsWord before cs then 'ς' else 'σ'] else lowerChar c) ++
      lowerAfter (c :: before) cs

/-- Lower case. -/
def lower (t : Text) : Text := lowerAfter [] t

/-- Upper case. -/
def upper (t : Text) : Text := t.flatMap upperChar

/-- The first character in upper case. -/
def capitalize : Text → Text
  | [] => []
  | c :: cs => upperChar c ++ cs

end Text

/-- A change of letter case. -/
inductive Casing where
  | upper
  | lower
  /-- The first character in upper case. -/
  | sentence
  /-- The first character of every space-separated word in upper case. -/
  | formal
  deriving DecidableEq, Repr

/-- Change the letter case of a text. -/
def Casing.apply : Casing → Text → Text
  | .upper, t => t.upper
  | .lower, t => t.lower
  | .sentence, t => t.capitalize
  | .formal, t => Text.join [' '] ((t.pieces (· == ' ')).map Text.capitalize)

end Repartee
