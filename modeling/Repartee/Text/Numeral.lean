import Repartee.Text.Basic

/-!
# Numerals

* `Text.value`: the number that digits of a base stand for.
* `Text.natural?`, `Text.hexadecimal?`: unsigned numbers of base ten and sixteen, and nothing else.
* `scalar?`: the character of a code point.
-/

namespace Repartee

/-- A digit of base sixteen, in either letter case. -/
def isHexDigit (c : Char) : Bool := c.isDigit || ('a' ≤ c.toLower && c.toLower ≤ 'f')

/-- The value of a digit of base sixteen. -/
def digitValue (c : Char) : Nat :=
  if c.isDigit then c.toNat - '0'.toNat else c.toLower.toNat - 'a'.toNat + 10

/-- The character of a code point. -/
def scalar? (n : Nat) : Option Char := if n.isValidChar then some (Char.ofNat n) else none

namespace Text

/-- The number that digits of a base stand for. -/
def value (base : Nat) (t : Text) : Nat := t.foldl (fun n c => base * n + digitValue c) 0

/-- An unsigned decimal number and nothing else. -/
def natural? (t : Text) : Option Nat :=
  if t ≠ [] ∧ t.all Char.isDigit then some (value 10 t) else none

/-- An unsigned hexadecimal number and nothing else. -/
def hexadecimal? (t : Text) : Option Nat :=
  if t ≠ [] ∧ t.all isHexDigit then some (value 16 t) else none

end Text

end Repartee
