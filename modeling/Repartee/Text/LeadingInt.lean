import Repartee.Text.Blank
import Repartee.Text.Numeral

/-!
# Leading integers

* `Text.leadingInt?`: the integer a text starts with; blanks before it and anything behind it are
  ignored, and its digits must stay below `2 ^ 63`.
-/

namespace Repartee

namespace Text

/-- The value of the digits at the front of a text. -/
def leadingNat? (t : Text) : Option Nat :=
  (natural? (t.takeWhile Char.isDigit)).filter (· < Nat.pow 2 63)

/-- The integer at the front of a text. -/
def leadingInt? (t : Text) : Option Int :=
  match trimLeft t with
  | '-' :: cs => (leadingNat? cs).map fun n => -(n : Int)
  | '+' :: cs => (leadingNat? cs).map Int.ofNat
  | cs => (leadingNat? cs).map Int.ofNat

end Text

end Repartee
