import Repartee.Text.Blank
import Repartee.Text.Digit
import Repartee.Text.Numeral
import Repartee.Text.Seek

/-!
# Tags on patterns

A pattern or reply may carry a weight `{weight=N}`, and a pattern taken over from another topic a
level `{inherits=N}`; both in any letter case.

* `Metadata.weight`: the first weight, 0 if there is none or it does not fit 32 bits.
* `Metadata.level?`: the first level.
* `Metadata.strip`: the pattern without its tags, its words one space apart.
* `Metadata.stripLevel`: the pattern without its levels.
-/

namespace Repartee

namespace Metadata

/-- A weight tag; its body is the number. -/
def weightTag : Scan Text := Scan.delimited "\x7bweight=" isDigit 1 "\x7d"

/-- A level tag; its body is the number. -/
def levelTag : Scan Text := Scan.delimited "\x7binherits=" isDigit 1 "\x7d"

/-- The number in the first tag, if it fits 32 bits. -/
def number? (tag : Scan Text) (t : Text) : Option Nat :=
  match tag.find? t with
  | some (_, digits, _) => (Text.natural? digits).filter (· < Nat.pow 2 32)
  | none => none

/-- The weight of a pattern or reply. -/
def weight (t : Text) : Nat := (number? weightTag t).getD 0

/-- The level of a pattern. -/
def level? (t : Text) : Option Nat := number? levelTag t

/-- A pattern without its tags. -/
def strip (t : Text) : Text :=
  Text.squeeze ((weightTag.orElse levelTag).replaceAll (fun _ => [' ']) t)

/-- A pattern without its levels. -/
def stripLevel (t : Text) : Text := Text.trim (levelTag.replaceAll (fun _ => []) t)

/-- A text without its weights. -/
def stripWeight (t : Text) : Text := weightTag.replaceAll (fun _ => []) t

end Metadata

end Repartee
