import Repartee.Text.Basic

/-!
# Blanks and words

* `isBlank`: the white space characters.
* `words`: the maximal runs of other characters.
* `squeeze`: the words with one space between them.
* `trim`, `trimLeft`, `trimRight`.
-/

namespace Repartee

/-- White space of any script, line breaks included. -/
def isBlank (c : Char) : Bool :=
  c == ' ' || (9 ≤ c.toNat && c.toNat ≤ 13) ||
    [0x85, 0xA0, 0x1680, 0x2028, 0x2029, 0x202F, 0x205F, 0x3000].contains c.toNat ||
    (0x2000 ≤ c.toNat && c.toNat ≤ 0x200A)

namespace Text

/-- The words of a text. -/
def words (t : Text) : List Text := (t.pieces isBlank).filter (!·.isEmpty)

/-- The words of a text with one space between them. -/
def squeeze (t : Text) : Text := join [' '] t.words

/-- Drop leading blanks. -/
def trimLeft (t : Text) : Text := t.dropWhile isBlank

/-- Drop trailing blanks. -/
def trimRight (t : Text) : Text := (trimLeft t.reverse).reverse

/-- Drop blanks at both ends. -/
def trim (t : Text) : Text := trimRight (trimLeft t)

end Text

end Repartee
