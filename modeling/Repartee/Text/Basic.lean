/-!
# Texts

Rules that change or search a text see it as the list of its characters.

* `Text.pieces`: cut at every character of a class, empty pieces included.
* `Text.cut?`, `Text.cutAt?`: cut once, at the first separator.
* `Text.startsWith?`, `Text.startsWithFolded?`: what follows an opening, letter case obeyed or
  ignored.
-/

namespace Repartee

/-- A text as the list of its characters. -/
abbrev Text := List Char

namespace Text

/-- Bytes of the UTF-8 encoding. -/
def bytes (t : Text) : Nat := t.foldr (fun c n => c.utf8Size + n) 0

/-! ## Cutting -/

/-- Pieces between the characters for which `sep` holds; never an empty list. -/
def pieces (sep : Char → Bool) : Text → List Text
  | [] => [[]]
  | c :: cs =>
    if sep c then [] :: pieces sep cs
    else match pieces sep cs with
      | [] => [[c]]
      | w :: ws => (c :: w) :: ws

/-- What stands before and after the first `sep`. -/
def cut? (sep : Char) : Text → Option (Text × Text)
  | [] => none
  | c :: cs => if c = sep then some ([], cs) else (cut? sep cs).map fun r => (c :: r.1, r.2)

/-- The rest of a text after `opening`. -/
def startsWith? : (opening : Text) → Text → Option Text
  | [], t => some t
  | _ :: _, [] => none
  | o :: os, c :: cs => if c = o then startsWith? os cs else none

/-- What stands before and after the first occurrence of `sep`. -/
def cutAt? (sep : Text) : Text → Option (Text × Text)
  | [] => none
  | c :: cs => match startsWith? sep (c :: cs) with
    | some rest => some ([], rest)
    | none => (cutAt? sep cs).map fun r => (c :: r.1, r.2)

/-- Texts with a separator between them. -/
def join (sep : Text) : List Text → Text
  | [] => []
  | [w] => w
  | w :: v :: ws => w ++ sep ++ join sep (v :: ws)

/-! ## Letter case ignored -/

/-- A character matches a lower case ASCII pattern character whatever its case; the long `ſ` and
the Kelvin sign fold to `s` and `k`. -/
def sameFolded (pattern c : Char) : Bool :=
  c.toLower == pattern || (pattern == 's' && c == 'ſ') || (pattern == 'k' && c == '\u212a')

/-- The rest of a text after `opening` in any letter case. -/
def startsWithFolded? : (opening : Text) → Text → Option Text
  | [], t => some t
  | _ :: _, [] => none
  | o :: os, c :: cs => if sameFolded o c then startsWithFolded? os cs else none

end Text

end Repartee
