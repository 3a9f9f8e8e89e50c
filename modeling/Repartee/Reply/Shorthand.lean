import Repartee.Pattern.Metadata
import Repartee.Reply.Turn
import Repartee.Text.Numeral

/-!
# Shorthand in a reply

The first passes over a reply, which put texts in the place of tags and change nothing.

* `Shorthand.arrays`: `(@name)` becomes a random choice among the items of the array.
* `Shorthand.tags`: `<person>`, `<@>` and the like become blocks around the first star.
* `Shorthand.stars`, `Shorthand.history`, `Shorthand.user`: what was said, by whom.
* `Shorthand.unescape`: written spaces, line breaks and number signs.
-/

namespace Repartee

namespace Shorthand

/-! ## Arrays -/

/-- A character of an array name in a reply. -/
def isNameChar (c : Char) : Bool := c.isAlphanum || c == '_'

/-- An array in a reply; its body is the name. -/
def arrayTag : Scan Text := Scan.delimited "(@" isNameChar 1 ")"

/-- An unknown array, set aside. -/
def parkedArray : Scan Text := Scan.delimited "\x00@" isNameChar 1 "\x00"

/-- The random choice that stands for an array; an unknown one is set aside. -/
def arrayChoice (arrays : Table (List String)) (name : Text) : Text :=
  match arrays.find? (String.ofList name) with
  | some items =>
    "\x7brandom\x7d".toList ++ Text.join ['|'] (items.map String.toList) ++
      "\x7b/random\x7d".toList
  | none => "\x00@".toList ++ name ++ ['\x00']

/-- Put choices in the place of arrays; unknown arrays stay as they are written. -/
def arrays (s : Script) (t : Text) : Text :=
  parkedArray.replaceAll (fun name => "(@".toList ++ name ++ [')'])
    (arrayTag.replaceAgain (arrayChoice s.arrays) s.depth t)

/-! ## Short tags -/

/-- The short tags and what they stand for. -/
def shortTags : List (String × String) :=
  [("<person>", "\x7bperson\x7d<star>\x7b/person\x7d"),
    ("<@>", "\x7b@<star>\x7d"),
    ("<formal>", "\x7bformal\x7d<star>\x7b/formal\x7d"),
    ("<sentence>", "\x7bsentence\x7d<star>\x7b/sentence\x7d"),
    ("<uppercase>", "\x7buppercase\x7d<star>\x7b/uppercase\x7d"),
    ("<lowercase>", "\x7blowercase\x7d<star>\x7b/lowercase\x7d")]

/-- Write out the short tags. -/
def tags (t : Text) : Text :=
  shortTags.foldl
    (fun t (short, long) => (Scan.opening short).replaceAll (fun _ => long.toList) t) t

/-! ## Stars, history and user -/

/-- The star of an index as it is written; no index is the first. -/
def star (stars : List String) (index : Text) : Text :=
  let n := if index = [] then 1 else (Text.natural? index).getD 0
  (match n with
    | 0 => undefined
    | n + 1 => stars[n]?.getD undefined).toList

/-- Put the captured texts in their place. -/
def stars (stars botstars : List String) (t : Text) : Text :=
  (Scan.delimited "<botstar" isDigit 0 ">").replaceAll (star botstars) <|
    (Scan.delimited "<star" isDigit 0 ">").replaceAll (star stars) t

/-- A digit from 1 to 9, if there is one, and a closing bracket. -/
def historyIndex : Scan Nat
  | '>' :: cs => some (1, cs)
  | c :: '>' :: cs => if '1' ≤ c ∧ c ≤ '9' then some (c.toNat - '0'.toNat, cs) else none
  | _ => none

/-- A tag for an earlier message or, with the flag, for an earlier reply. -/
def historyTag : Scan (Bool × Nat) := fun t =>
  match Text.startsWithFolded? "<input".toList t with
  | some rest => (historyIndex rest).map fun r => ((false, r.1), r.2)
  | none => (Text.startsWithFolded? "<reply".toList t).bind fun rest =>
    (historyIndex rest).map fun r => ((true, r.1), r.2)

/-- Put earlier messages and replies in their place. -/
def history (h : History) (t : Text) : Text :=
  historyTag.replaceAll (fun (reply, n) => (if reply then h.nthReply n else h.nthInput n).toList) t

/-- Put the user in place. -/
def user (name : String) (t : Text) : Text :=
  (Scan.opening "<id>").replaceAll (fun _ => name.toList) t

/-- Put spaces, line breaks and number signs in the place of their escapes. -/
def unescape (t : Text) : Text :=
  Text.replace ['\\', '#'] ['#'] <| Text.replace ['\\', 'n'] ['\n'] <|
    Text.replace ['\\', 's'] [' '] t

end Shorthand

end Repartee
