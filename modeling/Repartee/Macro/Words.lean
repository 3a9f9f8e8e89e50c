import Repartee.Text.Blank

/-!
# Words of a call

* `callWords`: cut at blanks; double quotes keep a span together and are dropped.
-/

namespace Repartee

/-- Words of a text that goes on after `current`, which is read backwards; `pending` tells whether
a word has begun, maybe with nothing in it yet. -/
def callWordsFrom (current : Text) (quoted pending : Bool) : Text → List Text
  | [] => if pending then [current.reverse] else []
  | c :: cs =>
    if c = '"' then callWordsFrom current (!quoted) true cs
    else if isBlank c && !quoted then
      if pending then current.reverse :: callWordsFrom [] quoted false cs
      else callWordsFrom current quoted false cs
    else callWordsFrom (c :: current) quoted true cs

/-- The words of a call. -/
def callWords (t : Text) : List Text := callWordsFrom [] false false t

end Repartee
