import Repartee.Regex.Basic

/-!
# Searching

* `Regex.occursIn`: some place of the text starts a match.
* `Regex.remove`: delete the matches of an expression, from left to right.
-/

namespace Repartee

namespace Regex

/-- The expression matches somewhere from a position on, `last` being the character before it. -/
def occursFrom (r : Regex) : (pos : Nat) → (last : Option Char) → Text → Bool
  | pos, last, [] => !(r.outcomes ⟨pos, last, []⟩).isEmpty
  | pos, last, c :: cs =>
    !(r.outcomes ⟨pos, last, c :: cs⟩).isEmpty || occursFrom r (pos + 1) (some c) cs

/-- The expression matches somewhere in the text. -/
def occursIn (r : Regex) (t : Text) : Bool := r.occursFrom 0 none t

/-- Deletion from a position on, with the characters before `stop` left to drop. -/
def removeFrom (r : Regex) : (stop pos : Nat) → (last : Option Char) → Text → Text
  | _, _, _, [] => []
  | stop, pos, last, c :: cs =>
    if pos < stop then removeFrom r stop (pos + 1) (some c) cs
    else
      match (r.outcomes ⟨pos, last, c :: cs⟩).head? with
      | none => c :: removeFrom r stop (pos + 1) (some c) cs
      | some o =>
        if pos < o.stop.pos then removeFrom r o.stop.pos (pos + 1) (some c) cs
        else c :: removeFrom r stop (pos + 1) (some c) cs

/-- Delete the preferred matches, from left to right; an empty match deletes nothing. -/
def remove (r : Regex) (t : Text) : Text := r.removeFrom 0 0 none t

end Regex

end Repartee
