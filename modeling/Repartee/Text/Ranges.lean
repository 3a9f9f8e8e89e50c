/-!
# Ranges of code points

* `Ranges.covers`: membership in a list of closed ranges.
* `CaseShift`: every `step`-th code point of a range, with the distance to its case partner.
-/

namespace Repartee

/-- Closed ranges of code points. -/
abbrev Ranges := List (Nat × Nat)

/-- Some range contains `n`. -/
def Ranges.covers (rs : Ranges) (n : Nat) : Bool := rs.any fun r => r.1 ≤ n && n ≤ r.2

/-- The code points `first, first + step, …, last`, each with its partner `delta` further on. -/
structure CaseShift where
  first : Nat
  last : Nat
  step : Nat
  delta : Int

/-- The partner of `n`, if `n` is one of the code points. -/
def CaseShift.partner? (s : CaseShift) (n : Nat) : Option Char :=
  if s.first ≤ n ∧ n ≤ s.last ∧ (n - s.first) % s.step = 0 then
    some (Char.ofNat (n + s.delta).toNat)
  else none

end Repartee
