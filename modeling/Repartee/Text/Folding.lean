import Repartee.Text.CaseTable

/-!
# Case variants

* `caseVariants`: the characters that differ from a character only in letter case.
* `foldClass`: a class closed under letter case.
-/

namespace Repartee

/-- The code points whose partner is `n`. -/
def CaseShift.origin? (s : CaseShift) (n : Nat) : Option Char :=
  let m := ((n : Int) - s.delta).toNat
  if s.delta ≤ n ∧ s.first ≤ m ∧ m ≤ s.last ∧ (m - s.first) % s.step = 0 then some (Char.ofNat m)
  else none

/-- The case partners of a character in either direction. -/
def casePartners (c : Char) : List Char :=
  let n := c.toNat
  let ascii := if c.isUpper then [c.toLower] else if c.isLower then [c.toUpper] else []
  let shifts := lowercaseShifts ++ uppercaseShifts
  (ascii ++ shifts.filterMap (·.partner? n) ++ shifts.filterMap (·.origin? n)).filter
    fun d => d != 'ı' && d != 'İ'

/-- The characters that differ from `c` only in case, itself included. -/
def caseVariants (c : Char) : List Char :=
  if c = 'ı' ∨ c = 'İ' then [c]
  else
    let near := c :: casePartners c
    near ++ near.flatMap casePartners

/-- The characters of which some case variant is in a class. -/
def foldClass (p : Char → Bool) (c : Char) : Bool := (caseVariants c).any p

end Repartee
