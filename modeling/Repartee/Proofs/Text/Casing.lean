import Repartee.Proofs.Text.Clear
import Repartee.Text.Casing

/-!
# Letter case and clear texts

No change of letter case leads to one of the first characters.

* `lowercaseShifts_land`, `uppercaseShifts_land`: where the case partners of the tables are.
* `clear_lowerChar`, `clear_upperChar`: the cases of one character.
* **`Casing.clear_apply`**: a change of letter case leaves a clear text clear.
-/

namespace Repartee

/-! ## Case partners -/

theorem toNat_ofNat {n : Nat} (h : n.isValidChar) : (Char.ofNat n).toNat = n := by
  rw [Char.ofNat, dif_pos h]
  rfl

/-- The partners of a range are characters, and none of the first four. -/
def CaseShift.Lands (s : CaseShift) : Prop :=
  4 ≤ s.first + s.delta ∧
    (s.last + s.delta < 0xD800 ∨ 0xE000 ≤ s.first + s.delta ∧ s.last + s.delta < 0x110000)

instance (s : CaseShift) : Decidable s.Lands :=
  inferInstanceAs (Decidable (_ ∧ (_ ∨ _ ∧ _)))

theorem lowercaseShifts_land : ∀ s ∈ lowercaseShifts, s.Lands := by
  have h : (lowercaseShifts.all fun s => decide s.Lands) = true := by decide +kernel
  exact fun s hs => of_decide_eq_true (List.all_eq_true.1 h s hs)

theorem uppercaseShifts_land : ∀ s ∈ uppercaseShifts, s.Lands := by
  have h : (uppercaseShifts.all fun s => decide s.Lands) = true := by decide +kernel
  exact fun s hs => of_decide_eq_true (List.all_eq_true.1 h s hs)

theorem uppercaseExpansions_land : ∀ e ∈ uppercaseExpansions, ∀ k ∈ e.2, 4 ≤ k ∧ k < 0xD800 := by
  have h : (uppercaseExpansions.all fun e => e.2.all fun k => decide (4 ≤ k ∧ k < 0xD800)) =
      true := by
    decide +kernel
  exact fun e he k hk => of_decide_eq_true (List.all_eq_true.1 (List.all_eq_true.1 h e he) k hk)

theorem CaseShift.Lands.partner {s : CaseShift} (h : s.Lands) {k : Nat} {c : Char}
    (hc : s.partner? k = some c) : 4 ≤ c.toNat := by
  rw [partner?] at hc
  split at hc
  · rename_i hk
    obtain ⟨hfirst, hlast, -⟩ := hk
    obtain ⟨hlow, hhigh⟩ := h
    have hvalid : (k + s.delta).toNat.isValidChar := by
      rw [Nat.isValidChar]
      omega
    obtain rfl := Option.some_inj.1 hc
    rw [toNat_ofNat hvalid]
    omega
  · cases hc

variable {n : Nat} {t : Text}

/-- The case partner of a character, if there is one, else the character. -/
theorem clear_partner (hn : n ≤ 4) {shifts : List CaseShift} (h : ∀ s ∈ shifts, s.Lands) {c : Char}
    (hc : n ≤ c.toNat) :
    Text.Clear n [(shifts.findSome? (·.partner? c.toNat)).getD c] := by
  refine Text.clear_cons.2 ⟨?_, Text.clear_nil⟩
  cases hfind : shifts.findSome? (·.partner? c.toNat) with
  | none => exact hc
  | some d =>
    obtain ⟨s, hs, hd⟩ := List.exists_of_findSome?_eq_some hfind
    exact hn.trans ((h s hs).partner hd)

/-! ## Single characters -/

/-- The other case of a character of ASCII is the character or none of the first four. -/
theorem ascii_case {c : Char} (hc : c.toNat < 128) :
    (c.toLower = c ∨ 4 ≤ c.toLower.toNat) ∧ (c.toUpper = c ∨ 4 ≤ c.toUpper.toNat) := by
  have h : ((List.range 128).all fun k => decide
      (((Char.ofNat k).toLower = Char.ofNat k ∨ 4 ≤ (Char.ofNat k).toLower.toNat) ∧
        ((Char.ofNat k).toUpper = Char.ofNat k ∨ 4 ≤ (Char.ofNat k).toUpper.toNat))) = true := by
    decide +kernel
  have hcase := of_decide_eq_true (List.all_eq_true.1 h c.toNat (List.mem_range.2 hc))
  rwa [Char.ofNat_toNat] at hcase

theorem clear_lowerChar (hn : n ≤ 4) {c : Char} (hc : n ≤ c.toNat) :
    Text.Clear n (lowerChar c) := by
  rw [lowerChar]
  split
  · rename_i hascii
    refine Text.clear_cons.2 ⟨?_, Text.clear_nil⟩
    rcases (ascii_case hascii).1 with h | h
    · rwa [h]
    · exact hn.trans h
  · split
    · exact Text.clear_of_all hn (by decide)
    · exact clear_partner hn lowercaseShifts_land hc

theorem clear_upperChar (hn : n ≤ 4) {c : Char} (hc : n ≤ c.toNat) :
    Text.Clear n (upperChar c) := by
  rw [upperChar]
  split
  · rename_i hascii
    refine Text.clear_cons.2 ⟨?_, Text.clear_nil⟩
    rcases (ascii_case hascii).2 with h | h
    · rwa [h]
    · exact hn.trans h
  · split
    · rename_i ks hlookup
      intro d hd
      obtain ⟨k, hk, rfl⟩ := List.mem_map.1 hd
      obtain ⟨before, after, hsplit, -⟩ := List.lookup_eq_some_iff.1 hlookup
      obtain ⟨hlow, hhigh⟩ := uppercaseExpansions_land (c.toNat, ks) (by simp [hsplit]) k hk
      rw [toNat_ofNat (.inl hhigh)]
      exact hn.trans hlow
    · exact clear_partner hn uppercaseShifts_land hc

/-! ## Texts -/

namespace Text

theorem clear_lower (hn : n ≤ 4) (h : t.Clear n) : (lower t).Clear n := by
  have hafter : ∀ (t before : Text), t.Clear n → (lowerAfter before t).Clear n := by
    intro t
    induction t with
    | nil => exact fun _ _ => clear_nil
    | cons c cs ih =>
      intro before ht
      obtain ⟨hc, hcs⟩ := clear_cons.1 ht
      refine Clear.append ?_ (ih _ hcs)
      split
      · split <;> exact clear_of_all hn (by decide)
      · exact clear_lowerChar hn hc
  exact hafter t [] h

theorem clear_upper (hn : n ≤ 4) (h : t.Clear n) : (upper t).Clear n :=
  clear_flatMap fun c hc => clear_upperChar hn (h c hc)

theorem clear_capitalize (hn : n ≤ 4) (h : t.Clear n) : (capitalize t).Clear n := by
  cases t with
  | nil => exact clear_nil
  | cons c cs =>
    obtain ⟨hc, hcs⟩ := clear_cons.1 h
    exact (clear_upperChar hn hc).append hcs

end Text

/-- **A change of letter case leaves a clear text clear.** -/
theorem Casing.clear_apply (hn : n ≤ 4) (c : Casing) (h : t.Clear n) : (c.apply t).Clear n := by
  cases c with
  | upper => exact Text.clear_upper hn h
  | lower => exact Text.clear_lower hn h
  | sentence => exact Text.clear_capitalize hn h
  | formal =>
    refine Text.clear_join (Text.clear_of_all hn (by decide)) fun w hw => ?_
    obtain ⟨v, hv, rfl⟩ := List.mem_map.1 hw
    exact Text.clear_capitalize hn (h.pieces v hv)

end Repartee
