import Mathlib.Data.Bool.AllAny
import Repartee.Proofs.Text.Casing
import Repartee.Proofs.Text.Words

/-!
# Lower case and words

Lower case is taken word by word, and neither makes nor loses what separates words.

* `caseless`: white space and the usual punctuation.
* `eq_of_mem_lowerChar`: no other character has one of these as its lower case.
* `Text.lower_append_blank`: lower case on both sides of a blank.
* **`Text.lower_join`**: the lower case of words is that of each word.
* **`Text.lower_congr`**, `Text.words_lower_congr`: texts that differ in the case of ASCII letters
  have one lower case, and so have their words.
-/

namespace Repartee

/-! ## Characters without letter case -/

/-- The code points of white space and of the usual punctuation. -/
def caseless : List Nat := blankCodes ++ ".,!?;:".toList.map Char.toNat

/-- No partner of the range is one of some code points. -/
def CaseShift.Misses (codes : List Nat) (s : CaseShift) : Prop :=
  ∀ k ∈ codes, ¬(s.first + s.delta ≤ k ∧ k ≤ s.last + s.delta)

instance (codes : List Nat) (s : CaseShift) : Decidable (s.Misses codes) := List.decidableBAll ..

theorem lowercaseShifts_miss : ∀ s ∈ lowercaseShifts, s.Misses caseless := by
  have h : (lowercaseShifts.all fun s => decide (s.Misses caseless)) = true := by decide +kernel
  exact fun s hs => of_decide_eq_true (List.all_eq_true.1 h s hs)

theorem CaseShift.Misses.partner {codes : List Nat} {s : CaseShift} (h : s.Misses codes)
    (hland : s.Lands) {k : Nat} {c : Char} (hc : s.partner? k = some c) : c.toNat ∉ codes := by
  rw [partner?] at hc
  split at hc
  · rename_i hk
    obtain ⟨hfirst, hlast, -⟩ := hk
    obtain ⟨hlow, hhigh⟩ := hland
    have hvalid : (k + s.delta).toNat.isValidChar := by
      rw [Nat.isValidChar]
      omega
    obtain rfl := Option.some_inj.1 hc
    rw [toNat_ofNat hvalid]
    intro hmem
    refine h _ hmem ⟨?_, ?_⟩ <;> omega
  · cases hc

/-- Only a caseless character itself has it as its lower case. -/
theorem eq_of_mem_lowerChar {c d : Char} (h : d ∈ lowerChar c) (hd : d.toNat ∈ caseless) :
    c = d := by
  have hascii : ((List.range 128).all fun k => decide ((Char.ofNat k).toLower.toNat ∈ caseless →
      (Char.ofNat k).toLower = Char.ofNat k)) = true := by
    decide +kernel
  rw [lowerChar] at h
  split at h
  · rename_i hc
    have hsame := of_decide_eq_true (List.all_eq_true.1 hascii c.toNat (List.mem_range.2 hc))
    rw [Char.ofNat_toNat, ← List.mem_singleton.1 h] at hsame
    exact (hsame hd).symm
  · split at h
    · have hno : ∀ e ∈ ['i', '\u0307'], e.toNat ∉ caseless :=
        List.all_iff_forall_prop.1 (by decide)
      exact absurd hd (hno d h)
    · rw [List.mem_singleton] at h
      subst h
      cases hfind : lowercaseShifts.findSome? (·.partner? c.toNat) with
      | none => rfl
      | some e =>
        obtain ⟨s, hs, he⟩ := List.exists_of_findSome?_eq_some hfind
        rw [hfind] at hd
        exact absurd hd ((lowercaseShifts_miss s hs).partner (lowercaseShifts_land s hs) he)

theorem lowerChar_of_caseless {c : Char} (h : c.toNat ∈ caseless) : lowerChar c = [c] := by
  have hsame : (caseless.all fun k =>
      decide (lowerChar (Char.ofNat k) = [Char.ofNat k])) = true := by
    decide +kernel
  have hc := of_decide_eq_true (List.all_eq_true.1 hsame c.toNat h)
  rwa [Char.ofNat_toNat] at hc

theorem mem_caseless_of_isBlank {c : Char} (h : isBlank c) : c.toNat ∈ caseless :=
  List.mem_append_left _ (mem_blankCodes h)

namespace Text

variable {t u before before' : Text} {c : Char}

theorem lowerAfter_ne_nil (h : t ≠ []) : lowerAfter before t ≠ [] := by
  cases t with
  | nil => exact absurd rfl h
  | cons c cs =>
    intro hnil
    obtain ⟨hc, -⟩ := List.append_eq_nil_iff.1 hnil
    split at hc
    · cases hc
    · rw [lowerChar] at hc
      split at hc
      · cases hc
      · split at hc <;> cases hc

theorem mem_of_mem_lowerAfter (hc : c.toNat ∈ caseless) :
    ∀ {t before : Text}, c ∈ lowerAfter before t → c ∈ t
  | [], _, h => by cases h
  | d :: ds, before, h => by
    rcases List.mem_append.1 h with h | h
    · split at h
      · have hno : ∀ e ∈ ['ς', 'σ'], e.toNat ∉ caseless :=
          List.all_iff_forall_prop.1 (by decide)
        refine absurd hc (hno c ?_)
        split at h <;> simp_all
      · exact List.mem_cons.2 (.inl (eq_of_mem_lowerChar h hc).symm)
    · exact List.mem_cons_of_mem d (mem_of_mem_lowerAfter hc h)

theorem mem_lowerAfter_of_mem (hc : c.toNat ∈ caseless) :
    ∀ {t before : Text}, c ∈ t → c ∈ lowerAfter before t
  | d :: ds, before, h => by
    rcases List.mem_cons.1 h with rfl | h
    · have hsigma : c ≠ 'Σ' := by
        rintro rfl
        exact absurd hc (by decide)
      rw [lowerAfter, if_neg hsigma, lowerChar_of_caseless hc]
      exact List.mem_cons_self
    · exact List.mem_append_right _ (mem_lowerAfter_of_mem hc h)

/-- Lower case neither makes nor loses caseless characters. -/
theorem mem_lower_iff (hc : c.toNat ∈ caseless) : c ∈ lower t ↔ c ∈ t :=
  ⟨mem_of_mem_lowerAfter hc, mem_lowerAfter_of_mem hc⟩

/-- A text of characters that are their own lower case is its own lower case. -/
theorem lower_eq_self (h : ∀ c ∈ t, lowerChar c = [c] ∧ c ≠ 'Σ') : lower t = t := by
  have hafter : ∀ {t before : Text}, (∀ c ∈ t, lowerChar c = [c] ∧ c ≠ 'Σ') →
      lowerAfter before t = t := by
    intro t
    induction t with
    | nil => exact fun _ => rfl
    | cons c cs ih =>
      intro before hcs
      rw [List.forall_mem_cons] at hcs
      rw [lowerAfter, if_neg hcs.1.2, hcs.1.1, ih hcs.2, List.singleton_append]
  exact hafter h

/-! ## Words -/

/-- There is no blank in the lower case of a text without one. -/
theorem isBlank_of_mem_lower (h : ∀ c ∈ t, isBlank c = false) :
    ∀ c ∈ lower t, isBlank c = false := by
  intro c hc
  by_contra hb
  have hb : isBlank c := by simpa using hb
  rw [h c ((mem_lower_iff (mem_caseless_of_isBlank hb)).1 hc)] at hb
  exact Bool.false_ne_true hb

theorem IsWord.lower (h : t.IsWord) : (lower t).IsWord :=
  ⟨lowerAfter_ne_nil h.1, isBlank_of_mem_lower h.2⟩

/-- A blank is passed over on the way to no cased character. -/
theorem not_cased_of_isBlank {b : Char} (hb : isBlank b) :
    isCaseIgnorable b = false ∧ isCased b = false ∧ b ≠ 'Σ' := by
  have hcodes : ∀ k ∈ blankCodes, isCaseIgnorable (Char.ofNat k) = false ∧
      isCased (Char.ofNat k) = false ∧ Char.ofNat k ≠ 'Σ' := by decide +kernel
  have hcode := hcodes b.toNat (mem_blankCodes hb)
  rwa [Char.ofNat_toNat] at hcode

/-- What leads to a cased character is not looked for beyond a blank. -/
theorem leadsToCased_append_blank {b : Char} (hb : isBlank b) :
    leadsToCased (t ++ b :: u) = leadsToCased t := by
  obtain ⟨hignorable, hcased, -⟩ := not_cased_of_isBlank hb
  rw [leadsToCased, leadsToCased, List.dropWhile_append]
  cases h : t.dropWhile isCaseIgnorable with
  | nil => simp [hignorable, hcased]
  | cons c cs => rfl

/-- Lower case on both sides of a blank. -/
theorem lowerAfter_append_blank {b : Char} (hb : isBlank b) : ∀ t before : Text,
    lowerAfter before (t ++ b :: u) = lowerAfter before t ++ b :: lower u
  | [], before => by
    have hbefore : ∀ u near : Text, lowerAfter (near ++ b :: before) u = lowerAfter near u := by
      intro u
      induction u with
      | nil => exact fun _ => rfl
      | cons c cs ih =>
        intro near
        have := ih (c :: near)
        rw [List.cons_append] at this
        rw [lowerAfter, lowerAfter, endsWord, endsWord, leadsToCased_append_blank hb, this]
    have hrest := hbefore u []
    rw [List.nil_append] at hrest
    rw [List.nil_append, lowerAfter, lowerAfter, if_neg (not_cased_of_isBlank hb).2.2,
      lowerChar_of_caseless (mem_caseless_of_isBlank hb), hrest, lower, List.singleton_append,
      List.nil_append]
  | c :: t, before => by
    rw [List.cons_append, lowerAfter, lowerAfter, endsWord, endsWord,
      leadsToCased_append_blank hb, lowerAfter_append_blank hb t (c :: before), List.append_assoc]

theorem lower_append_blank {b : Char} (hb : isBlank b) (t u : Text) :
    lower (t ++ b :: u) = lower t ++ b :: lower u :=
  lowerAfter_append_blank hb t []

/-- **The lower case of words is that of each word.** -/
theorem lower_join : ∀ ws : List Text, lower (join [' '] ws) = join [' '] (ws.map lower)
  | [] => rfl
  | [_] => rfl
  | w :: v :: ws => by
    have hne : (v :: ws).map lower ≠ [] := List.cons_ne_nil _ _
    rw [join_cons _ w (List.cons_ne_nil v ws), List.append_assoc, List.singleton_append,
      lower_append_blank rfl, lower_join (v :: ws), @List.map_cons _ _ lower w,
      join_cons _ (lower w) hne, List.append_assoc, List.singleton_append]

/-- The words of the lower case of a phrase. -/
theorem IsPhrase.words_lower (h : t.IsPhrase) : (Text.lower t).words = t.words.map Text.lower := by
  conv_lhs => rw [← h.2, squeeze, lower_join]
  refine words_join fun w hw => ?_
  obtain ⟨v, hv, rfl⟩ := List.mem_map.1 hw
  exact (isWord_of_mem_words hv).lower

theorem IsPhrase.lower (h : t.IsPhrase) : (Text.lower t).IsPhrase := by
  refine ⟨lowerAfter_ne_nil h.1, ?_⟩
  rw [squeeze, h.words_lower, ← lower_join, ← squeeze, h.2]

/-! ## ASCII letters -/

/-- The case of an ASCII letter matters neither to its lower case, nor to that of its neighbours,
nor to the words. -/
theorem lowerChar_toLower (c : Char) : lowerChar c.toLower = lowerChar c ∧
    isCased c.toLower = isCased c ∧ isCaseIgnorable c.toLower = isCaseIgnorable c ∧
    isBlank c.toLower = isBlank c ∧ (c.toLower = 'Σ' ↔ c = 'Σ') := by
  have hascii : ((List.range 128).all fun k =>
      let c := Char.ofNat k
      decide (lowerChar c.toLower = lowerChar c ∧ isCased c.toLower = isCased c ∧
        isCaseIgnorable c.toLower = isCaseIgnorable c ∧ isBlank c.toLower = isBlank c ∧
        (c.toLower = 'Σ' ↔ c = 'Σ'))) = true := by
    decide +kernel
  by_cases hc : c.toNat < 128
  · have hcase := of_decide_eq_true (List.all_eq_true.1 hascii c.toNat (List.mem_range.2 hc))
    rwa [Char.ofNat_toNat] at hcase
  · have hsame : c.toLower = c := by
      refine dif_neg ?_
      rintro ⟨-, hz⟩
      have := UInt32.le_iff_toNat_le.1 hz
      change c.toNat ≤ 90 at this
      omega
    rw [hsame]
    exact ⟨rfl, rfl, rfl, rfl, Iff.rfl⟩

theorem leadsToCased_map_toLower : ∀ t : Text, leadsToCased (t.map Char.toLower) = leadsToCased t
  | [] => rfl
  | c :: t => by
    obtain ⟨-, hcased, hignorable, -, -⟩ := lowerChar_toLower c
    have ih := leadsToCased_map_toLower t
    rw [leadsToCased, leadsToCased] at ih ⊢
    by_cases hc : isCaseIgnorable c
    · rw [List.map_cons, List.dropWhile_cons_of_pos (hignorable.trans hc),
        List.dropWhile_cons_of_pos hc, ih]
    · rw [List.map_cons, List.dropWhile_cons_of_neg (hignorable ▸ hc),
        List.dropWhile_cons_of_neg hc]
      exact hcased

theorem lowerAfter_map_toLower : ∀ t before : Text,
    lowerAfter (before.map Char.toLower) (t.map Char.toLower) = lowerAfter before t
  | [], _ => rfl
  | c :: t, before => by
    obtain ⟨hlower, -, -, -, hsigma⟩ := lowerChar_toLower c
    have ih := lowerAfter_map_toLower t (c :: before)
    rw [List.map_cons] at ih
    rw [List.map_cons, lowerAfter, lowerAfter, ih, endsWord, endsWord, leadsToCased_map_toLower,
      leadsToCased_map_toLower, hlower]
    simp only [hsigma]

/-- **Texts that differ in the case of ASCII letters have one lower case.** -/
theorem lower_congr (h : t.map Char.toLower = u.map Char.toLower) : lower t = lower u :=
  calc lower t = lower (t.map Char.toLower) := (lowerAfter_map_toLower t []).symm
    _ = lower (u.map Char.toLower) := by rw [h]
    _ = lower u := lowerAfter_map_toLower u []

/-- If the case of its ASCII letters is all that makes a text differ from a phrase, then neither end
of it is blank. -/
theorem IsPhrase.ends_congr (hu : u.IsPhrase) (h : t.map Char.toLower = u.map Char.toLower) :
    (∀ c ∈ t.head?, isBlank c = false) ∧ ∀ c ∈ t.getLast?, isBlank c = false := by
  have hend {o o' : Option Char} (ho : o.map Char.toLower = o'.map Char.toLower)
      (hblank : ∀ c ∈ o', isBlank c = false) : ∀ c ∈ o, isBlank c = false := by
    rintro c rfl
    obtain ⟨d, hd, hdc⟩ := Option.map_eq_some_iff.1 ho.symm
    have hcase (c : Char) : isBlank c.toLower = isBlank c := (lowerChar_toLower c).2.2.2.1
    rw [← hcase, ← hdc, hcase, hblank d hd]
  refine ⟨hend ?_ hu.ends.1, hend ?_ hu.ends.2⟩
  · rw [← List.head?_map, h, List.head?_map]
  · rw [← List.getLast?_map, h, List.getLast?_map]

/-- Texts that differ in the case of ASCII letters have words with the same lower cases. -/
theorem words_lower_congr (h : t.map Char.toLower = u.map Char.toLower) :
    t.words.map lower = u.words.map lower := by
  have hwords (t : Text) : (words (t.map Char.toLower)).map lower = t.words.map lower := by
    rw [words_map fun c => (lowerChar_toLower c).2.2.2.1, List.map_map]
    exact List.map_congr_left fun w _ => lowerAfter_map_toLower w []
  rw [← hwords t, h, hwords u]

end Text

end Repartee
