import Repartee.Pattern.Basic
import Repartee.Proofs.Text.Scan
import Repartee.Proofs.Text.Words

/-!
# Texts that are read as they are written

* `Pattern.Pair`: an opening bracket and its partner.
* `Pattern.Legible`: a text that tidying leaves alone and whose brackets have their partners.
* `Pattern.Legible.append`, `Pattern.Legible.bar`, `Pattern.Legible.brackets`: how such texts are
  put together.
* **`Pattern.Legible.tidy`**: such a text is tidy if no space stands at its ends.
* `Pattern.Legible.closeGroup?`: its end is found as the end of a group.
* **`Pattern.alternatives_join`**: such texts with pipes between them are the alternatives of a
  bracket, trimmed.
-/

namespace Repartee

namespace Pattern

/-- An opening bracket and its partner. -/
inductive Pair : Char → Char → Prop
  | round : Pair '(' ')'
  | square : Pair '[' ']'

/-- Two characters that tidying leaves side by side. -/
def Fits (a b : Char) : Prop :=
  ¬(a = ' ' ∧ b = ' ') ∧ ¬(a = '|' ∧ (b = '|' ∨ b = ')' ∨ b = ']')) ∧
    ¬((a = '(' ∨ a = '[') ∧ b = '|')

/-- A text put before the first of some texts. -/
def beforeFirst (t : Text) : List Text → List Text
  | [] => [t]
  | w :: ws => (t ++ w) :: ws

/-- A text that stands for itself when it is tidied and cut; `depth` is the number of brackets that
have to be open around its pipes. -/
structure Legible (depth : Int) (t : Text) : Prop where
  clean : ∀ c ∈ t, c ≠ '\x7b' ∧ (isBlank c → c = ' ')
  fits : t.IsChain Fits
  first : ∀ c ∈ t.head?, c ≠ '|' ∧ c ≠ ')' ∧ c ≠ ']'
  last : ∀ c ∈ t.getLast?, c ≠ '|' ∧ c ≠ '(' ∧ c ≠ '['
  closes : ∀ d u, closeGroup? d (t ++ u) = (closeGroup? d u).map fun r => (t ++ r.1, r.2)
  whole : ∀ d, depth ≤ d → ∀ u, splitAt d (t ++ u) = beforeFirst t (splitAt d u)

variable {depth : Int} {t u : Text}

theorem beforeFirst_beforeFirst (ws : List Text) :
    beforeFirst t (beforeFirst u ws) = beforeFirst (t ++ u) ws := by
  cases ws with
  | nil => rfl
  | cons w ws => rw [beforeFirst, beforeFirst, beforeFirst, List.append_assoc]

theorem splitAt_cons_bar (u : Text) : splitAt 0 ('|' :: u) = [] :: splitAt 0 u := by
  simp [splitAt]

/-- A character that does not end an alternative is put before the rest of it. -/
theorem splitAt_cons {d : Int} {c : Char} (h : ¬(c = '|' ∧ d = 0)) (u : Text) :
    splitAt d (c :: u) = beforeFirst [c] (splitAt
      (if c = '(' ∨ c = '[' then d + 1 else if c = ')' ∨ c = ']' then d - 1 else d) u) := by
  rw [splitAt, if_neg h]
  dsimp only
  generalize splitAt _ u = ws
  cases ws <;> rfl

/-- A pair of brackets is not cut if what is in it is not. -/
theorem splitAt_brackets {l r : Char} (hp : Pair l r) {d : Int}
    (h : ∀ u, splitAt (d + 1) (t ++ u) = beforeFirst t (splitAt (d + 1) u)) (u : Text) :
    splitAt d (l :: (t ++ r :: u)) = beforeFirst (l :: (t ++ [r])) (splitAt d u) := by
  have hbar : l ≠ '|' ∧ r ≠ '|' := by cases hp <;> decide
  have hopen : l = '(' ∨ l = '[' := by cases hp <;> decide
  have hclose : ¬(r = '(' ∨ r = '[') ∧ (r = ')' ∨ r = ']') := by cases hp <;> decide
  rw [splitAt_cons (by simp [hbar.1]), if_pos hopen, h, splitAt_cons (by simp [hbar.2]),
    if_neg hclose.1, if_pos hclose.2, Int.add_sub_cancel, beforeFirst_beforeFirst,
    beforeFirst_beforeFirst]
  rfl

/-- A character that is no bracket of a group does not end one. -/
theorem closeGroup?_cons {c : Char} (hc : c ≠ '(' ∧ c ≠ ')') (d : Nat) (u : Text) :
    closeGroup? d (c :: u) = (closeGroup? d u).map fun r => (c :: r.1, r.2) := by
  cases d <;> simp [closeGroup?, hc]

/-- A pair of brackets does not end a group if what is in it does not. -/
theorem closeGroup?_brackets {l r : Char} (hp : Pair l r)
    (h : ∀ d u, closeGroup? d (t ++ u) = (closeGroup? d u).map fun r => (t ++ r.1, r.2)) (d : Nat)
    (u : Text) : closeGroup? d (l :: (t ++ r :: u)) =
      (closeGroup? d u).map fun x => (l :: (t ++ [r]) ++ x.1, x.2) := by
  cases hp with
  | round =>
    have hopen (w : Text) : closeGroup? d ('(' :: w) =
        (closeGroup? (d + 1) w).map fun r => ('(' :: r.1, r.2) := by
      cases d <;> simp [closeGroup?]
    have hclose (w : Text) : closeGroup? (d + 1) (')' :: w) =
        (closeGroup? d w).map fun r => (')' :: r.1, r.2) := by
      simp [closeGroup?]
    rw [hopen, h, hclose, Option.map_map, Option.map_map]
    simp only [Function.comp_def, List.cons_append, List.append_assoc, List.nil_append]
  | square =>
    rw [closeGroup?_cons (by decide), h, closeGroup?_cons (by decide), Option.map_map,
      Option.map_map]
    simp only [Function.comp_def, List.cons_append, List.append_assoc, List.nil_append]

namespace Legible

theorem nil : Legible depth [] where
  clean := by simp
  fits := .nil
  first := by simp
  last := by simp
  closes d u := by simp
  whole d _ u := by
    cases h : splitAt d u with
    | nil =>
      cases u with
      | nil => simp [splitAt] at h
      | cons c u =>
        simp only [splitAt] at h
        split at h <;> try split at h
        all_goals simp at h
    | cons w ws => simp [h, beforeFirst]

theorem mono {depth' : Int} (h : Legible depth t) (hd : depth ≤ depth') : Legible depth' t :=
  { h with whole := fun d hd' => h.whole d (Int.le_trans hd hd') }

/-- A character that neither separates nor is a bracket. -/
theorem char {c : Char} (hb : isBlank c → c = ' ')
    (h : c ∉ ['(', ')', '[', ']', '|', '\x7b']) : Legible depth [c] := by
  simp only [List.mem_cons, List.not_mem_nil, or_false, not_or] at h
  obtain ⟨h₁, h₂, h₃, h₄, h₅, h₆⟩ := h
  refine ⟨by simpa using ⟨h₆, hb⟩, .singleton c, by simp [*], by simp [*], fun d u => ?_,
    fun d _ u => ?_⟩
  · exact closeGroup?_cons ⟨h₁, h₂⟩ d u
  · rw [List.singleton_append, splitAt_cons (by simp [h₅])]
    simp [h₁, h₂, h₃, h₄]

/-- Two such texts in a row, unless a space of one meets a space of the other. -/
theorem append (ht : Legible depth t) (hu : Legible depth u)
    (h : ¬(t.getLast? = some ' ' ∧ u.head? = some ' ')) : Legible depth (t ++ u) where
  clean c hc := (List.mem_append.1 hc).elim (ht.clean c) (hu.clean c)
  fits := by
    refine List.isChain_append.2 ⟨ht.fits, hu.fits, fun a ha b hb => ?_⟩
    have h₁ := ht.last a ha
    have h₂ := hu.first b hb
    refine ⟨?_, by simp [h₁], by simp [h₁]⟩
    rintro ⟨rfl, rfl⟩
    exact h ⟨ha, hb⟩
  first := by
    cases t with
    | nil => exact hu.first
    | cons c t => exact ht.first
  last := by
    cases u using List.reverseRecOn with
    | nil => simpa using ht.last
    | append_singleton u c => simpa [← List.append_assoc] using hu.last
  closes d v := by
    rw [List.append_assoc, ht.closes, hu.closes, Option.map_map]
    simp only [Function.comp_def, List.append_assoc]
  whole d hd v := by
    rw [List.append_assoc, ht.whole d hd, hu.whole d hd, beforeFirst_beforeFirst]

/-- A character that is neither blank nor has a meaning for the structure of alternatives. -/
def isSolid (c : Char) : Bool :=
  !isBlank c && !(['(', ')', '[', ']', '|', '\x7b'].contains c)

theorem ne_space_of_isSolid {c : Char} (h : isSolid c) : c ≠ ' ' := by
  rintro rfl
  exact absurd h (by decide)

theorem of_solid : ∀ {t : Text}, (∀ c ∈ t, isSolid c) → Legible depth t
  | [], _ => nil
  | c :: t, h => by
    have hc := h c List.mem_cons_self
    have hne := ne_space_of_isSolid hc
    simp only [isSolid, Bool.and_eq_true, Bool.not_eq_true', List.contains_eq_mem,
      decide_eq_false_iff_not] at hc
    refine append (t := [c]) (char (by simp [hc.1]) hc.2)
      (of_solid fun d hd => h d (List.mem_cons_of_mem _ hd)) ?_
    simp [hne]

/-! ## Brackets -/

/-- Alternatives with a pipe between them are to stand in a bracket. -/
theorem bar (ht : Legible 1 t) (hu : Legible 1 u) (ht₀ : t ≠ []) (hu₀ : u ≠ []) :
    Legible 1 (t ++ '|' :: u) where
  clean c hc := by
    rcases List.mem_append.1 hc with hc | hc
    · exact ht.clean c hc
    · rcases List.mem_cons.1 hc with rfl | hc
      · decide
      · exact hu.clean c hc
  fits := by
    obtain ⟨b, u, rfl⟩ := List.exists_cons_of_ne_nil hu₀
    have hb := hu.first b rfl
    refine List.isChain_append.2 ⟨ht.fits, .cons_cons ⟨by simp, by simp [hb], by simp⟩ hu.fits, ?_⟩
    rintro a ha _ ⟨rfl⟩
    have h := ht.last a ha
    exact ⟨by simp, by simp [h], by simp [h]⟩
  first := by
    obtain ⟨a, t, rfl⟩ := List.exists_cons_of_ne_nil ht₀
    exact ht.first
  last := by
    obtain ⟨b, u, rfl⟩ := List.exists_cons_of_ne_nil hu₀
    simpa [List.getLast?_append] using hu.last
  closes d v := by
    rw [List.append_assoc, ht.closes, List.cons_append, closeGroup?_cons (by decide), hu.closes,
      Option.map_map, Option.map_map]
    simp only [Function.comp_def, List.append_assoc, List.cons_append]
  whole d hd v := by
    have hd₀ : d ≠ 0 := by omega
    rw [List.append_assoc, ht.whole d hd, List.cons_append, splitAt_cons (by simp [hd₀])]
    simp only [reduceIte, Char.reduceEq, or_self]
    rw [hu.whole d hd, beforeFirst_beforeFirst, beforeFirst_beforeFirst, List.append_assoc]
    rfl

/-- A pair of brackets around such a text. -/
theorem brackets {l r : Char} (hp : Pair l r) (ht : Legible 1 t) (ht₀ : t ≠ []) :
    Legible 0 (l :: (t ++ [r])) where
  clean c hc := by
    rcases List.mem_cons.1 hc with rfl | hc
    · cases hp <;> decide
    rcases List.mem_append.1 hc with hc | hc
    · exact ht.clean c hc
    · rw [List.mem_singleton.1 hc]
      cases hp <;> decide
  fits := by
    obtain ⟨a, s, hs⟩ := List.exists_cons_of_ne_nil ht₀
    have ha := ht.first a (by rw [hs]; rfl)
    have hend : (t ++ [r]).IsChain Fits := by
      refine List.isChain_append.2 ⟨ht.fits, .singleton _, ?_⟩
      rintro b hb _ ⟨rfl⟩
      have h := ht.last b hb
      cases hp <;> exact ⟨by simp, by simp [h], by simp⟩
    rw [hs] at hend ⊢
    refine .cons_cons ?_ hend
    cases hp <;> exact ⟨by simp, by simp, by simp [ha]⟩
  first := by cases hp <;> simp
  last c hc := by
    rw [← List.cons_append, List.getLast?_concat] at hc
    cases hc
    cases hp <;> decide
  closes d v := by
    rw [List.cons_append, List.append_assoc, List.singleton_append,
      closeGroup?_brackets hp ht.closes]
  whole d hd v := by
    rw [List.cons_append, List.append_assoc, List.singleton_append]
    exact splitAt_brackets hp (ht.whole (d + 1) (by omega)) v

/-! ## Tidying -/

theorem mergePipes_eq_self : ∀ {t : Text}, t.IsChain Fits → mergePipes t = t
  | [], _ => rfl
  | [c], _ => by simp [mergePipes]
  | c :: d :: t, h => by
    obtain ⟨hcd, hd⟩ := List.isChain_cons_cons.1 h
    have ih := mergePipes_eq_self hd
    have hne : ¬(c = '|' ∧ d = '|') := fun ⟨hc, hd⟩ => hcd.2.1 ⟨hc, .inl hd⟩
    rw [mergePipes, List.foldr_cons]
    rw [mergePipes] at ih
    rw [ih]
    simpa using hne

theorem dropLeadingPipes_eq_self : ∀ {t : Text}, t.IsChain Fits → dropLeadingPipes t = t
  | [], _ => rfl
  | [c], _ => by simp [dropLeadingPipes]
  | c :: d :: t, h => by
    obtain ⟨hcd, hd⟩ := List.isChain_cons_cons.1 h
    have ih := dropLeadingPipes_eq_self hd
    rw [dropLeadingPipes, List.foldr_cons]
    rw [dropLeadingPipes] at ih
    rw [ih]
    split
    · rename_i hc
      have hne : d ≠ '|' := fun hd => hcd.2.2 ⟨hc, hd⟩
      rw [List.dropWhile_cons_of_neg (by simpa using hne)]
    · rfl

theorem dropTrailingPipes_eq_self : ∀ {t : Text}, t.IsChain Fits → dropTrailingPipes t = t
  | [], _ => rfl
  | [c], _ => by simp [dropTrailingPipes]
  | c :: d :: t, h => by
    obtain ⟨hcd, hd⟩ := List.isChain_cons_cons.1 h
    have ih := dropTrailingPipes_eq_self hd
    have hne : ¬(c = '|' ∧ (d = ')' ∨ d = ']')) := fun ⟨hc, hd⟩ => hcd.2.1 ⟨hc, .inr hd⟩
    rw [dropTrailingPipes, List.foldr_cons]
    rw [dropTrailingPipes] at ih
    rw [ih]
    simpa using hne

theorem strip_eq_self (h : Legible depth t) (h₁ : t.head? ≠ some ' ')
    (h₂ : t.getLast? ≠ some ' ') : Metadata.strip t = t := by
  have hscan :
      (Metadata.weightTag.orElse Metadata.levelTag).replaceAll (fun _ => [' ']) t = t := by
    have hneeds : (Metadata.weightTag.orElse Metadata.levelTag).Needs '\x7b' :=
      (Scan.needs_delimited rfl rfl).orElse (Scan.needs_delimited rfl rfl)
    exact Scan.replaceAll_of_find? (hneeds.find?_eq_none fun hm => (h.clean _ hm).1 rfl)
  have hblank : ∀ c ∈ t, isBlank c → c = ' ' := fun c hc => (h.clean c hc).2
  rw [Metadata.strip, hscan]
  refine Text.squeeze_eq_self ⟨?_, fun c hc => ?_, fun c hc => ?_⟩ hblank
  · refine h.fits.imp_of_mem_imp fun a b ha hb hab => ?_
    exact fun ⟨h₁, h₂⟩ => hab.1 ⟨hblank a ha h₁, hblank b hb h₂⟩
  · by_contra hb
    rw [hblank c (List.mem_of_mem_head? hc) (by simpa using hb)] at hc
    exact h₁ hc
  · by_contra hb
    rw [hblank c (List.mem_of_mem_getLast? hc) (by simpa using hb)] at hc
    exact h₂ hc

/-- **A legible text is tidy if no space stands at its ends.** -/
theorem tidy (h : Legible depth t) (h₁ : t.head? ≠ some ' ') (h₂ : t.getLast? ≠ some ' ') :
    Pattern.tidy t = t := by
  rw [Pattern.tidy, h.strip_eq_self h₁ h₂, mergePipes_eq_self h.fits,
    dropLeadingPipes_eq_self h.fits, dropTrailingPipes_eq_self h.fits]

/-! ## Reading brackets -/

/-- The end of a legible text is found as the end of a group. -/
theorem closeGroup? (h : Legible depth t) (u : Text) :
    Pattern.closeGroup? 0 (t ++ ')' :: u) = some (t, u) := by
  rw [h.closes, Pattern.closeGroup?]
  simp

theorem splitAt_eq (h : Legible 0 t) : splitAt 0 t = [t] := by
  have hw := h.whole 0 (Int.le_refl 0) []
  rwa [List.append_nil, splitAt, beforeFirst, List.append_nil] at hw

theorem splitAt_bar (h : Legible 0 t) (u : Text) :
    splitAt 0 (t ++ '|' :: u) = t :: splitAt 0 u := by
  rw [h.whole 0 (Int.le_refl 0), splitAt_cons_bar, beforeFirst, List.append_nil]

theorem splitAt_join : ∀ {ts : List Text}, (∀ t ∈ ts, Legible 0 t) → ts ≠ [] →
    splitAt 0 (Text.join ['|'] ts) = ts
  | [t], h, _ => (h t List.mem_cons_self).splitAt_eq
  | t :: u :: ts, h, _ => by
    have ih := splitAt_join (fun v hv => h v (List.mem_cons_of_mem t hv)) (List.cons_ne_nil u ts)
    rw [Text.join, List.append_assoc, List.singleton_append,
      (h t List.mem_cons_self).splitAt_bar, ih]

end Legible

/-- **Legible texts with pipes between them are the alternatives of a bracket, trimmed.** -/
theorem alternatives_join {ts : List Text} (h : ∀ t ∈ ts, Legible 0 t) (h₀ : ts ≠ [])
    (hblank : ∀ t ∈ ts, t.trim ≠ []) : alternatives (Text.join ['|'] ts) = ts.map Text.trim := by
  rw [alternatives, Legible.splitAt_join h h₀, List.filter_eq_self]
  rintro _ hu
  obtain ⟨t, ht, rfl⟩ := List.mem_map.1 hu
  simpa using hblank t ht

end Pattern

end Repartee
