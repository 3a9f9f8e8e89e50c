import Mathlib.Computability.Language
import Repartee.Proofs.Regex.Places

/-!
# The language of an expression

On texts of one line an expression without copies and assertions matches the texts of a language,
whatever stands before them.

* `Regex.Denotes`: what the expression reads from any place on is a text of the language.
* `Regex.Appends`: put behind an expression, some expressions extend its language by another one.
* `Regex.Denotes.concat`, `Regex.Denotes.oneOf`: products and sums of languages.
* **`Regex.Denotes.fullMatch?`**: the expression matches the texts of its language as a whole.
-/

namespace Repartee

namespace Regex

/-- From any place of one line on the expression reads the texts of a language. -/
structure Denotes (r : Regex) (L : Language Char) : Prop where
  plain : r.plain = true
  reaches : ∀ p q : Place, '\n' ∉ p.rest → (r.Reaches p q ↔ ∃ t ∈ L, p.Reads t q)

variable {r s : Regex} {rs ss : List Regex} {L M : Language Char}

theorem Place.Reads.notMem {p q : Place} {t : Text} {c : Char} (h : p.Reads t q)
    (hc : c ∉ p.rest) : c ∉ t ∧ c ∉ q.rest := by
  rw [h.rest, List.mem_append, not_or] at hc
  exact hc

/-- **An expression matches the texts of its language.** -/
theorem Denotes.fullMatch? (h : r.Denotes L) {t : Text} (ht : '\n' ∉ t) :
    (r.fullMatch? t).isSome ↔ t ∈ L := by
  rw [fullMatch?_isSome h.plain]
  constructor
  · rintro ⟨q, hq, he⟩
    obtain ⟨u, hu, hr⟩ := (h.reaches (.begin t) q ht).1 hq
    obtain ⟨rfl, -⟩ := Place.reads_begin.1 ⟨hr, he⟩
    exact hu
  · intro hm
    obtain ⟨hr, he⟩ := Place.reads_begin.2 ⟨rfl, rfl⟩
    exact ⟨_, (h.reaches (.begin t) _ ht).2 ⟨t, hm, hr⟩, he⟩

/-! ## Elementary expressions -/

theorem denotes_empty : empty.Denotes 1 := by
  refine ⟨rfl, fun p q _ => ?_⟩
  simp [Reaches, Language.mem_one, Place.reads_nil]

theorem denotes_char (c : Char) : (char c).Denotes {[c]} := by
  refine ⟨rfl, fun p q _ => ?_⟩
  simp only [char, Reaches, beq_iff_eq, exists_eq_left]
  constructor
  · exact fun h => ⟨[c], rfl, h⟩
  · rintro ⟨_, rfl, h⟩
    exact h

/-- One or more characters of a class. -/
theorem denotes_someLazy {accepts : Char → Bool} {A : Char → Prop}
    (h : ∀ c, c ≠ '\n' → (accepts c ↔ A c)) :
    (someLazy accepts).Denotes {t | t ≠ [] ∧ ∀ c ∈ t, A c} := by
  refine ⟨rfl, fun p q hp => ?_⟩
  constructor
  · rintro ⟨t, ht, hl, ha⟩
    refine ⟨t, ⟨List.ne_nil_of_length_pos hl, fun c hc => ?_⟩, ht⟩
    exact (h c (ne_of_mem_of_not_mem hc (ht.notMem hp).1)).1 (ha c hc)
  · rintro ⟨t, ⟨hl, ha⟩, ht⟩
    refine ⟨t, ht, List.length_pos_iff.2 hl, fun c hc => ?_⟩
    exact (h c (ne_of_mem_of_not_mem hc (ht.notMem hp).1)).2 (ha c hc)

theorem Denotes.group (h : r.Denotes L) : r.group.Denotes L := ⟨h.plain, h.reaches⟩

theorem Denotes.seq (hr : r.Denotes L) (hs : s.Denotes M) : (r.seq s).Denotes (L * M) := by
  refine ⟨Bool.and_eq_true_iff.2 ⟨hr.plain, hs.plain⟩, fun p q hp => ?_⟩
  simp only [Reaches, Language.mem_mul]
  constructor
  · rintro ⟨m, hm, hq⟩
    obtain ⟨t, ht, htm⟩ := (hr.reaches p m hp).1 hm
    obtain ⟨u, hu, huq⟩ := (hs.reaches m q (htm.notMem hp).2).1 hq
    exact ⟨t ++ u, ⟨t, ht, u, hu, rfl⟩, htm.append huq⟩
  · rintro ⟨_, ⟨t, ht, u, hu, rfl⟩, htu⟩
    obtain ⟨m, htm, huq⟩ := Place.reads_append.1 htu
    exact ⟨m, (hr.reaches p m hp).2 ⟨t, ht, htm⟩,
      (hs.reaches m q (htm.notMem hp).2).2 ⟨u, hu, huq⟩⟩

theorem Denotes.alt (hr : r.Denotes L) (hs : s.Denotes M) : (r.alt s).Denotes (L + M) := by
  refine ⟨Bool.and_eq_true_iff.2 ⟨hr.plain, hs.plain⟩, fun p q hp => ?_⟩
  simp only [Reaches, hr.reaches p q hp, hs.reaches p q hp, Language.mem_add, or_and_right,
    exists_or]

/-! ## Expressions one after another -/

/-- Put behind an expression, the expressions extend its language by another one. -/
def Appends (rs : List Regex) (M : Language Char) : Prop :=
  ∀ ⦃r : Regex⦄ ⦃L : Language Char⦄, r.Denotes L → (rs.foldl Regex.seq r).Denotes (L * M)

theorem appends_nil : Appends [] 1 := fun r L h => by
  rw [mul_one]
  exact h

theorem Denotes.appends (h : r.Denotes L) : Appends [r] L := fun _ _ h' => h'.seq h

theorem Appends.append (hr : Appends rs L) (hs : Appends ss M) : Appends (rs ++ ss) (L * M) :=
  fun r K h => by
    rw [List.foldl_append, ← mul_assoc]
    exact hs (hr h)

theorem Appends.concat (h : Appends rs L) : (Regex.concat rs).Denotes L := by
  rw [← one_mul L]
  exact h denotes_empty

theorem appends_chars : ∀ t : Text, Appends (t.map char) {t}
  | [] => appends_nil
  | c :: t => by
    have h : ({c :: t} : Language Char) = {[c]} * {t} := by
      ext u
      simp only [Language.mem_mul]
      exact ⟨fun hu => ⟨[c], rfl, t, rfl, hu.symm⟩, fun ⟨_, rfl, _, rfl, hu⟩ => hu.symm⟩
    rw [h]
    exact (denotes_char c).appends.append (appends_chars t)

theorem denotes_literal (t : Text) : (literal t).Denotes {t} := (appends_chars t).concat

/-! ## Alternatives -/

theorem denotes_choice : ∀ {r : Regex} {rs : List Regex} {L : Language Char}
    {Ls : List (Language Char)}, r.Denotes L → List.Forall₂ Denotes rs Ls →
      (choice r rs).Denotes (L + Ls.sum)
  | r, [], L, [], h, .nil => by
    rw [List.sum_nil, add_zero]
    exact h
  | r, s :: rs, L, M :: Ls, h, .cons hs hrs => by
    rw [List.sum_cons]
    exact h.alt (denotes_choice hs hrs)

/-- One of some alternatives, as long as there are any. -/
theorem denotes_oneOf {Ls : List (Language Char)} (h : List.Forall₂ Denotes rs Ls) (hne : rs ≠ []) :
    (oneOf rs).Denotes Ls.sum := by
  cases h with
  | nil => exact absurd rfl hne
  | cons hr hrs =>
    rw [List.sum_cons]
    exact denotes_choice hr hrs

end Regex

end Repartee
