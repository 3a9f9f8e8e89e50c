import Repartee.Proofs.Pattern.Slots
import Repartee.Proofs.Substitution.Scan
import Repartee.Proofs.Topic.Order

/-!
# Fixed patterns

* `Pattern.Fixed`: words one space apart, and no character that gives a pattern structure.
* **`Pattern.stars?_fixed`**: such a pattern matches itself and nothing else.
* `Pattern.Fixed.bare`: it is tried as it is written.
* `Pattern.fixed_sentence`, **`Script.normalize_sentence`**: words of small letters and digits are
  such a pattern, and in the plain mode they are compared as they are.
-/

namespace Repartee

namespace Pattern

/-! ## Patterns without structure -/

/-- Words one space apart, without wildcards, brackets, references, pipes and tags. -/
structure Fixed (t : Text) : Prop where
  phrase : t.IsPhrase
  plain : ∀ c ∈ t, isSpecial c = false ∧ c ≠ '|' ∧ c ≠ '\x7b'

variable {t : Text}

/-- A fold that keeps every character of a text keeps the text. -/
theorem foldr_eq_self {f : Char → Text → Text} (h : ∀ c ∈ t, ∀ rest, f c rest = c :: rest) :
    t.foldr f [] = t := by
  induction t with
  | nil => rfl
  | cons c cs ih =>
    rw [List.forall_mem_cons] at h
    rw [List.foldr_cons, ih h.2, h.1]

theorem Fixed.notMem (h : Fixed t) {c : Char} (hc : isSpecial c ∨ c = '|' ∨ c = '\x7b') :
    c ∉ t := by
  intro hmem
  obtain ⟨hspecial, hbar, hbrace⟩ := h.plain c hmem
  rcases hc with hc | hc | hc
  · exact Bool.noConfusion (hspecial.symm.trans hc)
  · exact hbar hc
  · exact hbrace hc

/-- A fixed pattern is read as it is written. -/
theorem Fixed.tidy (h : Fixed t) : Pattern.tidy t = t := by
  have hbrace : '\x7b' ∉ t := h.notMem (.inr (.inr rfl))
  have hneeds : (Metadata.weightTag.orElse Metadata.levelTag).Needs '\x7b' :=
    (Scan.needs_delimited rfl rfl).orElse (Scan.needs_delimited rfl rfl)
  have hstrip : Metadata.strip t = t := by
    rw [Metadata.strip, Scan.replaceAll_of_find? (hneeds.find?_eq_none hbrace), h.phrase.2]
  have hopen (c : Char) (hc : c ∈ t) : ¬(c = '(' ∨ c = '[') := by
    rintro (rfl | rfl)
    · exact h.notMem (.inl rfl) hc
    · exact h.notMem (.inl rfl) hc
  have hmerge : mergePipes t = t :=
    foldr_eq_self fun c hc rest => if_neg fun hbar => (h.plain c hc).2.1 hbar.1
  have hleading : dropLeadingPipes t = t :=
    foldr_eq_self fun c hc rest => if_neg (hopen c hc)
  have htrailing : dropTrailingPipes t = t :=
    foldr_eq_self fun c hc rest => if_neg fun hbar => (h.plain c hc).2.1 hbar.1
  rw [Pattern.tidy, hstrip, hmerge, hleading, htrailing]

/-- **A fixed pattern matches itself and nothing else.** -/
theorem stars?_fixed {pattern : String} (h : Fixed pattern.toList) (s : Scope) (m : Text) :
    stars? s pattern m = if pattern.toList = m then some [] else none := by
  have hany : pattern.toList.any isSpecial = false :=
    List.any_eq_false.2 fun c hc => by simp [(h.plain c hc).1]
  rw [← h.tidy] at hany
  rw [stars?, matcher_of_plain hany, h.tidy]
  rfl

/-- A fixed pattern is tried as it is written, whatever level is put before it. -/
theorem Fixed.bare {e : Entry} {pattern : String} (h : Fixed pattern.toList)
    (he : e.pattern = pattern ∨ ∃ level, e.pattern = Topics.tagged level pattern) :
    e.bare.pattern = pattern := by
  have hstrip : String.ofList (Metadata.stripLevel pattern.toList) = pattern := by
    have hends := h.phrase.ends
    have hnone := Metadata.needs_levelTag.find?_eq_none (h.notMem (.inr (.inr rfl)))
    rw [Metadata.stripLevel_of_find? hnone, Text.trim_eq_self hends.1 hends.2,
      String.ofList_toList]
  rw [Entry.bare_pattern he, hstrip]

/-! ## Small letters and digits -/

theorem isWord_word (w : Word) : w.text.IsWord :=
  ⟨w.ne_nil, fun c hc => (plain_char (w.plain c hc)).1⟩

/-- A property that a space and the small letters and digits have. -/
theorem forall_mem_sentence {ws : List Word} {p : Char → Bool}
    (hp : (' ' :: "abcdefghijklmnopqrstuvwxyz0123456789".toList).all p = true) :
    ∀ c ∈ sentence ws, p c := by
  intro c hc
  refine List.all_eq_true.1 hp c ?_
  rcases mem_sentence hc with rfl | hc
  · exact List.mem_cons_self
  · exact List.mem_cons_of_mem ' ' (by simpa [isPlain] using hc)

theorem isPhrase_sentence {ws : List Word} (h : ws ≠ []) : (sentence ws).IsPhrase := by
  refine ⟨(Neat.sentence h).ne_nil, ?_⟩
  rw [sentence, Text.squeeze, Text.words_join]
  intro t ht
  obtain ⟨w, -, rfl⟩ := List.mem_map.1 ht
  exact isWord_word w

theorem fixed_sentence {ws : List Word} (h : ws ≠ []) : Fixed (sentence ws) := by
  refine ⟨isPhrase_sentence h, fun c hc => ?_⟩
  have hplain := @forall_mem_sentence ws
    (fun c => decide (isSpecial c = false ∧ c ≠ '|' ∧ c ≠ '\x7b')) (by decide) c hc
  simpa using hplain

end Pattern

/-- **In the plain mode, and without substitutions, words of small letters and digits are compared as
they are.** -/
theorem Script.normalize_sentence {s : Script} (hu : s.options.utf8 = false)
    (hsubs : s.subs.phrases = ∅) {ws : List Pattern.Word} (h : ws ≠ []) :
    s.normalize false (Pattern.sentence ws) = Pattern.sentence ws := by
  have hlower : Text.lower (Pattern.sentence ws) = Pattern.sentence ws := by
    refine Text.lower_eq_self fun c hc => ?_
    have hplain := @Pattern.forall_mem_sentence ws
      (fun c => decide (lowerChar c = [c] ∧ c ≠ 'Σ')) (by decide) c hc
    simpa using hplain
  have hkept : stripSpecial false (Pattern.sentence ws) = Pattern.sentence ws :=
    List.filter_eq_self.2 (Pattern.forall_mem_sentence (by decide))
  rw [normalize, hlower, Substitution.apply_empty hsubs]
  simp only [hu, Bool.false_eq_true, if_false]
  rw [hkept, (Pattern.isPhrase_sentence h).2]

end Repartee
