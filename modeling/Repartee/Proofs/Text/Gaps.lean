import Repartee.Proofs.Text.Lower
import Repartee.Proofs.Text.Tokens

/-!
# Texts that differ in their gaps

* **`Text.tokens_written`**: words and their gaps are the tokens of the text they make up.
* `Text.tokens_lower`: lower case changes the words and keeps the gaps.
* `Text.respace`: one mark in the place of every gap; `Text.tokens_respace`: the words stay.
* `Text.Respaced`: two texts differ in runs of blanks only, and which of these hold a character that
  is kept is the same.
* **`Text.Respaced.words_filter`**: if only such characters are kept, the words are the same.
-/

namespace Repartee

namespace Text

variable {t u v w g g' gap margin : Text} {xs : List Token} {keep : Char → Bool}

/-! ## The tokens of a text -/

/-- Blanks in front belong to the gap of the first word. -/
theorem tokens_gap_append {x : Token} (ht : tokens t = (x :: xs, margin)) :
    ∀ {gap : Text}, (∀ c ∈ gap, isBlank c) →
      tokens (gap ++ t) = (⟨gap ++ x.gap, x.word⟩ :: xs, margin)
  | [], _ => ht
  | c :: gap, h => by
    rw [List.forall_mem_cons] at h
    rw [List.cons_append, tokens, tokens_gap_append ht h.2, h.1]
    rfl

/-- A word in front of a gap is a token without one. -/
theorem tokens_word_append (ht : tokens t = (xs, margin)) (hgap : ∀ x ∈ xs.head?, x.gap ≠ []) :
    ∀ {w : Text}, w.IsWord → tokens (w ++ t) = (⟨[], w⟩ :: xs, margin)
  | [c], h => by
    rw [List.singleton_append, tokens, ht, h.2 c List.mem_cons_self]
    rcases xs with _ | ⟨⟨_ | ⟨b, gap⟩, v⟩, xs⟩
    · rfl
    · exact absurd rfl (hgap _ rfl)
    · rfl
  | c :: d :: w, h => by
    have hrest := tokens_word_append ht hgap (w := d :: w)
      ⟨List.cons_ne_nil d w, fun e he => h.2 e (List.mem_cons_of_mem c he)⟩
    rw [List.cons_append, tokens, hrest, h.2 c List.mem_cons_self]

theorem tokens_blanks : ∀ {margin : Text}, (∀ c ∈ margin, isBlank c) → tokens margin = ([], margin)
  | [], _ => rfl
  | c :: margin, h => by
    rw [List.forall_mem_cons] at h
    rw [tokens, tokens_blanks h.2, h.1]

/-- **Words and their gaps are the tokens of the text they make up.** -/
theorem tokens_written (hend : ∀ c ∈ margin, isBlank c) : ∀ {xs : List Token}, Spread xs →
    tokens (written xs ++ margin) = (xs, margin)
  | [], _ => tokens_blanks hend
  | x :: xs, h => by
    have hgap : ∀ y ∈ xs.head?, y.gap ≠ [] := fun y hy => h.apart y (List.mem_of_mem_head? hy)
    have hword := tokens_word_append (tokens_written hend h.tail) hgap h.head.word
    rw [written_cons, List.append_assoc, List.append_assoc, tokens_gap_append hword h.head.gap,
      List.append_nil]

/-! ## Lower case -/

/-- A token with its word in lower case. -/
def lowered (x : Token) : Token := { x with word := lower x.word }

theorem Spread.lowered (h : Spread xs) : Spread (xs.map lowered) := by
  constructor
  · intro y hy
    obtain ⟨x, hx, rfl⟩ := List.mem_map.1 hy
    exact ⟨(h.proper x hx).gap, (h.proper x hx).word.lower⟩
  · intro y hy
    rw [← List.map_tail] at hy
    obtain ⟨x, hx, rfl⟩ := List.mem_map.1 hy
    exact h.apart x hx

/-- Blanks in front of a text matter not to its lower case. -/
theorem lower_blanks_append (t : Text) : ∀ {gap : Text}, (∀ c ∈ gap, isBlank c) →
    lower (gap ++ t) = gap ++ lower t
  | [], _ => rfl
  | c :: gap, h => by
    rw [List.forall_mem_cons] at h
    have hfirst := lower_append_blank h.1 [] (gap ++ t)
    rw [List.nil_append] at hfirst
    rw [List.cons_append, hfirst, lower_blanks_append t h.2]
    rfl

/-- A word in front of a blank has a lower case of its own. -/
theorem lower_append_of_head? (w : Text) (ht : ∀ c ∈ t.head?, isBlank c) :
    lower (w ++ t) = lower w ++ lower t := by
  cases t with
  | nil => rw [List.append_nil, lower, lower, lowerAfter, List.append_nil]
  | cons b t =>
    have hb : isBlank b := ht b rfl
    have hrest := lower_append_blank hb [] t
    rw [List.nil_append] at hrest
    rw [lower_append_blank hb, hrest]
    rfl

theorem lower_written (hend : ∀ c ∈ margin, isBlank c) : ∀ {xs : List Token}, Spread xs →
    lower (written xs ++ margin) = written (xs.map lowered) ++ margin
  | [], _ => by
    have hmargin := lower_blanks_append [] hend
    rwa [List.append_nil, lower, lower, lowerAfter, List.append_nil] at hmargin
  | x :: xs, h => by
    rw [written_cons, List.append_assoc, List.append_assoc, lower_blanks_append _ h.head.gap,
      lower_append_of_head? x.word (h.behind hend), lower_written hend h.tail, List.map_cons,
      written_cons, List.append_assoc, List.append_assoc]
    rfl

/-- Lower case changes the words and keeps the gaps. -/
theorem tokens_lower (t : Text) :
    tokens (lower t) = ((tokens t).1.map lowered, (tokens t).2) := by
  obtain ⟨heq, hspread, hend⟩ := spread_tokens t
  conv_lhs => rw [heq, lower_written hend hspread]
  exact tokens_written hend hspread.lowered

/-! ## Other gaps -/

/-- A mark in the place of a gap, if there is one. -/
def marked (mark : Text → Char) (gap : Text) : Text := if gap = [] then [] else [mark gap]

/-- A token with a mark in the place of its gap. -/
def Token.marked (mark : Text → Char) (x : Token) : Token :=
  { x with gap := Text.marked mark x.gap }

/-- A text with a mark in the place of every gap between its words, and of the blanks at its
ends. -/
def respace (mark : Text → Char) (t : Text) : Text :=
  written ((tokens t).1.map (Token.marked mark)) ++ marked mark (tokens t).2

variable {mark : Text → Char}

theorem isBlank_of_mem_marked (hmark : ∀ gap, isBlank (mark gap)) {c : Char}
    (h : c ∈ marked mark gap) : isBlank c := by
  rw [marked] at h
  split at h
  · cases h
  · rw [List.mem_singleton.1 h]
    exact hmark gap

theorem Spread.marked (h : Spread xs) (hmark : ∀ gap, isBlank (mark gap)) :
    Spread (xs.map (Token.marked mark)) := by
  constructor
  · intro y hy
    obtain ⟨x, hx, rfl⟩ := List.mem_map.1 hy
    exact ⟨fun c => isBlank_of_mem_marked hmark, (h.proper x hx).word⟩
  · intro y hy
    rw [← List.map_tail] at hy
    obtain ⟨x, hx, rfl⟩ := List.mem_map.1 hy
    rw [Token.marked, Text.marked, if_neg (h.apart x hx)]
    exact List.cons_ne_nil _ _

/-- The words stay as they are. -/
theorem tokens_respace (hmark : ∀ gap, isBlank (mark gap)) (t : Text) :
    tokens (respace mark t) = ((tokens t).1.map (Token.marked mark), marked mark (tokens t).2) := by
  obtain ⟨-, hspread, -⟩ := spread_tokens t
  exact tokens_written (fun c => isBlank_of_mem_marked hmark) (hspread.marked hmark)

/-- Two runs of blanks of which both hold a character that is kept, or neither does. -/
structure Alike (keep : Char → Bool) (g g' : Text) : Prop where
  left : ∀ c ∈ g, isBlank c
  right : ∀ c ∈ g', isBlank c
  kept : g.any keep = g'.any keep

/-- Two texts that differ in runs of blanks only. -/
inductive Respaced (keep : Char → Bool) : Text → Text → Prop
  | nil : Respaced keep [] []
  | char {t u : Text} (c : Char) : Respaced keep t u → Respaced keep (c :: t) (c :: u)
  | gap {g g' t u : Text} : Alike keep g g' → Respaced keep t u → Respaced keep (g ++ t) (g' ++ u)

/-- A gap and its mark. -/
theorem alike_marked (hmark : ∀ gap, isBlank (mark gap)) (hgap : ∀ c ∈ gap, isBlank c)
    (hkeep : gap ≠ [] → gap.any keep = keep (mark gap)) : Alike keep gap (marked mark gap) := by
  refine ⟨hgap, fun c => isBlank_of_mem_marked hmark, ?_⟩
  rw [marked]
  split
  · rename_i hnil
    rw [hnil]
  · rename_i hne
    rw [hkeep hne, List.any_cons, List.any_nil, Bool.or_false]

theorem Respaced.append_left (h : Respaced keep t u) : ∀ v : Text, Respaced keep (v ++ t) (v ++ u)
  | [] => h
  | c :: v => .char c (h.append_left v)

theorem Respaced.append {t' u' : Text} (h : Respaced keep t u) (h' : Respaced keep t' u') :
    Respaced keep (t ++ t') (u ++ u') := by
  induction h with
  | nil => exact h'
  | char c _ ih => exact .char c ih
  | gap hg _ ih =>
    rw [List.append_assoc, List.append_assoc]
    exact .gap hg ih

/-- Blanks end the word in front of them. -/
theorem words_append_gap (hv : ∀ c ∈ v, isBlank c = false) (hg : ∀ c ∈ g, isBlank c) (hne : g ≠ [])
    (t : Text) : words (v ++ (g ++ t)) = (if v = [] then [] else [v]) ++ words t := by
  split
  · rename_i hnil
    rw [hnil, List.nil_append, words_blanks_append hg, List.nil_append]
  · rename_i hnil
    have hbehind : ∀ c ∈ (g ++ t).head?, isBlank c := by
      rw [List.head?_append_of_ne_nil _ hne]
      exact fun c hc => hg c (List.mem_of_mem_head? hc)
    rw [words_append ⟨hnil, hv⟩ hbehind, words_blanks_append hg, List.singleton_append]

/-- Of two runs that are alike nothing is kept, or something of both. -/
theorem Alike.filter_eq_nil_iff (h : Alike keep g g') :
    g.filter keep = [] ↔ g'.filter keep = [] := by
  have hnil (g : Text) : g.filter keep = [] ↔ g.any keep = false := by
    rw [List.filter_eq_nil_iff, List.any_eq_false]
  rw [hnil, hnil, h.kept]

/-- What is kept of texts that differ in runs of blanks has the same words, whatever stands in front
of both. -/
theorem Respaced.words_append_filter (h : Respaced keep t u) : ∀ v : Text,
    (∀ c ∈ v, isBlank c = false) → words (v ++ t.filter keep) = words (v ++ u.filter keep) := by
  have hnone : ∀ c ∈ ([] : Text), isBlank c = false := by simp
  induction h with
  | nil => exact fun _ _ => rfl
  | char c _ ih =>
    intro v hv
    by_cases hc : keep c
    · rw [List.filter_cons_of_pos hc, List.filter_cons_of_pos hc]
      by_cases hb : isBlank c
      · have hgap := words_append_gap hv (List.forall_mem_singleton.2 hb) (List.cons_ne_nil c [])
        exact (hgap _).trans ((congrArg _ (ih [] hnone)).trans (hgap _).symm)
      · -- the character goes on with the word in front of it
        have hword := ih (v ++ [c]) (List.forall_mem_append.2
          ⟨hv, List.forall_mem_singleton.2 (by simpa using hb)⟩)
        rwa [List.append_assoc, List.append_assoc] at hword
    · rw [List.filter_cons_of_neg hc, List.filter_cons_of_neg hc]
      exact ih v hv
  | @gap g g' _ _ hg _ ih =>
    intro v hv
    rw [List.filter_append, List.filter_append]
    by_cases hnil : g.filter keep = []
    · rw [hnil, hg.filter_eq_nil_iff.1 hnil]
      exact ih v hv
    · have hnil' : g'.filter keep ≠ [] := fun h => hnil (hg.filter_eq_nil_iff.2 h)
      have hleft : ∀ c ∈ g.filter keep, isBlank c := fun c hc => hg.left c (List.mem_filter.1 hc).1
      have hright : ∀ c ∈ g'.filter keep, isBlank c :=
        fun c hc => hg.right c (List.mem_filter.1 hc).1
      rw [words_append_gap hv hleft hnil, words_append_gap hv hright hnil']
      exact congrArg _ (ih [] hnone)

/-- **What is kept of texts that differ in runs of blanks has the same words**, if of these runs
something is kept on both sides or on neither. -/
theorem Respaced.words_filter (h : Respaced keep t u) :
    words (t.filter keep) = words (u.filter keep) :=
  h.words_append_filter [] (by simp)

end Text

end Repartee
