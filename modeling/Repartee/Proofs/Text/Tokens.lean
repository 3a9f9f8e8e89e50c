import Repartee.Proofs.Text.Words
import Repartee.Substitution

/-!
# The words of a text and their gaps

* `Text.Spread`: words with blanks before them, as they stand in a text.
* **`Text.spread_tokens`**: the tokens of a text and the blanks at its end make up the text.
* `Text.tokens_of_ends`: a text without blanks at its ends begins and ends with a word.
* `Text.words_written`: the words of a text are those of its tokens.
* `Text.Window`: a part of a text that begins and ends with a word.
* `Text.Spread.window`, **`Text.exists_window`**: the windows at a word are the texts of the first
  tokens.
-/

namespace Repartee

/-- A token consists of blanks and a word. -/
structure Token.Proper (x : Token) : Prop where
  gap : ∀ c ∈ x.gap, isBlank c
  word : Text.IsWord x.word

namespace Text

variable {t u v w margin rest : Text} {x : Token} {xs : List Token}

/-- Tokens as they stand in a text: all but the first have a gap. -/
structure Spread (xs : List Token) : Prop where
  proper : ∀ x ∈ xs, x.Proper
  apart : ∀ x ∈ xs.tail, x.gap ≠ []

/-- The text that tokens make up. -/
def written (xs : List Token) : Text := xs.flatMap fun x => x.gap ++ x.word

theorem written_cons (x : Token) (xs : List Token) :
    written (x :: xs) = x.gap ++ (x.word ++ written xs) := by
  rw [written, List.flatMap_cons, List.append_assoc]
  rfl

theorem written_append (xs ys : List Token) : written (xs ++ ys) = written xs ++ written ys :=
  List.flatMap_append

/-- Fewer tokens make up a text that is not longer. -/
theorem length_written_take (xs : List Token) {m n : Nat} (h : m ≤ n) :
    (written (xs.take m)).length ≤ (written (xs.take n)).length := by
  rw [← Nat.min_eq_left h, ← List.take_take]
  conv_rhs => rw [← List.take_append_drop m (xs.take n), written_append, List.length_append]
  exact Nat.le_add_right ..

theorem Spread.head (h : Spread (x :: xs)) : x.Proper := h.proper x List.mem_cons_self

theorem Spread.tail (h : Spread (x :: xs)) : Spread xs :=
  ⟨fun y hy => h.proper y (List.mem_cons_of_mem x hy),
    fun y hy => h.apart y (List.mem_of_mem_tail hy)⟩

theorem Spread.take : ∀ {xs : List Token}, Spread xs → ∀ n, Spread (xs.take n)
  | [], h, n => by rwa [List.take_nil]
  | _ :: _, _, 0 => ⟨by simp, by simp⟩
  | _ :: _, h, _ + 1 =>
    ⟨fun y hy => h.proper y (List.mem_of_mem_take hy),
      fun y hy => h.apart y (List.mem_of_mem_take hy)⟩

theorem Spread.drop : ∀ {xs : List Token}, Spread xs → ∀ n, Spread (xs.drop n)
  | _, h, 0 => h
  | [], h, _ + 1 => h
  | _ :: _, h, n + 1 => h.tail.drop n

/-- Behind a token stands a blank or nothing. -/
theorem Spread.behind (h : Spread (x :: xs)) (hend : ∀ c ∈ margin, isBlank c) :
    ∀ c ∈ (written xs ++ margin).head?, isBlank c := by
  cases xs with
  | nil => exact fun c hc => hend c (List.mem_of_mem_head? hc)
  | cons y ys =>
    have hgap : y.gap ≠ [] := h.apart y List.mem_cons_self
    rw [written_cons, List.append_assoc, List.head?_append_of_ne_nil _ hgap]
    exact fun c hc => h.tail.head.gap c (List.mem_of_mem_head? hc)

/-! ## Tokens -/

/-- **The tokens of a text and the blanks at its end make up the text.** -/
theorem spread_tokens : ∀ t : Text, t = written (tokens t).1 ++ (tokens t).2 ∧
    Spread (tokens t).1 ∧ ∀ c ∈ (tokens t).2, isBlank c
  | [] => ⟨rfl, ⟨by simp [tokens], by simp [tokens]⟩, by simp [tokens]⟩
  | c :: cs => by
    obtain ⟨heq, hspread, hend⟩ := spread_tokens cs
    rw [tokens]
    rcases htokens : tokens cs with ⟨xs, margin⟩
    rw [htokens] at heq hspread hend
    dsimp only at heq hspread hend
    cases hc : isBlank c with
    | true =>
      cases xs with
      | nil => exact ⟨congrArg (c :: ·) heq, hspread, List.forall_mem_cons.2 ⟨hc, hend⟩⟩
      | cons x xs =>
        refine ⟨congrArg (c :: ·) heq, ⟨?_, hspread.apart⟩, hend⟩
        refine List.forall_mem_cons.2 ⟨⟨?_, hspread.head.word⟩, hspread.tail.proper⟩
        exact List.forall_mem_cons.2 ⟨hc, hspread.head.gap⟩
    | false =>
      have hnew (hgap : ∀ x ∈ xs.head?, x.gap ≠ []) : Spread (⟨[], [c]⟩ :: xs) := by
        refine ⟨List.forall_mem_cons.2 ⟨⟨by simp, by simp [IsWord, hc]⟩, hspread.proper⟩, ?_⟩
        cases xs with
        | nil => simp
        | cons x xs => exact List.forall_mem_cons.2 ⟨hgap x rfl, hspread.apart⟩
      rcases xs with _ | ⟨⟨_ | ⟨b, gap⟩, w⟩, xs⟩
      · exact ⟨congrArg (c :: ·) heq, hnew (by simp), hend⟩
      · -- the character is the first one of the next word
        have hw := hspread.head.word
        refine ⟨congrArg (c :: ·) heq, ⟨?_, hspread.apart⟩, hend⟩
        refine List.forall_mem_cons.2 ⟨⟨by simp, List.cons_ne_nil _ _, ?_⟩, hspread.tail.proper⟩
        exact List.forall_mem_cons.2 ⟨hc, hw.2⟩
      · exact ⟨congrArg (c :: ·) heq, hnew (by simp), hend⟩

/-- If neither end of a text is blank, the first token has no gap, and nothing is behind the last
one. -/
theorem tokens_of_ends (hfirst : ∀ c ∈ t.head?, isBlank c = false)
    (hlast : ∀ c ∈ t.getLast?, isBlank c = false) :
    (∀ x ∈ (tokens t).1.head?, x.gap = []) ∧ (tokens t).2 = [] := by
  obtain ⟨heq, hspread, hend⟩ := spread_tokens t
  generalize (tokens t).1 = xs, (tokens t).2 = margin at heq hspread hend
  constructor
  · intro x hx
    obtain ⟨xs, rfl⟩ := List.head?_eq_some_iff.1 hx
    cases hgap : x.gap with
    | nil => rfl
    | cons b gap =>
      have hb : isBlank b := hspread.head.gap b (by simp [hgap])
      rw [hfirst b (by rw [heq, written_cons, hgap]; rfl)] at hb
      cases hb
  · by_contra hne
    have hb := hend _ (List.getLast_mem hne)
    have hgetLast : t.getLast? = some (margin.getLast hne) := by
      rw [heq, List.getLast?_append_of_ne_nil _ hne, List.getLast?_eq_some_getLast hne]
    rw [hlast _ hgetLast] at hb
    cases hb

/-- The words of a text are those of its tokens. -/
theorem words_written (hend : ∀ c ∈ margin, isBlank c) : ∀ {xs : List Token}, Spread xs →
    words (written xs ++ margin) = xs.map (·.word)
  | [], _ => by
    rw [written, List.flatMap_nil, List.nil_append, ← List.append_nil margin,
      words_blanks_append hend]
    rfl
  | x :: xs, h => by
    rw [written_cons, List.append_assoc, List.append_assoc, words_blanks_append h.head.gap,
      words_append h.head.word (h.behind hend), words_written hend h.tail, List.map_cons]

/-- Blanks at the end do not matter to the words. -/
theorem words_append_blanks (hu : ∀ c ∈ u, isBlank c) (t : Text) : words (t ++ u) = words t := by
  obtain ⟨heq, hspread, hend⟩ := spread_tokens t
  have hwhole : ∀ c ∈ (tokens t).2 ++ u, isBlank c := List.forall_mem_append.2 ⟨hend, hu⟩
  calc words (t ++ u)
      = words (written (tokens t).1 ++ ((tokens t).2 ++ u)) := by rw [← List.append_assoc, ← heq]
    _ = words (written (tokens t).1 ++ (tokens t).2) := by
      rw [words_written hwhole hspread, words_written hend hspread]
    _ = words t := by rw [← heq]

/-! ## Windows -/

/-- A text begins and ends with a word that nothing behind it continues. -/
structure Window (w rest : Text) : Prop where
  first : ∃ c ∈ w.head?, isBlank c = false
  last : ∃ c ∈ w.getLast?, isBlank c = false
  behind : ∀ c ∈ rest.head?, isBlank c

theorem IsWord.first (h : w.IsWord) (t : Text) : ∃ c ∈ (w ++ t).head?, isBlank c = false := by
  rw [List.head?_append_of_ne_nil _ h.1]
  exact ⟨_, List.head?_eq_some_head h.1, h.2 _ (List.head_mem h.1)⟩

theorem IsWord.last (h : w.IsWord) : ∃ c ∈ w.getLast?, isBlank c = false :=
  ⟨_, List.getLast?_eq_some_getLast h.1, h.2 _ (List.getLast_mem h.1)⟩

/-- The texts of the first tokens, without the gap of the first one, are windows. -/
theorem Spread.window (hend : ∀ c ∈ margin, isBlank c) : ∀ {xs : List Token} {x : Token} {n : Nat},
    Spread (x :: xs) →
      Window (x.word ++ written (xs.take n)) (written (xs.drop n) ++ margin)
  | [], x, n, h => by
    refine ⟨h.head.word.first _, ?_, ?_⟩
    · simpa [written] using h.head.word.last
    · simpa [written] using h.behind hend
  | y :: ys, x, 0, h => by
    refine ⟨h.head.word.first _, ?_, h.behind hend⟩
    simpa [written] using h.head.word.last
  | y :: ys, x, n + 1, h => by
    have hnext := Spread.window (n := n) hend h.tail
    refine ⟨h.head.word.first _, ?_, hnext.behind⟩
    have hne : y.word ++ written (ys.take n) ≠ [] :=
      fun hnil => h.tail.head.word.1 (List.append_eq_nil_iff.1 hnil).1
    rw [List.take_succ_cons, written_cons, ← List.append_assoc,
      List.getLast?_append_of_ne_nil _ hne]
    exact hnext.last

/-- What ends with a character that is not blank does not consist of blanks. -/
theorem not_blanks_of_last (h : ∃ c ∈ t.getLast?, isBlank c = false) (hu : ∀ c ∈ u, isBlank c)
    (ht : t ⊆ u) : False := by
  obtain ⟨c, hc, hb⟩ := h
  rw [hu c (ht (List.mem_of_mem_getLast? hc))] at hb
  exact Bool.noConfusion hb

/-- **The windows at a word are the texts of the first tokens.** -/
theorem exists_window (hend : ∀ c ∈ margin, isBlank c) : ∀ {xs : List Token} {x : Token} {v : Text},
    Spread (x :: xs) → Window v rest → v ++ rest = x.word ++ (written xs ++ margin) →
      ∃ n ≤ xs.length, v = x.word ++ written (xs.take n) ∧ rest = written (xs.drop n) ++ margin
  | xs, x, v, h, hv, he => by
    rcases List.append_eq_append_iff.1 he with ⟨a, ha, hrest⟩ | ⟨b, rfl, hb⟩
    · -- a window does not end within a word
      cases a with
      | nil => exact ⟨0, Nat.zero_le _, by simpa [written] using ha.symm, hrest⟩
      | cons c a =>
        have hblank : isBlank c := hv.behind c (by rw [hrest]; rfl)
        rw [h.head.word.2 c (by simp [ha])] at hblank
        exact absurd hblank Bool.false_ne_true
    · by_cases hne : b = []
      · exact ⟨0, Nat.zero_le _, by simp [written, hne], by simpa [hne] using hb.symm⟩
      have hlast := hv.last
      rw [List.getLast?_append_of_ne_nil _ hne] at hlast
      cases xs with
      | nil =>
        have hsub : b ⊆ margin := by
          rw [written, List.flatMap_nil, List.nil_append] at hb
          exact hb ▸ List.subset_append_left b rest
        exact (not_blanks_of_last hlast hend hsub).elim
      | cons y ys =>
        rw [written_cons, List.append_assoc, List.append_assoc] at hb
        rcases List.append_eq_append_iff.1 hb with ⟨d, rfl, hd⟩ | ⟨a, ha, -⟩
        · by_cases hd' : d = []
          · have hsub : y.gap ++ d ⊆ y.gap := by simp [hd']
            exact (not_blanks_of_last hlast h.tail.head.gap hsub).elim
          · -- it goes on to the next word
            rw [List.getLast?_append_of_ne_nil _ hd'] at hlast
            have hfirst := h.tail.head.word.first (written ys ++ margin)
            rw [hd, List.head?_append_of_ne_nil _ hd'] at hfirst
            obtain ⟨n, hn, rfl, hrest⟩ :=
              exists_window hend h.tail ⟨hfirst, hlast, hv.behind⟩ hd.symm
            exact ⟨n + 1, Nat.succ_le_succ hn, by rw [List.take_succ_cons, written_cons], hrest⟩
        · have hsub : b ⊆ y.gap := ha ▸ List.subset_append_left b a
          exact (not_blanks_of_last hlast h.tail.head.gap hsub).elim

end Text

end Repartee
