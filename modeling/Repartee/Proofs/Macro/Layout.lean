import Mathlib.Algebra.Ring.Parity
import Mathlib.Data.List.TakeWhile
import Repartee.Proofs.Macro.Words

/-!
# Every text is words with blanks around them

Blanks may stand before the first word of a call and behind its last one, and the last quote may
be left open: what follows it belongs to the last word.

* `Layout`: how the words of a text are laid out; `Layout.written`, `Layout.words`.
* `callWordsFrom_ended`, `callWordsFrom_ending`: a word that blanks end is read, and so is the end.
* `Layout.unclosed_iff`: a quote is left open if their number is odd.
* `exists_pieces`, `exists_layout`: every text is laid out in some way.
* **`callWords_layout`**: a text is read as the words it was written with, and every text is so
  written.
-/

namespace Repartee

variable {t : Text}

/-! ## Layouts -/

/-- The pieces of a word, and the blanks behind it. -/
structure EndedWord where
  pieces : List Piece
  nonempty : pieces ≠ []
  gap : Gap

namespace EndedWord

/-- The word without its quotes. -/
def text (w : EndedWord) : Text := w.pieces.flatMap Piece.text

/-- The word as it is written, with its blanks. -/
def written (w : EndedWord) : Text := w.pieces.flatMap Piece.written ++ w.gap.text

end EndedWord

/-- What stands at the end of a text: nothing, a word without blanks behind it, or a word with a
quote that nothing closes, maybe in front of its first piece. -/
inductive Ending where
  | none
  | word (pieces : List Piece) (nonempty : pieces ≠ [])
  | unclosed (pieces : List Piece) (rest : Text) (unclosed : '"' ∉ rest)

namespace Ending

/-- The words at the end. -/
def words : Ending → List Text
  | none => []
  | word ps _ => [ps.flatMap Piece.text]
  | unclosed ps rest _ => [ps.flatMap Piece.text ++ rest]

/-- The end as it is written. -/
def written : Ending → Text
  | none => []
  | word ps _ => ps.flatMap Piece.written
  | unclosed ps rest _ => ps.flatMap Piece.written ++ '"' :: rest

/-- A quote is left open. -/
def IsUnclosed : Ending → Prop
  | none | word _ _ => False
  | unclosed _ _ _ => True

end Ending

/-- Blanks, words with blanks behind them, and the end of a text. -/
structure Layout where
  margin : Text
  blank : ∀ c ∈ margin, isBlank c
  ended : List EndedWord
  ending : Ending

namespace Layout

/-- The words without their quotes. -/
def words (l : Layout) : List Text := l.ended.map EndedWord.text ++ l.ending.words

/-- The text as it is written. -/
def written (l : Layout) : Text :=
  l.margin ++ (l.ended.flatMap EndedWord.written ++ l.ending.written)

end Layout

/-! ## Reading a layout -/

/-- A word is read up to the blanks behind it. -/
theorem callWordsFrom_ended (w : EndedWord) (u : Text) :
    callWordsFrom [] false false (w.written ++ u) =
      w.text :: callWordsFrom [] false false u := by
  rw [EndedWord.written, List.append_assoc, callWordsFrom_pieces w.nonempty, callWordsFrom_gap,
    List.append_nil, List.reverse_reverse]
  rfl

/-- Within a quote that nothing closes every character is kept. -/
theorem callWordsFrom_unclosed (h : '"' ∉ t) (current : Text) :
    callWordsFrom current true true t = [current.reverse ++ t] := by
  have hchars := @callWordsFrom_chars [] true t current fun c hc =>
    ⟨ne_of_mem_of_not_mem hc h, .inl rfl⟩
  rw [List.append_nil] at hchars
  rw [hchars, callWordsFrom, if_pos rfl, List.reverse_append, List.reverse_reverse]

theorem callWordsFrom_ending (e : Ending) : callWordsFrom [] false false e.written = e.words := by
  cases e with
  | none => rfl
  | word ps hne =>
    have hword := @callWordsFrom_pieces [] ps hne [] false
    rw [List.append_nil, List.append_nil] at hword
    rw [Ending.written, hword, callWordsFrom, if_pos rfl, List.reverse_reverse]
    rfl
  | unclosed ps rest hrest =>
    rw [Ending.written, Ending.words]
    cases ps with
    | nil =>
      rw [List.flatMap_nil, List.nil_append, callWordsFrom, if_pos rfl, Bool.not_false,
        callWordsFrom_unclosed hrest]
      rfl
    | cons p ps =>
      rw [callWordsFrom_pieces (List.cons_ne_nil p ps), callWordsFrom, if_pos rfl, Bool.not_false,
        callWordsFrom_unclosed hrest, List.append_nil, List.reverse_reverse]

/-- Words are read as they were written. -/
theorem callWords_written (l : Layout) : callWords l.written = l.words := by
  have hended : ∀ ws : List EndedWord,
      callWordsFrom [] false false (ws.flatMap EndedWord.written ++ l.ending.written) =
        ws.map EndedWord.text ++ l.ending.words := by
    intro ws
    induction ws with
    | nil => exact callWordsFrom_ending l.ending
    | cons w ws ih =>
      rw [List.flatMap_cons, List.append_assoc, callWordsFrom_ended, ih]
      rfl
  rw [callWords, Layout.written, callWordsFrom_blanks l.blank, hended]
  rfl

/-! ## Open quotes -/

/-- Pieces have a quote at both ends or none. -/
theorem even_count_pieces (ps : List Piece) :
    Even ((ps.flatMap Piece.written).count '"') := by
  induction ps with
  | nil => exact Even.zero
  | cons p ps ih =>
    rw [List.flatMap_cons, List.count_append]
    refine Even.add ?_ ih
    cases p with
    | bare t _ hsolid =>
      rw [Piece.written, List.count_eq_zero_of_not_mem fun hc => (hsolid _ hc).1 rfl]
      exact Even.zero
    | quoted t hclosed =>
      rw [Piece.written, List.count_cons_self, List.count_append, List.count_singleton_self,
        List.count_eq_zero_of_not_mem hclosed]
      exact even_two

theorem count_eq_zero_of_blank (h : ∀ c ∈ t, isBlank c) : t.count '"' = 0 :=
  List.count_eq_zero_of_not_mem fun hc => absurd (h _ hc) (by decide)

/-- A quote is left open if their number is odd. -/
theorem Layout.unclosed_iff (l : Layout) :
    l.ending.IsUnclosed ↔ Odd (l.written.count '"') := by
  have hended : Even ((l.ended.flatMap EndedWord.written).count '"') := by
    induction l.ended with
    | nil => exact Even.zero
    | cons w ws ih =>
      rw [List.flatMap_cons, List.count_append, EndedWord.written, List.count_append,
        count_eq_zero_of_blank w.gap.blank, Nat.add_zero]
      exact (even_count_pieces w.pieces).add ih
  have hending : l.ending.IsUnclosed ↔ Odd (l.ending.written.count '"') := by
    cases l.ending with
    | none => exact iff_of_false id (by decide)
    | word ps _ => exact iff_of_false id (Nat.not_odd_iff_even.2 (even_count_pieces ps))
    | unclosed ps rest hrest =>
      refine iff_of_true trivial ?_
      rw [Ending.written, List.count_append, List.count_cons_self,
        List.count_eq_zero_of_not_mem hrest]
      exact (even_count_pieces ps).add_one
  rw [hending, Layout.written, List.count_append, count_eq_zero_of_blank l.blank, Nat.zero_add,
    List.count_append, Nat.odd_add']
  exact (iff_true_right hended).symm

/-! ## Every text has a layout -/

/-- Every text begins with the pieces of a word, maybe none; a blank follows, or a quote that
nothing closes, or nothing. -/
theorem exists_pieces : ∀ t : Text, ∃ (ps : List Piece) (u : Text),
    t = ps.flatMap Piece.written ++ u ∧
      (u = [] ∨ (∃ c cs, u = c :: cs ∧ isBlank c) ∨ ∃ rest, u = '"' :: rest ∧ '"' ∉ rest)
  | [] => ⟨[], [], rfl, .inl rfl⟩
  | c :: cs => by
    by_cases hquote : c = '"'
    · subst hquote
      by_cases hclosed : '"' ∈ cs
      · obtain ⟨body, rest, hcs, hbody⟩ := List.eq_append_cons_of_mem hclosed
        obtain ⟨ps, u, hrest, hu⟩ := exists_pieces rest
        exact ⟨.quoted body hbody :: ps, u, by simp [hcs, hrest, Piece.written], hu⟩
      · exact ⟨[], '"' :: cs, rfl, .inr (.inr ⟨cs, rfl, hclosed⟩)⟩
    · cases hblank : isBlank c with
      | true => exact ⟨[], c :: cs, rfl, .inr (.inl ⟨c, cs, rfl, hblank⟩)⟩
      | false =>
        obtain ⟨ps, u, hcs, hu⟩ := exists_pieces cs
        have hsolid : ∀ d ∈ [c], d ≠ '"' ∧ isBlank d = false := by simp [hquote, hblank]
        exact ⟨.bare [c] (List.cons_ne_nil c []) hsolid :: ps, u,
          by simp [hcs, Piece.written], hu⟩
termination_by t => t.length
decreasing_by
  · simp only [hcs, List.length_cons, List.length_append]
    omega
  · exact Nat.lt_succ_self _

/-- Every text is laid out in some way. -/
theorem exists_layout (t : Text) : ∃ l : Layout, l.written = t := by
  obtain ⟨ps, u, hsplit, hu⟩ := exists_pieces (Text.trimLeft t)
  have hmargin : ∀ c ∈ t.takeWhile isBlank, isBlank c := fun c => List.mem_takeWhile_imp
  have ht : t = t.takeWhile isBlank ++ (ps.flatMap Piece.written ++ u) := by
    rw [← hsplit]
    exact (List.takeWhile_append_dropWhile ..).symm
  rcases hu with rfl | ⟨c, cs, rfl, hc⟩ | ⟨rest, rfl, hrest⟩
  · rcases eq_or_ne ps [] with rfl | hps
    · exact ⟨⟨_, hmargin, [], .none⟩, ht.symm⟩
    · exact ⟨⟨_, hmargin, [], .word ps hps⟩, by
        rw [List.append_nil] at ht
        exact ht.symm⟩
  · -- the blanks behind the word are those before the layout of the rest, and one more
    have hps : ps ≠ [] := by
      rintro rfl
      have hhead := List.head?_dropWhile_not isBlank t
      rw [← Text.trimLeft, hsplit] at hhead
      exact Bool.noConfusion (hc.symm.trans hhead)
    obtain ⟨l, hl⟩ := exists_layout cs
    have hgap : ∀ d ∈ c :: l.margin, isBlank d := List.forall_mem_cons.2 ⟨hc, l.blank⟩
    let w : EndedWord := ⟨ps, hps, ⟨_, List.cons_ne_nil c l.margin, hgap⟩⟩
    refine ⟨⟨_, hmargin, w :: l.ended, l.ending⟩, ?_⟩
    conv_rhs => rw [ht, ← hl]
    simp [w, Layout.written, EndedWord.written]
  · exact ⟨⟨_, hmargin, [], .unclosed ps rest hrest⟩, ht.symm⟩
termination_by t.length
decreasing_by
  have hlength := congrArg List.length ht
  simp only [List.length_append, List.length_cons] at hlength
  omega

/-- **A text is read as the words it was written with**, and every text is so written. The quotes of
a word are removed; a quote is left open if their number is odd, and what follows it belongs to the
last word. -/
theorem callWords_layout :
    (∀ l : Layout, callWords l.written = l.words ∧
      (l.ending.IsUnclosed ↔ Odd (l.written.count '"'))) ∧
    ∀ t : Text, ∃ l : Layout, l.written = t :=
  ⟨fun l => ⟨callWords_written l, l.unclosed_iff⟩, exists_layout⟩

example : callWords " say \"\"  \"so \"far a\"nd on".toList =
    ["say".toList, [], "so far".toList, "and on".toList] := by
  decide

end Repartee
