import Mathlib.Data.List.Basic
import Repartee.Macro.Words

/-!
# Words put together

A word of a call is written in pieces, some bare and some in double quotes, and blanks stand before
every word but the first.

* `Piece`: a piece of a word, as it is written and as it is read.
* `callWordsFrom_piece`, `callWordsFrom_pieces`: reading goes on behind the pieces of a word.
* `callWordsFrom_gap`: blanks outside of quotes end a word.
* **`callWordsFrom_words`**: words with blanks before them are read as they were written.
-/

namespace Repartee

variable {current t u : Text}

/-! ## Pieces -/

/-- A piece of a word. -/
inductive Piece where
  | bare (t : Text) (nonempty : t ≠ []) (solid : ∀ c ∈ t, c ≠ '"' ∧ isBlank c = false)
  | quoted (t : Text) (closed : '"' ∉ t)

namespace Piece

/-- A piece without its quotes. -/
def text : Piece → Text
  | bare t _ _ => t
  | quoted t _ => t

/-- A piece as it is written. -/
def written : Piece → Text
  | bare t _ _ => t
  | quoted t _ => '"' :: (t ++ ['"'])

end Piece

/-! ## Reading on -/

/-- Characters that neither open nor close quotes nor end a word are kept. -/
theorem callWordsFrom_chars {quoted : Bool} : ∀ {t current : Text},
    (∀ c ∈ t, c ≠ '"' ∧ (quoted = true ∨ isBlank c = false)) →
      callWordsFrom current quoted true (t ++ u) =
        callWordsFrom (t.reverse ++ current) quoted true u
  | [], _, _ => rfl
  | c :: cs, current, h => by
    rw [List.forall_mem_cons] at h
    obtain ⟨⟨hquote, hblank⟩, hcs⟩ := h
    have hkeep : ¬(isBlank c && !quoted) = true := by
      rcases hblank with hblank | hblank <;> simp [hblank]
    rw [List.cons_append, callWordsFrom, if_neg hquote, if_neg hkeep, callWordsFrom_chars hcs]
    simp

theorem callWordsFrom_piece (p : Piece) (pending : Bool) :
    callWordsFrom current false pending (p.written ++ u) =
      callWordsFrom (p.text.reverse ++ current) false true u := by
  cases p with
  | bare t hne hsolid =>
    obtain ⟨c, cs, rfl⟩ := List.exists_cons_of_ne_nil hne
    obtain ⟨⟨hquote, hblank⟩, hcs⟩ := List.forall_mem_cons.1 hsolid
    have hrest := @callWordsFrom_chars u false cs (c :: current) fun d hd =>
      ⟨(hcs d hd).1, .inr (hcs d hd).2⟩
    rw [Piece.written, Piece.text, List.cons_append, callWordsFrom, if_neg hquote,
      if_neg (by simp [hblank]), hrest]
    simp
  | quoted t hclosed =>
    have hbody := @callWordsFrom_chars ('"' :: u) true t current fun d hd =>
      ⟨ne_of_mem_of_not_mem hd hclosed, .inl rfl⟩
    rw [Piece.written, Piece.text, List.cons_append, List.append_assoc, callWordsFrom, if_pos rfl,
      Bool.not_false, List.singleton_append, hbody, callWordsFrom, if_pos rfl]
    rfl

/-- The pieces of a word are read as one word that is not over yet. -/
theorem callWordsFrom_pieces : ∀ {ps : List Piece}, ps ≠ [] → ∀ (current : Text) (pending : Bool),
    callWordsFrom current false pending (ps.flatMap Piece.written ++ u) =
      callWordsFrom ((ps.flatMap Piece.text).reverse ++ current) false true u
  | [p], _, current, pending => by
    rw [List.flatMap_singleton, List.flatMap_singleton, callWordsFrom_piece]
  | p :: q :: ps, _, current, pending => by
    rw [List.flatMap_cons, List.append_assoc, callWordsFrom_piece,
      callWordsFrom_pieces (List.cons_ne_nil q ps)]
    simp

/-! ## Blanks -/

/-- One or more blanks. -/
structure Gap where
  text : Text
  nonempty : text ≠ []
  blank : ∀ c ∈ text, isBlank c

/-- Blanks outside of quotes between words are passed over. -/
theorem callWordsFrom_blanks (h : ∀ c ∈ t, isBlank c) :
    callWordsFrom [] false false (t ++ u) = callWordsFrom [] false false u := by
  induction t with
  | nil => rfl
  | cons c cs ih =>
    obtain ⟨hc, hcs⟩ := List.forall_mem_cons.1 h
    have hquote : c ≠ '"' := by
      rintro rfl
      exact absurd hc (by decide)
    rw [List.cons_append, callWordsFrom, if_neg hquote, if_pos (by simp [hc]), ih hcs]
    rfl

/-- Blanks outside of quotes end a word. -/
theorem callWordsFrom_gap (g : Gap) (current u : Text) :
    callWordsFrom current false true (g.text ++ u) =
      current.reverse :: callWordsFrom [] false false u := by
  obtain ⟨c, cs, hg⟩ := List.exists_cons_of_ne_nil g.nonempty
  obtain ⟨hc, hcs⟩ := List.forall_mem_cons.1 (hg ▸ g.blank)
  have hquote : c ≠ '"' := by
    rintro rfl
    exact absurd hc (by decide)
  rw [hg, List.cons_append, callWordsFrom, if_neg hquote, if_pos (by simp [hc]), if_pos rfl,
    callWordsFrom_blanks hcs]

/-! ## Words -/

/-- The pieces of a word, and the blanks before it. -/
structure SpacedWord where
  gap : Gap
  pieces : List Piece
  nonempty : pieces ≠ []

namespace SpacedWord

/-- The word without its quotes. -/
def text (w : SpacedWord) : Text := w.pieces.flatMap Piece.text

/-- The word as it is written, behind its blanks. -/
def written (w : SpacedWord) : Text := w.gap.text ++ w.pieces.flatMap Piece.written

end SpacedWord

/-- **Words with blanks before them are read as they were written**, behind a word that the first
blanks end. -/
theorem callWordsFrom_words : ∀ (ws : List SpacedWord) (current : Text),
    callWordsFrom current false true (ws.flatMap SpacedWord.written) =
      current.reverse :: ws.map SpacedWord.text
  | [], _ => rfl
  | w :: ws, current => by
    rw [List.flatMap_cons, SpacedWord.written, List.append_assoc, callWordsFrom_gap,
      callWordsFrom_pieces w.nonempty, callWordsFrom_words ws, List.append_nil,
      List.reverse_reverse]
    rfl

end Repartee
