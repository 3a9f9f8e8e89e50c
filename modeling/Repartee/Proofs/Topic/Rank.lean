import Repartee.Proofs.Pattern.Tags
import Repartee.Topic.Order

/-!
# What the rank of a pattern says

The rank of a pattern is described by the pattern as it is written, without the scans that read it.

* `Text.length_filter_pieces`: a text has as many words as places where one begins.
* `Category.Fits`: what a category says of a pattern without its tags.
* **`Category.fits_iff`**: it is the category that the pattern is given.
* `Rank.Describes`: what a rank says of a pattern.
* **`Rank.describes_iff`**: the rank that a pattern is given is the only one that describes it.
-/

namespace Repartee

/-! ## Words -/

namespace Text

variable (sep : Char → Bool)

/-- The first piece of a text is empty if a separator begins it; the others that are not empty begin
behind separators. -/
theorem exists_pieces : ∀ t : Text, ∃ w ws, t.pieces sep = w :: ws ∧
    (w = [] ↔ ∀ c ∈ t.head?, sep c) ∧
      (ws.filter (!·.isEmpty)).length = (t.zip t.tail).countP fun p => sep p.1 && !sep p.2
  | [] => ⟨[], [], rfl, by simp, rfl⟩
  | c :: cs => by
    obtain ⟨w, ws, hpieces, hfirst, hcount⟩ := exists_pieces cs
    have hzip : ((c :: cs).zip cs).countP (fun p => sep p.1 && !sep p.2) =
        (cs.zip cs.tail).countP (fun p => sep p.1 && !sep p.2) +
          if sep c ∧ w ≠ [] then 1 else 0 := by
      cases cs with
      | nil => simp [hfirst]
      | cons d ds =>
        rw [List.zip_cons_cons, List.countP_cons, List.tail_cons]
        simp [hfirst]
    rw [pieces, hpieces, List.tail_cons, hzip, ← hcount]
    cases hc : sep c with
    | true =>
      refine ⟨[], w :: ws, rfl, by simp [hc], ?_⟩
      cases w <;> simp
    | false => exact ⟨c :: w, ws, rfl, by simp [hc], by simp⟩

variable {sep}

/-- A text has as many words as places where one begins, at its start or behind a separator. -/
theorem length_filter_pieces {s : Char} (hs : sep s) (t : Text) :
    ((t.pieces sep).filter (!·.isEmpty)).length =
      ((s :: t).zip t).countP fun p => sep p.1 && !sep p.2 := by
  obtain ⟨w, ws, hpieces, -, hcount⟩ := exists_pieces sep (s :: t)
  rw [pieces, if_pos hs] at hpieces
  obtain ⟨rfl, rfl⟩ := List.cons.inj hpieces
  exact hcount

/-- A text has words if not all of it are separators. -/
theorem length_filter_pieces_pos {t : Text} :
    0 < ((t.pieces sep).filter (!·.isEmpty)).length ↔ ∃ c ∈ t, sep c = false := by
  have hflatten := flatten_pieces sep t
  constructor
  · intro h
    obtain ⟨w, hw⟩ := List.exists_mem_of_length_pos h
    obtain ⟨hw, hne⟩ := List.mem_filter.1 hw
    obtain ⟨c, hc⟩ := List.exists_mem_of_ne_nil w (by simpa using hne)
    exact ⟨c, mem_of_mem_pieces hw hc⟩
  · rintro ⟨c, hc, hsep⟩
    have hmem : c ∈ (t.pieces sep).flatten := by
      rw [hflatten]
      exact List.mem_filter.2 ⟨hc, by simp [hsep]⟩
    obtain ⟨w, hw, hcw⟩ := List.mem_flatten.1 hmem
    exact List.length_pos_of_mem (List.mem_filter.2 ⟨hw, by simp [List.ne_nil_of_mem hcw]⟩)

end Text

/-! ## Categories -/

/-- A character between the words of a pattern: a blank, a wildcard or a pipe. -/
def Rank.separates (c : Char) : Bool := isBlank c || c == '*' || c == '#' || c == '_' || c == '|'

/-- A pattern has a word, not just wildcards. -/
def Rank.HasWord (bare : Text) : Prop := ∃ c ∈ bare, separates c = false

/-- The number of words is the number of places where one begins. -/
theorem Rank.wordCount_eq (bare : Text) : wordCount bare =
    ((' ' :: bare).zip bare).countP fun p => separates p.1 && !separates p.2 :=
  Text.length_filter_pieces (by decide) bare

theorem Rank.wordCount_pos {bare : Text} : 0 < wordCount bare ↔ HasWord bare :=
  Text.length_filter_pieces_pos

/-- What a category says of a pattern without its tags. The wildcard that decides is the first one
of `_`, `#` and `*` that the pattern has; alone it stands in a pattern without words. -/
def Category.Fits (bare : Text) : Category → Prop
  | atomic => '_' ∉ bare ∧ '#' ∉ bare ∧ '*' ∉ bare ∧ '[' ∉ bare
  | optional => '_' ∉ bare ∧ '#' ∉ bare ∧ '*' ∉ bare ∧ '[' ∈ bare
  | word => '_' ∈ bare ∧ Rank.HasWord bare
  | number => '_' ∉ bare ∧ '#' ∈ bare ∧ Rank.HasWord bare
  | wild => '_' ∉ bare ∧ '#' ∉ bare ∧ '*' ∈ bare ∧ Rank.HasWord bare
  | loneWord => '_' ∈ bare ∧ ¬Rank.HasWord bare
  | loneNumber => '_' ∉ bare ∧ '#' ∈ bare ∧ ¬Rank.HasWord bare
  | loneWild => '_' ∉ bare ∧ '#' ∉ bare ∧ '*' ∈ bare ∧ ¬Rank.HasWord bare

/-- **A pattern without its tags is given the category that fits it.** -/
theorem Category.fits_iff {bare : Text} {c : Category} :
    c.Fits bare ↔ Rank.categoryOf bare (Rank.wordCount bare) = c := by
  have hword : Rank.HasWord bare ↔ Rank.wordCount bare > 0 := Rank.wordCount_pos.symm
  rw [Rank.categoryOf]
  split_ifs <;> cases c <;> simp [Fits, *]

/-! ## Ranks -/

/-- What a rank says of a pattern with some spaces in the place of its tags. -/
structure Rank.Describes (pattern bare : Text) (r : Rank) : Prop where
  /-- The number of the first `{weight=N}`, 0 if there is none or it does not fit 32 bits. -/
  weight : ∃ n, Metadata.FirstNumber "\x7bweight=" pattern n ∧ r.weight = n.getD 0
  /-- The number of the first `{inherits=N}`, if there is one that fits 32 bits. -/
  level : Metadata.FirstNumber "\x7binherits=" pattern r.level
  category : r.category.Fits bare
  words : r.words = ((' ' :: bare).zip bare).countP fun p => separates p.1 && !separates p.2
  length : r.length = Text.bytes bare

/-- **The rank that a pattern is given is the only one that describes it.** -/
theorem Rank.describes_iff {pattern u : Text} (hu : Metadata.Untagged pattern u) {r : Rank} :
    r.Describes pattern u.squeeze ↔ r = Rank.of pattern := by
  have hbare : Metadata.strip pattern = u.squeeze :=
    congrArg Text.squeeze (Metadata.untagged_iff.1 hu)
  constructor
  · rintro ⟨⟨n, hn, hweight⟩, hlevel, hcategory, hwords, hlength⟩
    obtain ⟨weight, level, category, words, length⟩ := r
    rw [Metadata.firstNumber_iff] at hn hlevel
    rw [Category.fits_iff] at hcategory
    rw [← wordCount_eq] at hwords
    subst hn hlevel hcategory hwords hlength hweight
    rw [Rank.of, hbare]
    rfl
  · rintro rfl
    rw [Rank.of, hbare]
    exact ⟨⟨_, Metadata.firstNumber_iff.2 rfl, rfl⟩, Metadata.firstNumber_iff.2 rfl,
      Category.fits_iff.2 rfl, wordCount_eq _, rfl⟩

example : Rank.of "\x7bInherits=1\x7dmy name is *\x7bweight=3\x7d".toList =
    { weight := 3, level := some 1, category := .wild, words := 3, length := 12 } := by
  decide +kernel

end Repartee
