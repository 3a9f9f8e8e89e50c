import Repartee.Proofs.Pattern.Metadata

/-!
# Tags as they are written

* `Metadata.IsTag`: a tag as it is written; `Metadata.tagOf`: how it is recognised.
* `Metadata.FirstTag`: the first tag of a text, and what is before it.
* `Metadata.FirstNumber`: what the first tag of a text says.
* **`Metadata.firstNumber_iff`**: this is what the scan for its number gives.
* `Metadata.Untagged`: a text with a space in the place of each tag.
* **`Metadata.untagged_iff`**: this is what is left when the tags are replaced by spaces.
-/

namespace Repartee

variable {t u digits rest : Text} {opening : String}

/-- An opening in any letter case is recognised letter by letter. -/
theorem Text.startsWithFolded?_eq_some_iff : ∀ {o t : Text}, startsWithFolded? o t = some rest ↔
    ∃ u, List.Forall₂ (fun d c => sameFolded d c) o u ∧ t = u ++ rest
  | [], t => by
    simp [startsWithFolded?]
  | o :: os, [] => by
    simp [startsWithFolded?]
  | o :: os, c :: cs => by
    rw [startsWithFolded?]
    constructor
    · intro h
      split at h
      · rename_i hc
        obtain ⟨u, hu, rfl⟩ := startsWithFolded?_eq_some_iff.1 h
        exact ⟨c :: u, .cons hc hu, rfl⟩
      · cases h
    · rintro ⟨_, _ | @⟨_, d, _, u, hd, hu⟩, ht⟩
      obtain ⟨rfl, rfl⟩ := List.cons.inj ht
      rw [if_pos hd]
      exact startsWithFolded?_eq_some_iff.2 ⟨u, hu, rfl⟩

/-- The first place where a scan succeeds is no later than any other one. -/
theorem Scan.find?_first {α : Type} {p : Scan α} : ∀ (before : Text) {u : Text} {r : α × Text},
    u ≠ [] → p u = some r → ∃ before' a after,
      p.find? (before ++ u) = some (before', a, after) ∧ before'.length ≤ before.length
  | [], c :: cs, (a, after), _, h => by
    refine ⟨[], a, after, ?_, Nat.le_refl _⟩
    rw [List.nil_append, find?, h]
  | b :: before, u, r, hu, h => by
    rw [List.cons_append, find?]
    cases hp : p (b :: (before ++ u)) with
    | some q => exact ⟨[], q.1, q.2, rfl, Nat.zero_le _⟩
    | none =>
      obtain ⟨before', a, after, hfind, hle⟩ := find?_first before hu h
      exact ⟨b :: before', a, after, by rw [hfind]; rfl, Nat.succ_le_succ hle⟩

namespace Metadata

/-! ## One tag -/

/-- A tag as it is written: an opening in any letter case, decimal digits of any script, and a
closing brace. -/
def IsTag (opening : String) (digits tag : Text) : Prop :=
  ∃ o : Text, List.Forall₂ (fun d c => Text.sameFolded d c) opening.toList o ∧ digits ≠ [] ∧
    (∀ c ∈ digits, isDigit c) ∧ tag = o ++ (digits ++ ['\x7d'])

/-- A tag with some opening; its body is the number. -/
def tagOf (opening : String) : Scan Text := Scan.delimited opening isDigit 1 "\x7d"

theorem weightTag_eq : weightTag = tagOf "\x7bweight=" := rfl

theorem levelTag_eq : levelTag = tagOf "\x7binherits=" := rfl

theorem IsTag.ne_nil {tag : Text} (h : IsTag opening digits tag) : tag ≠ [] := by
  obtain ⟨o, -, -, -, rfl⟩ := h
  simp

/-- A tag is recognised in front of a text where one is written. -/
theorem tagOf_eq_some_iff : tagOf opening t = some (digits, rest) ↔
    ∃ tag, IsTag opening digits tag ∧ t = tag ++ rest := by
  constructor
  · intro h
    obtain ⟨u, hu, huntil⟩ := Option.bind_eq_some_iff.1 h
    obtain ⟨o, ho, rfl⟩ := Text.startsWithFolded?_eq_some_iff.1 hu
    obtain ⟨v, rfl, hv, hdigits, hlength⟩ := Scan.until?_eq_some huntil
    have hclose : v = ['\x7d'] := Scan.Folds.eq_singleton rfl hv
    refine ⟨o ++ (digits ++ ['\x7d']), ⟨o, ho, List.ne_nil_of_length_pos hlength, hdigits, rfl⟩, ?_⟩
    simp [hclose]
  · rintro ⟨tag, ⟨o, ho, hne, hdigits, rfl⟩, rfl⟩
    have hclose : ∀ c ∈ digits, isDigit c ∧ Text.sameFolded '\x7d' c = false := by
      intro c hc
      refine ⟨hdigits c hc, Text.sameFolded_of_ne rfl ?_⟩
      rintro rfl
      exact absurd (hdigits _ hc) (by decide)
    have huntil := Scan.until?_append (by decide) rest (List.length_pos_of_ne_nil hne) hclose
    refine Option.bind_eq_some_iff.2 ⟨digits ++ ('\x7d' :: rest), ?_, huntil⟩
    refine Text.startsWithFolded?_eq_some_iff.2 ⟨o, ho, ?_⟩
    simp only [List.append_assoc, List.singleton_append]

/-! ## The first tag -/

/-- Where a tag is written one is found, and no later. -/
theorem IsTag.find?_tagOf {tag : Text} (h : IsTag opening digits tag) (before after : Text) :
    ∃ before' digits' after', (tagOf opening).find? (before ++ (tag ++ after)) =
      some (before', digits', after') ∧ before'.length ≤ before.length :=
  Scan.find?_first before (List.append_ne_nil_of_left_ne_nil h.ne_nil after)
    (tagOf_eq_some_iff.2 ⟨tag, h, rfl⟩)

/-- No tag is written in a text. -/
def Tagless (opening : String) (t : Text) : Prop :=
  ∀ before digits tag after, IsTag opening digits tag → t ≠ before ++ (tag ++ after)

/-- The first tag that is written in a text, and what is before it. -/
structure FirstTag (opening : String) (t before digits : Text) : Prop where
  written : ∃ tag after, IsTag opening digits tag ∧ t = before ++ (tag ++ after)
  least : ∀ before' digits' tag after, IsTag opening digits' tag →
    t = before' ++ (tag ++ after) → before.length ≤ before'.length

theorem find?_tagOf_eq_none_iff : (tagOf opening).find? t = none ↔ Tagless opening t := by
  constructor
  · rintro h before digits tag after htag rfl
    obtain ⟨_, _, _, hfind, -⟩ := htag.find?_tagOf before after
    rw [h] at hfind
    cases hfind
  · intro h
    rw [← Option.not_isSome_iff_eq_none, Option.isSome_iff_exists]
    rintro ⟨⟨before, digits, after⟩, hfind⟩
    obtain ⟨u, rfl, hu⟩ := Scan.find?_eq_some hfind
    obtain ⟨tag, htag, rfl⟩ := tagOf_eq_some_iff.1 hu
    exact h before digits tag after htag rfl

/-- What is found first is the first tag that is written. -/
theorem firstTag_iff {before : Text} : FirstTag opening t before digits ↔
    ∃ after, (tagOf opening).find? t = some (before, digits, after) := by
  constructor
  · rintro ⟨⟨tag, after, htag, rfl⟩, hleast⟩
    obtain ⟨before', digits', after', hfind, hle⟩ := htag.find?_tagOf before after
    -- what is found is the first tag, and there is only one way to read it
    obtain ⟨u, hu, hread⟩ := Scan.find?_eq_some hfind
    obtain ⟨tag', htag', rfl⟩ := tagOf_eq_some_iff.1 hread
    have hge := hleast before' digits' tag' after' htag' hu
    obtain ⟨rfl, hsame⟩ := List.append_inj hu (Nat.le_antisymm hge hle)
    have hwritten : tagOf opening (tag ++ after) = some (digits, after) :=
      tagOf_eq_some_iff.2 ⟨tag, htag, rfl⟩
    rw [hsame, hread] at hwritten
    cases hwritten
    exact ⟨after, hfind⟩
  · rintro ⟨after, hfind⟩
    obtain ⟨u, rfl, hread⟩ := Scan.find?_eq_some hfind
    obtain ⟨tag, htag, rfl⟩ := tagOf_eq_some_iff.1 hread
    refine ⟨⟨tag, after, htag, rfl⟩, fun before' digits' tag' after' htag' ht => ?_⟩
    obtain ⟨_, _, _, hfirst, hle⟩ := htag'.find?_tagOf before' after'
    rw [← ht, hfind] at hfirst
    cases hfirst
    exact hle

/-- Digits that stand for an unsigned number of 32 bits. -/
def Fits (digits : Text) : Prop :=
  (∀ c ∈ digits, c.isDigit) ∧ Text.value 10 digits < Nat.pow 2 32

instance (digits : Text) : Decidable (Fits digits) := inferInstanceAs (Decidable (_ ∧ _))

/-- What the first tag of a text says: its number, or nothing if there is no tag or its number does
not fit. -/
inductive FirstNumber (opening : String) (t : Text) : Option Nat → Prop
  | absent : Tagless opening t → FirstNumber opening t none
  | unfit {before digits : Text} : FirstTag opening t before digits → ¬Fits digits →
    FirstNumber opening t none
  | fits {before digits : Text} : FirstTag opening t before digits → Fits digits →
    FirstNumber opening t (some (Text.value 10 digits))

theorem natural?_filter (hne : digits ≠ []) : (Text.natural? digits).filter (· < Nat.pow 2 32) =
    if Fits digits then some (Text.value 10 digits) else none := by
  rw [Text.natural?]
  by_cases hdigits : ∀ c ∈ digits, c.isDigit
  · rw [if_pos ⟨hne, List.all_eq_true.2 hdigits⟩, Option.filter_some]
    refine if_congr ?_ rfl rfl
    exact decide_eq_true_iff.trans (and_iff_right hdigits).symm
  · rw [if_neg fun h => hdigits (List.all_eq_true.1 h.2), if_neg fun h => hdigits h.1]
    rfl

theorem FirstTag.ne_nil {before : Text} (h : FirstTag opening t before digits) : digits ≠ [] := by
  obtain ⟨tag, after, ⟨o, -, hne, -⟩, -⟩ := h.written
  exact hne

/-- **What the first tag of a text says is what the scan for its number gives.** -/
theorem firstNumber_iff {n : Option Nat} :
    FirstNumber opening t n ↔ number? (tagOf opening) t = n := by
  have hread {before digits : Text} (h : FirstTag opening t before digits) :
      number? (tagOf opening) t = (Text.natural? digits).filter (· < Nat.pow 2 32) := by
    obtain ⟨after, hfind⟩ := firstTag_iff.1 h
    rw [number?, hfind]
  constructor
  · rintro (h | ⟨h, hfits⟩ | ⟨h, hfits⟩)
    · rw [number?, find?_tagOf_eq_none_iff.2 h]
    · rw [hread h, natural?_filter h.ne_nil, if_neg hfits]
    · rw [hread h, natural?_filter h.ne_nil, if_pos hfits]
  · rintro rfl
    cases hfind : (tagOf opening).find? t with
    | none =>
      rw [number?, hfind]
      exact .absent (find?_tagOf_eq_none_iff.1 hfind)
    | some r =>
      obtain ⟨before, digits, after⟩ := r
      have h : FirstTag opening t before digits := firstTag_iff.2 ⟨after, hfind⟩
      rw [hread h, natural?_filter h.ne_nil]
      split
      · rename_i hfits
        exact .fits h hfits
      · rename_i hfits
        exact .unfit h hfits

/-! ## All tags -/

/-- The openings of the tags that a pattern may carry. -/
def openings : List String := ["\x7bweight=", "\x7binherits="]

/-- A text with a space in the place of each tag, the tags taken from left to right. -/
inductive Untagged : Text → Text → Prop
  | nil : Untagged [] []
  | tag {opening : String} {digits tag t u : Text} : opening ∈ openings →
    IsTag opening digits tag → Untagged t u → Untagged (tag ++ t) (' ' :: u)
  | char {c : Char} {t u : Text} : (∀ opening ∈ openings, ∀ digits tag, IsTag opening digits tag →
    ¬tag <+: c :: t) → Untagged t u → Untagged (c :: t) (c :: u)

/-- A tag is recognised where one is written with either opening. -/
theorem tag_eq_some_iff : tag t = some (digits, rest) ↔
    ∃ opening ∈ openings, ∃ tag, IsTag opening digits tag ∧ t = tag ++ rest := by
  have hexclusive := weightTag_or_levelTag t
  simp only [openings, List.mem_cons, List.not_mem_nil, or_false, exists_eq_or_imp,
    exists_eq_left, ← tagOf_eq_some_iff, ← weightTag_eq, ← levelTag_eq]
  rw [tag, Scan.orElse]
  rcases hexclusive with h | h <;> simp [h]

theorem tag_eq_none_iff : tag t = none ↔
    ∀ opening ∈ openings, ∀ digits tag, IsTag opening digits tag → ¬tag <+: t := by
  constructor
  · rintro h opening hopening digits tag htag ⟨rest, rfl⟩
    rw [tag_eq_some_iff.2 ⟨opening, hopening, tag, htag, rfl⟩] at h
    cases h
  · intro h
    rw [← Option.not_isSome_iff_eq_none, Option.isSome_iff_exists]
    rintro ⟨⟨digits, rest⟩, hread⟩
    obtain ⟨opening, hopening, tag, htag, rfl⟩ := tag_eq_some_iff.1 hread
    exact h opening hopening digits tag htag ⟨rest, rfl⟩

theorem replaceAll_of_untagged (h : Untagged t u) : tag.replaceAll (fun _ => [' ']) t = u := by
  induction h with
  | nil => rfl
  | @tag opening digits s t u hopening hs _ ih =>
    have hread : Metadata.tag (s ++ t) = some (digits, t) :=
      tag_eq_some_iff.2 ⟨opening, hopening, s, hs, rfl⟩
    rw [Scan.replaceAll_append hs.ne_nil hread, ih, List.singleton_append]
  | @char c t u hnone _ ih =>
    rw [Scan.replaceAll, Scan.replaceFrom, tag_eq_none_iff.2 hnone]
    exact congrArg (c :: ·) ih

theorem untagged_replaceAll (t : Text) : Untagged t (tag.replaceAll (fun _ => [' ']) t) := by
  induction hn : t.length using Nat.strong_induction_on generalizing t with
  | _ n ih =>
    subst hn
    cases hread : tag t with
    | some r =>
      obtain ⟨digits, rest⟩ := r
      obtain ⟨opening, hopening, s, hs, rfl⟩ := tag_eq_some_iff.1 hread
      have hlength : rest.length < (s ++ rest).length := by
        rw [List.length_append]
        exact Nat.lt_add_of_pos_left (List.length_pos_of_ne_nil hs.ne_nil)
      rw [Scan.replaceAll_append hs.ne_nil hread]
      exact .tag hopening hs (ih _ hlength rest rfl)
    | none =>
      cases t with
      | nil => exact .nil
      | cons c cs =>
        rw [Scan.replaceAll, Scan.replaceFrom, hread]
        exact .char (tag_eq_none_iff.1 hread) (ih _ (Nat.lt_succ_self _) cs rfl)

/-- **With its tags replaced by spaces a text is what `Untagged` says.** -/
theorem untagged_iff : Untagged t u ↔ tag.replaceAll (fun _ => [' ']) t = u := by
  constructor
  · exact replaceAll_of_untagged
  · rintro rfl
    exact untagged_replaceAll t

end Metadata

end Repartee
