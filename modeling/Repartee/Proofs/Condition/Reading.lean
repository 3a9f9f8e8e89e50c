import Repartee.Condition
import Repartee.Proofs.Reply.Marks

/-!
# How conditions are read

A condition is cut at its only arrow. What stands before the arrow is cut at the first operator that
is a word of its own, with something before it on the same line and nothing but one line behind it.

* `arrow`, `Text.cutAt?_arrow_append`, `Text.cutAt?_arrow_eq_none`: cutting at an arrow.
* **`Condition.split?_eq_some_iff`**: the only arrow of a condition.
* `Text.IsGap`: one or more blanks; `Condition.operators`: the nine operators.
* **`Condition.operator?_eq_some_iff`**: an operator between blanks.
* `Condition.sides?_append`, `Condition.sides?_isSome_iff`: the first one is taken.
* `Condition.HasOperator`, **`Condition.comparison?_isSome_iff`**: a test that can be evaluated.
-/

namespace Repartee

variable {t u : Text}

/-! ## Arrows -/

/-- What stands between a test and a reply. -/
def arrow : Text := ['=', '>']

theorem arrow_eq : "=>".toList = arrow := by decide

theorem startsWith?_arrow : Text.startsWith? arrow t = some u ↔ t = arrow ++ u :=
  ⟨Scan.startsWith?_eq_some, by rintro rfl; rfl⟩

theorem arrow_prefix_cons {c : Char} : arrow <+: c :: t ↔ c = '=' ∧ '>' ∈ t.head? := by
  constructor
  · rintro ⟨rest, hrest⟩
    cases hrest
    exact ⟨rfl, rfl⟩
  · rintro ⟨rfl, h⟩
    cases t with
    | nil => cases h
    | cons d ds =>
      cases h
      exact ⟨ds, rfl⟩

/-- An arrow is in neither of two texts, and not across them if the first does not end with an
equals sign. -/
theorem not_arrow_infix_append (ht : '=' ∉ t.getLast?) (h : ¬arrow <:+: t) (h' : ¬arrow <:+: u) :
    ¬arrow <:+: t ++ u := by
  induction t with
  | nil => exact h'
  | cons c cs ih =>
    rw [List.infix_cons_iff, arrow_prefix_cons, not_or] at h
    rw [List.cons_append, List.infix_cons_iff, arrow_prefix_cons, not_or]
    cases cs with
    | nil => exact ⟨fun hc => ht (by rw [hc.1]; rfl), h'⟩
    | cons d ds => exact ⟨h.1, ih (by rwa [List.getLast?_cons_cons] at ht) h.2⟩

theorem not_arrow_infix_of_notMem (h : '=' ∉ t) : ¬arrow <:+: t :=
  fun harrow => h (harrow.subset List.mem_cons_self)

theorem startsWith?_arrow_eq_none : Text.startsWith? arrow t = none ↔ ¬arrow <+: t := by
  rw [← Option.not_isSome_iff_eq_none, Option.isSome_iff_exists]
  exact not_congr (exists_congr fun u => startsWith?_arrow.trans eq_comm)

/-- A text is cut at its first arrow. -/
theorem Text.cutAt?_arrow_append (u : Text) : ∀ {t : Text}, ¬arrow <:+: t →
    cutAt? arrow (t ++ (arrow ++ u)) = some (t, u)
  | [], _ => rfl
  | c :: cs, h => by
    rw [List.infix_cons_iff, arrow_prefix_cons, not_or] at h
    have hfront : ¬arrow <+: c :: (cs ++ (arrow ++ u)) := by
      rw [arrow_prefix_cons]
      cases cs with
      | nil => simp [arrow]
      | cons d ds => exact h.1
    rw [List.cons_append, cutAt?, startsWith?_arrow_eq_none.2 hfront, cutAt?_arrow_append u h.2]
    rfl

theorem Text.cutAt?_arrow_eq_none : ∀ {t : Text}, cutAt? arrow t = none ↔ ¬arrow <:+: t
  | [] => by simp [cutAt?, arrow]
  | c :: cs => by
    rw [cutAt?, List.infix_cons_iff, not_or, ← startsWith?_arrow_eq_none, ← cutAt?_arrow_eq_none]
    cases startsWith? arrow (c :: cs) <;> simp

/-- An arrow in a text is the first one, or there is one before it. -/
theorem exists_first_arrow (h : arrow <:+: t) :
    ∃ before after, t = before ++ (arrow ++ after) ∧ ¬arrow <:+: before := by
  induction t with
  | nil => exact absurd h (by simp [arrow])
  | cons c cs ih =>
    by_cases hprefix : arrow <+: c :: cs
    · obtain ⟨after, hafter⟩ := hprefix
      exact ⟨[], after, hafter.symm, by decide⟩
    · obtain ⟨before, after, rfl, hno⟩ := ih ((List.infix_cons_iff.1 h).resolve_left hprefix)
      refine ⟨c :: before, after, rfl, fun harrow => ?_⟩
      rcases List.infix_cons_iff.1 harrow with hfront | hinfix
      · exact hprefix (hfront.trans (List.prefix_append (c :: before) (arrow ++ after)))
      · exact hno hinfix

/-- **A condition is cut at its only arrow.** -/
theorem Condition.split?_eq_some_iff {test reply : Text} : split? t = some (test, reply) ↔
    ∃ before after, t = before ++ (arrow ++ after) ∧ ¬arrow <:+: before ∧ ¬arrow <:+: after ∧
      test = before.trim ∧ reply = after.trim := by
  rw [split?, arrow_eq]
  constructor
  · intro h
    by_cases harrow : arrow <:+: t
    · obtain ⟨before, after, rfl, hbefore⟩ := exists_first_arrow harrow
      rw [Text.cutAt?_arrow_append after hbefore] at h
      dsimp only at h
      split at h
      · cases h
      · rename_i hafter
        cases h
        rw [Option.not_isSome_iff_eq_none, Text.cutAt?_arrow_eq_none] at hafter
        exact ⟨before, after, rfl, hbefore, hafter, rfl, rfl⟩
    · rw [Text.cutAt?_arrow_eq_none.2 harrow] at h
      cases h
  · rintro ⟨before, after, rfl, hbefore, hafter, rfl, rfl⟩
    rw [Text.cutAt?_arrow_append after hbefore]
    dsimp only
    rw [Text.cutAt?_arrow_eq_none.2 hafter]
    rfl

/-! ## Operators -/

/-- One or more blanks. -/
def Text.IsGap (t : Text) : Prop := t ≠ [] ∧ ∀ c ∈ t, isBlank c

/-- What stands in front of the rest is one or more blanks if its first character is blank. -/
theorem Text.exists_gap (h : t.head?.any isBlank) :
    ∃ gap, t = gap ++ t.trimLeft ∧ gap.IsGap ∧ ∀ c ∈ t.trimLeft.head?, isBlank c = false := by
  refine ⟨t.takeWhile isBlank, List.takeWhile_append_dropWhile.symm, ⟨?_, fun c hc =>
    List.mem_takeWhile_imp hc⟩, fun c hc => ?_⟩
  · cases t with
    | nil => cases h
    | cons c cs => simp [List.takeWhile_cons_of_pos (show isBlank c from h)]
  · have hdrop := List.head?_dropWhile_not isBlank t
    rw [trimLeft] at hc
    rw [Option.mem_def.1 hc] at hdrop
    simpa using hdrop

theorem Text.IsGap.head?_any (h : t.IsGap) (u : Text) : (t ++ u).head?.any isBlank := by
  obtain ⟨c, cs, rfl⟩ := List.exists_cons_of_ne_nil h.1
  exact h.2 c List.mem_cons_self

/-- A word behind a gap is what trimming leaves. -/
theorem Text.IsGap.trimLeft_append {w : Text} (h : t.IsGap) (hw : w.IsWord) (u : Text) :
    trimLeft (t ++ (w ++ u)) = w ++ u := by
  refine Text.trimLeft_append h.2 fun c hc => hw.2 c ?_
  rw [List.head?_append_of_ne_nil _ hw.1] at hc
  exact List.mem_of_mem_head? hc

/-- The word in front of a gap is the first word. -/
theorem Text.IsWord.takeWhile_append {w gap : Text} (hw : w.IsWord) (hgap : gap.IsGap) (u : Text) :
    (w ++ (gap ++ u)).takeWhile (!isBlank ·) = w := by
  rw [List.takeWhile_append_of_pos fun c hc => by simp [hw.2 c hc]]
  obtain ⟨c, cs, rfl⟩ := List.exists_cons_of_ne_nil hgap.1
  rw [List.cons_append, List.takeWhile_cons_of_neg (by simp [hgap.2 c List.mem_cons_self]),
    List.append_nil]

namespace Condition

/-- The operators as they are written. -/
def operators : List String := ["==", "eq", "!=", "ne", "<>", "<", "<=", ">", ">="]

theorem mem_operators {w : String} : w ∈ operators ↔ ∃ op, (w, op) ∈ Comparison.spellings := by
  rw [show operators = Comparison.spellings.map Prod.fst from rfl, List.mem_map]
  exact ⟨fun ⟨e, he, hw⟩ => ⟨e.2, hw ▸ he⟩, fun ⟨op, he⟩ => ⟨_, he, rfl⟩⟩

theorem isWord_spelling : ∀ e ∈ Comparison.spellings, Text.IsWord e.1.toList := by decide

/-- No operator is written in the way of another one. -/
theorem spelling_inj : ∀ e ∈ Comparison.spellings, ∀ e' ∈ Comparison.spellings,
    e.1.toList = e'.1.toList → e = e' := by decide

/-- What an operator written in one way leaves of a text: the line behind the blanks that follow. -/
def behind? (t : Text) (e : String × Comparison) : Option (Comparison × Text) :=
  match Text.startsWith? e.1.toList t with
  | some rest =>
    if rest.head?.any isBlank ∧ '\n' ∉ Text.trimLeft rest then some (e.2, Text.trimLeft rest)
    else none
  | none => none

theorem operator?_eq (t : Text) : operator? t =
    if t.head?.any isBlank then Comparison.spellings.findSome? (behind? t.trimLeft) else none := rfl

theorem behind?_eq_some_iff {e : String × Comparison} {op : Comparison} {right : Text} :
    behind? t e = some (op, right) ↔ op = e.2 ∧ ∃ gap, t = e.1.toList ++ (gap ++ right) ∧
      gap.IsGap ∧ (∀ c ∈ right.head?, isBlank c = false) ∧ '\n' ∉ right := by
  rw [behind?]
  constructor
  · intro h
    split at h
    · rename_i rest hrest
      split at h
      · rename_i hright
        cases h
        obtain ⟨gap, hsplit, hgap, hfirst⟩ := Text.exists_gap hright.1
        refine ⟨rfl, gap, ?_, hgap, hfirst, hright.2⟩
        rw [← hsplit, ← Scan.startsWith?_eq_some hrest]
      · cases h
    · cases h
  · rintro ⟨rfl, gap, rfl, hgap, hfirst, hline⟩
    have htrim : Text.trimLeft (gap ++ right) = right := Text.trimLeft_append hgap.2 hfirst
    rw [Text.startsWith?_append]
    dsimp only
    rw [htrim, if_pos ⟨hgap.head?_any right, hline⟩]

/-- **An operator between blanks is read, and the line behind it.** -/
theorem operator?_eq_some_iff {op : Comparison} {right : Text} : operator? t = some (op, right) ↔
    ∃ gap w gap', t = gap ++ (w.toList ++ (gap' ++ right)) ∧ gap.IsGap ∧
      (w, op) ∈ Comparison.spellings ∧ gap'.IsGap ∧ (∀ c ∈ right.head?, isBlank c = false) ∧
      '\n' ∉ right := by
  rw [operator?_eq]
  constructor
  · intro h
    split at h
    · rename_i hhead
      obtain ⟨⟨w, op'⟩, hmem, hread⟩ := List.exists_of_findSome?_eq_some h
      obtain ⟨gap, ht, hgap, -⟩ := Text.exists_gap hhead
      obtain ⟨rfl, gap', hbehind, hgap', hfirst, hline⟩ := behind?_eq_some_iff.1 hread
      exact ⟨gap, w, gap', by rw [← hbehind, ← ht], hgap, hmem, hgap', hfirst, hline⟩
    · cases h
  · rintro ⟨gap, w, gap', rfl, hgap, hmem, hgap', hfirst, hline⟩
    have hw := isWord_spelling _ hmem
    have hread : behind? (w.toList ++ (gap' ++ right)) (w, op) = some (op, right) :=
      behind?_eq_some_iff.2 ⟨rfl, gap', rfl, hgap', hfirst, hline⟩
    rw [if_pos (hgap.head?_any _), hgap.trimLeft_append hw]
    obtain ⟨⟨op', right'⟩, hfound⟩ := Option.isSome_iff_exists.1
      (List.findSome?_isSome_iff.2 ⟨_, hmem, Option.isSome_of_eq_some hread⟩)
    -- what was found is a word in front of a gap too, so it is the same one
    obtain ⟨⟨w', op''⟩, hmem', hread'⟩ := List.exists_of_findSome?_eq_some hfound
    obtain ⟨-, gap'', hsame, hgap'', -⟩ := behind?_eq_some_iff.1 hread'
    have hfront := congrArg (List.takeWhile (!isBlank ·)) hsame
    rw [hw.takeWhile_append hgap', (isWord_spelling _ hmem').takeWhile_append hgap''] at hfront
    cases spelling_inj _ hmem _ hmem' hfront
    rw [hfound, ← hread', hread]

/-! ## Sides -/

/-- The first operator is taken. -/
theorem sides?_append {op : Comparison} {right : Text} (hread : operator? u = some (op, right)) :
    ∀ {left : Text}, left ≠ [] → '\n' ∉ left →
      (∀ v w, v ≠ [] → w ≠ [] → left = v ++ w → operator? (w ++ u) = none) →
      sides? (left ++ u) = some (left, op, right)
  | [c], _, hline, _ => by
    rw [List.cons_append, sides?, if_neg (List.ne_of_not_mem_cons hline).symm, List.nil_append,
      hread]
  | c :: d :: ds, _, hline, hno => by
    obtain ⟨hc, hline⟩ := List.ne_and_not_mem_of_not_mem_cons hline
    have hrest := sides?_append hread (List.cons_ne_nil d ds) hline fun v w _ hw h =>
      hno (c :: v) w (List.cons_ne_nil c v) hw (congrArg (c :: ·) h)
    have hnone := hno [c] (d :: ds) (List.cons_ne_nil c []) (List.cons_ne_nil d ds) rfl
    rw [List.cons_append, sides?, if_neg hc.symm, hnone]
    dsimp only
    rw [hrest]
    rfl

/-- **A test has sides where an operator between blanks follows something on the first line.** -/
theorem sides?_isSome_iff : ∀ {t : Text}, (sides? t).isSome ↔
    ∃ left u, t = left ++ u ∧ left ≠ [] ∧ '\n' ∉ left ∧ (operator? u).isSome
  | [] => by
    simp [sides?]
  | c :: cs => by
    rw [sides?]
    constructor
    · intro h
      split at h
      · cases h
      · rename_i hc
        cases hread : operator? cs with
        | some r => exact ⟨[c], cs, rfl, by simp, by simpa using Ne.symm hc, by rw [hread]; rfl⟩
        | none =>
          rw [hread, Option.isSome_map] at h
          obtain ⟨left, u, rfl, hne, hline, hsome⟩ := sides?_isSome_iff.1 h
          exact ⟨c :: left, u, rfl, by simp, by simp [Ne.symm hc, hline], hsome⟩
    · rintro ⟨left, u, ht, hne, hline, hsome⟩
      obtain ⟨d, left, rfl⟩ := List.exists_cons_of_ne_nil hne
      obtain ⟨rfl, rfl⟩ := List.cons.inj ht
      obtain ⟨hc, hline⟩ := List.ne_and_not_mem_of_not_mem_cons hline
      rw [if_neg hc.symm]
      cases hread : operator? (left ++ u) with
      | some r => rfl
      | none =>
        have hleft : left ≠ [] := by
          rintro rfl
          rw [List.nil_append] at hread
          rw [hread] at hsome
          cases hsome
        dsimp only
        rw [Option.isSome_map]
        exact sides?_isSome_iff.2 ⟨left, u, rfl, hleft, hline, hsome⟩

/-- An operator stands in a text as a word of its own: behind something on the first line, and with
nothing but a line behind it. -/
def HasOperator (t : Text) : Prop :=
  ∃ left gap w gap' right, t = left ++ (gap ++ (w.toList ++ (gap' ++ right))) ∧ left ≠ [] ∧
    '\n' ∉ left ∧ gap.IsGap ∧ w ∈ operators ∧ gap'.IsGap ∧
    (∀ c ∈ right.head?, isBlank c = false) ∧ '\n' ∉ right

theorem comparison?_isSome_iff : (comparison? t).isSome ↔ HasOperator t := by
  rw [comparison?, Option.isSome_map, sides?_isSome_iff]
  constructor
  · rintro ⟨left, u, rfl, hne, hline, hsome⟩
    obtain ⟨⟨op, right⟩, hread⟩ := Option.isSome_iff_exists.1 hsome
    obtain ⟨gap, w, gap', rfl, hgap, hmem, hgap', hfirst, hright⟩ := operator?_eq_some_iff.1 hread
    exact ⟨left, gap, w, gap', right, rfl, hne, hline, hgap, mem_operators.2 ⟨op, hmem⟩, hgap',
      hfirst, hright⟩
  · rintro ⟨left, gap, w, gap', right, rfl, hne, hline, hgap, hmem, hgap', hfirst, hright⟩
    obtain ⟨op, he⟩ := mem_operators.1 hmem
    exact ⟨left, _, rfl, hne, hline, Option.isSome_of_eq_some
      (operator?_eq_some_iff.2 ⟨gap, w, gap', rfl, hgap, he, hgap', hfirst, hright⟩)⟩

end Condition

end Repartee
