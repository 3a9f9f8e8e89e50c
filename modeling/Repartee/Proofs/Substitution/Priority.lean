import Mathlib.Data.List.Induction
import Mathlib.Data.Prod.Lex
import Mathlib.Data.String.Basic
import Repartee.Proofs.Substitution.Scan

/-!
# The order of phrases does not depend on history

* `Substitution.priority`: what a phrase is ranked by, as one value of a linear order.
* `Substitution.before_iff`: the comparison of phrases is the comparison of priorities.
* `Substitution.prioritize_perm`: in whatever order phrases come, they are put in one order.
* `Substitution.lastValue?`, `Substitution.Leaves`: the last assignment to a phrase, in any letter
  case, decides whether it is left.
* `Substitution.find?_assignAll`: what is stored after some assignments.
* **`Substitution.ranked_assignAll`**: assignments that leave the same phrases give the same list.
-/

namespace Repartee

namespace Substitution

open OrderDual (toDual)

variable {edits edits' : List (String × Option String)} {p : String}

/-! ## Priorities -/

/-- What a phrase is ranked by, the most important first: the number of its words, the number of its
bytes, and the text itself. -/
def priority (p : String) : ℕᵒᵈ ×ₗ ℕᵒᵈ ×ₗ String :=
  toLex (toDual (Text.words p.toList).length, toLex (toDual (Text.bytes p.toList), p))

/-- No two phrases have one priority. -/
theorem priority_inj {a b : String} (h : priority a = priority b) : a = b :=
  congrArg (fun k => (ofLex (ofLex k).2).2) h

/-- The comparison of phrases is the comparison of their priorities. -/
theorem before_iff (a b : String) : before a b ↔ priority a ≤ priority b := by
  simp only [priority, Prod.Lex.toLex_le_toLex, OrderDual.toDual_lt_toDual, OrderDual.toDual_inj]
  unfold before
  -- the first part that differs decides
  by_cases hwords : (Text.words a.toList).length = (Text.words b.toList).length
  · by_cases hbytes : Text.bytes a.toList = Text.bytes b.toList
    · simp [hwords, hbytes]
    · simp [hwords, hbytes]
  · simp [hwords]

theorem perm_prioritize (ps : List String) : (prioritize ps).Perm ps :=
  List.mergeSort_perm ps before

theorem pairwise_prioritize (ps : List String) :
    (prioritize ps).Pairwise fun a b => priority a ≤ priority b := by
  have htrans : ∀ a b c, before a b → before b c → before a c := fun a b c hab hbc =>
    (before_iff a c).2 (((before_iff a b).1 hab).trans ((before_iff b c).1 hbc))
  have htotal : ∀ a b, before a b || before b a := fun a b =>
    Bool.or_eq_true_iff.2 ((le_total (priority a) (priority b)).imp (before_iff a b).2
      (before_iff b a).2)
  exact (List.pairwise_mergeSort htrans htotal ps).imp fun {a b} => (before_iff a b).1

/-- In whatever order phrases come, they are put in one order. -/
theorem prioritize_perm {ps qs : List String} (h : ps.Perm qs) : prioritize ps = prioritize qs :=
  List.Perm.eq_of_pairwise (fun _ _ _ _ hab hba => priority_inj (le_antisymm hab hba))
    (pairwise_prioritize ps) (pairwise_prioritize qs)
    ((perm_prioritize ps).trans (h.trans (perm_prioritize qs).symm))

/-- Phrases without repetition are in strict order. -/
theorem pairwise_prioritize_of_nodup {ps : List String} (h : ps.Nodup) :
    (prioritize ps).Pairwise fun a b => priority a < priority b :=
  (pairwise_prioritize ps).imp₂ (fun _ _ hle hne => lt_of_le_of_ne hle (mt priority_inj hne))
    ((perm_prioritize ps).nodup_iff.2 h)

/-! ## What a history leaves -/

/-- What the last assignment to a phrase, in any letter case, gives it. -/
def lastValue? (edits : List (String × Option String)) (p : String) : Option String :=
  (edits.reverse.find? fun e => stored e.1 = p).bind (·.2)

/-- The last assignment to a phrase, in any letter case, adds it. -/
def Leaves (edits : List (String × Option String)) (p : String) : Prop :=
  (lastValue? edits p).isSome

theorem find?_assign (s : Substitution) (phrase : String) (value : Option String) (p : String) :
    (s.assign phrase value).phrases.find? p =
      if p = stored phrase then value else s.phrases.find? p := by
  cases value with
  | none => exact Table.find?_erase s.phrases (stored phrase) p
  | some v => exact Table.find?_insert s.phrases (stored phrase) p v

/-- What is stored is what the last assignment gave. -/
theorem find?_assignAll (edits : List (String × Option String)) (p : String) :
    (assignAll {} edits).phrases.find? p = lastValue? edits p := by
  induction edits using List.reverseRecOn with
  | nil => rfl
  | append_singleton edits e ih =>
    rw [assignAll, List.foldl_concat, ← assignAll, find?_assign, ih, lastValue?, lastValue?,
      List.reverse_concat, List.find?_cons]
    by_cases hp : stored e.1 = p
    · simp [hp]
    · simp [hp, Ne.symm hp]

theorem mem_keys_assignAll : p ∈ (assignAll {} edits).phrases.keys ↔ Leaves edits p := by
  rw [Table.mem_keys_iff, find?_assignAll, Leaves]

/-- Stored phrases that come in any order are put in that of the list of phrases. -/
theorem prioritize_eq_ranked {order : List String} (hnodup : order.Nodup)
    (hmem : ∀ p, p ∈ order ↔ Leaves edits p) : prioritize order = (assignAll {} edits).ranked :=
  prioritize_perm ((List.perm_ext_iff_of_nodup hnodup (Table.nodup_keys _)).2 fun p =>
    (hmem p).trans mem_keys_assignAll.symm)

/-- **Assignments that leave the same phrases give the same list of phrases**, in whatever order the
phrases come: it has every phrase that is left once, by descending number of words, then descending
number of bytes, then ascending text. -/
theorem ranked_assignAll (h : ∀ p, Leaves edits p ↔ Leaves edits' p) :
    (assignAll {} edits).ranked = (assignAll {} edits').ranked ∧
    (∀ order : List String, order.Nodup → (∀ p, p ∈ order ↔ Leaves edits p) →
      prioritize order = (assignAll {} edits).ranked) ∧
    (assignAll {} edits).ranked.Nodup ∧
    (∀ p, p ∈ (assignAll {} edits).ranked ↔ Leaves edits p) ∧
    (assignAll {} edits).ranked.Pairwise fun a b => priority a < priority b := by
  have hnodup := Table.nodup_keys (assignAll {} edits).phrases
  have hperm := perm_prioritize (assignAll {} edits).phrases.keys
  refine ⟨?_, fun order => prioritize_eq_ranked, hperm.nodup_iff.2 hnodup, fun p => ?_,
    pairwise_prioritize_of_nodup hnodup⟩
  · exact prioritize_eq_ranked hnodup fun p => mem_keys_assignAll.trans (h p)
  · rw [ranked, hperm.mem_iff, mem_keys_assignAll]

/-- Phrases of which two have as many words and as many bytes. -/
def swapEdits : List (String × Option String) :=
  [("i am", some "you are"), ("ab", some "ba"), ("ba", some "ab"), ("I", some "you")]

/-- The same phrases in another order and in other cases, with one added again and another one added
and dropped. -/
def swapAgainEdits : List (String × Option String) :=
  [("I", some "me"), ("BA", some "ab"), ("so far", some "yet"), ("aB", some "a"), ("Ab", none),
    ("I Am", some "you are"), ("SO FAR", none), ("AB", some "ba"), ("i", some "you")]

theorem ranked_swapEdits : (∀ p, Leaves swapEdits p ↔ Leaves swapAgainEdits p) ∧
    (assignAll {} swapEdits).ranked = (assignAll {} swapAgainEdits).ranked ∧
    (assignAll {} swapEdits).ranked = ["i am", "ab", "ba", "i"] := by
  have hkeys : (assignAll {} swapEdits).phrases.keys = ["ab", "ba", "i", "i am"] := by decide
  have hkeys' : (assignAll {} swapAgainEdits).phrases.keys = ["ab", "ba", "i", "i am"] := by decide
  have h (p : String) : Leaves swapEdits p ↔ Leaves swapAgainEdits p := by
    rw [← mem_keys_assignAll, ← mem_keys_assignAll, hkeys, hkeys']
  have hmem (p : String) : p ∈ ["i am", "ab", "ba", "i"] ↔ Leaves swapEdits p := by
    rw [← mem_keys_assignAll, hkeys]
    exact List.Perm.mem_iff (by decide)
  have hsorted : prioritize ["i am", "ab", "ba", "i"] = ["i am", "ab", "ba", "i"] :=
    List.mergeSort_of_pairwise (by decide)
  obtain ⟨hagree, horder, -⟩ := ranked_assignAll h
  exact ⟨h, hagree, (horder _ (by decide) hmem).symm.trans hsorted⟩

end Substitution

end Repartee
