import Mathlib.Data.Prod.Lex
import Mathlib.Order.WithBot
import Repartee.Proofs.Pattern.Metadata
import Repartee.Proofs.Topic.Graph
import Repartee.Topic.Order

/-!
# The order of triggers is a linear order

* `Rank.key`: the keys of a pattern as one value of a linear order.
* `Rank.atMost_iff`: the comparison of ranks is the comparison of keys.
* `Rank.Before`, `Rank.key_lt_iff`: what it is for a rank to come before another one.
* `Entry.exists_sort`: entries are sorted by their keys and then by their positions.
* `Entry.priority_lt_iff`: an entry comes before another one by its rank, then by its position.
* `Entry.IsFirst`: an entry of a list comes first of those with a property.
* `Entry.sort_perm`, `Entry.mem_sort`: sorted entries are the unsorted ones with their levels
  removed.
* `Entry.Leveled`: an entry whose pattern has a level; without one the rank stays.
* **`Entry.sort_sort`**: sorting twice is sorting once, unless levels are removed.
* **`Entry.findSome?_sort`**: a search through sorted entries finds the first entry of the unsorted
  ones.
-/

namespace Repartee

open OrderDual (toDual)

namespace Rank

/-- A level; untagged patterns have the greatest one. -/
def levelKey : Option Nat → WithTop ℕ
  | some n => WithTop.some n
  | none => ⊤

/-- The keys of a pattern, the most important one first. -/
def key (r : Rank) : ℕᵒᵈ ×ₗ WithTop ℕ ×ₗ ℕ ×ₗ ℕᵒᵈ ×ₗ ℕᵒᵈ :=
  toLex (toDual r.weight, toLex (levelKey r.level, toLex (r.category.place,
    toLex (toDual r.words, toDual r.length))))

theorem levelBefore_iff (a b : Option Nat) : levelBefore a b ↔ levelKey a < levelKey b := by
  cases a <;> cases b <;> simp [levelBefore, levelKey]

theorem levelBefore_self (a : Option Nat) : levelBefore a a = false := by
  cases a <;> simp [levelBefore]

theorem levelKey_inj {a b : Option Nat} : levelKey a = levelKey b ↔ a = b := by
  cases a <;> cases b <;> simp [levelKey]

theorem place_inj {a b : Category} : a.place = b.place ↔ a = b := by
  cases a <;> cases b <;> decide

/-- The comparison of ranks is the comparison of their keys. -/
theorem atMost_iff (a b : Rank) : a.atMost b ↔ a.key ≤ b.key := by
  simp only [key, Prod.Lex.toLex_le_toLex, OrderDual.toDual_lt_toDual, OrderDual.toDual_le_toDual,
    OrderDual.toDual_inj, levelKey_inj, place_inj, ← levelBefore_iff]
  unfold atMost
  -- the first key that differs decides
  by_cases hw : a.weight = b.weight
  · by_cases hl : a.level = b.level
    · by_cases hc : a.category = b.category
      · by_cases hn : a.words = b.words
        · simp [hw, hl, hc, hn, levelBefore_self]
        · simp [hw, hl, hc, hn, levelBefore_self]
      · simp [hw, hl, hc, levelBefore_self]
    · simp [hw, hl]
  · simp [hw]

/-- A rank comes before another one by its higher weight, then its lower level, its category, its
greater number of words and its greater length. -/
def Before (a b : Rank) : Prop :=
  b.weight < a.weight ∨ a.weight = b.weight ∧
    (levelKey a.level < levelKey b.level ∨ a.level = b.level ∧
      (a.category.place < b.category.place ∨ a.category = b.category ∧
        (b.words < a.words ∨ a.words = b.words ∧ b.length < a.length)))

theorem key_lt_iff (a b : Rank) : a.key < b.key ↔ a.Before b := by
  simp only [key, Prod.Lex.toLex_lt_toLex, OrderDual.toDual_lt_toDual, OrderDual.toDual_inj,
    levelKey_inj, place_inj, Before]

theorem key_inj {a b : Rank} : a.key = b.key ↔ a = b := by
  obtain ⟨_, _, _, _, _⟩ := a
  obtain ⟨_, _, _, _, _⟩ := b
  simp [key, levelKey_inj, place_inj]

/-- Blanks around a pattern do not matter to its rank. -/
theorem of_trim (t : Text) : of t.trim = of t := by
  rw [of, of, Metadata.weight_trim, Metadata.level?_trim, Metadata.strip_trim]

/-- Among ranks of one weight those with lower levels come first. -/
theorem levelKey_le {a b : Rank} (h : a.key ≤ b.key) (hw : a.weight = b.weight) :
    levelKey a.level ≤ levelKey b.level := by
  simp only [key, Prod.Lex.toLex_le_toLex, hw, lt_irrefl, false_or, true_and] at h
  exact h.elim le_of_lt fun h => h.1.le

end Rank

/-! ## Sorting keeps the order of what ties -/

section Stable

variable {α κ : Type} [LinearOrder κ]

/-- A sorted list is the list with the positions its elements had, by key and then by position. -/
theorem exists_sorted (key : α → κ) {le : α → α → Bool} (hle : ∀ a b, le a b ↔ key a ≤ key b)
    (l : List α) : ∃ L : List (α × Nat), L.Perm l.zipIdx ∧ l.mergeSort le = L.map (·.1) ∧
      L.Pairwise fun a b => toLex (key a.1, a.2) ≤ toLex (key b.1, b.2) := by
  have htrans : ∀ a b c, le a b → le b c → le a c := fun a b c hab hbc =>
    (hle a c).2 (((hle a b).1 hab).trans ((hle b c).1 hbc))
  have htotal : ∀ a b, le a b || le b a := fun a b =>
    Bool.or_eq_true_iff.2 ((le_total (key a) (key b)).imp (hle a b).2 (hle b a).2)
  refine ⟨l.zipIdx.mergeSort (List.zipIdxLE le), List.mergeSort_perm _ _,
    List.mergeSort_zipIdx.symm, ?_⟩
  have hsorted := List.pairwise_mergeSort (List.zipIdxLE_trans htrans) (List.zipIdxLE_total htotal)
    l.zipIdx
  refine hsorted.imp fun {a b} hab => ?_
  rw [Prod.Lex.toLex_le_toLex]
  unfold List.zipIdxLE at hab
  split at hab
  · rename_i hab'
    have h₁ := (hle a.1 b.1).1 hab'
    split at hab
    · rename_i hba
      have h₂ := (hle b.1 a.1).1 hba
      exact .inr ⟨le_antisymm h₁ h₂, of_decide_eq_true hab⟩
    · rename_i hba
      exact .inl (lt_of_not_ge fun h₂ => hba ((hle b.1 a.1).2 h₂))
  · exact absurd hab Bool.false_ne_true

end Stable

/-! ## The first entry -/

namespace Entry

/-- An entry with the levels of its pattern removed. -/
def bare (e : Entry) : Entry :=
  { e with pattern := String.ofList (Metadata.stripLevel e.pattern.toList) }

/-- The level that a walk puts before a pattern is removed. -/
theorem bare_pattern {e : Entry} {pattern : String}
    (h : e.pattern = pattern ∨ ∃ level, e.pattern = Topics.tagged level pattern) :
    e.bare.pattern = String.ofList (Metadata.stripLevel pattern.toList) := by
  rcases h with h | ⟨level, h⟩
  · rw [bare, h]
  · rw [bare, h, Metadata.stripLevel_tagged]

/-- Where an entry at some position comes: by the keys of its pattern, then by position. -/
def priority (e : Entry) (i : Nat) :
    (ℕᵒᵈ ×ₗ WithTop ℕ ×ₗ ℕ ×ₗ ℕᵒᵈ ×ₗ ℕᵒᵈ) ×ₗ ℕ :=
  toLex ((Rank.of e.pattern.toList).key, i)

/-- An entry comes before another one by its rank and, where they have the same rank, by its
position. -/
theorem priority_lt_iff {e d : Entry} {i j : Nat} : e.priority i < d.priority j ↔
    (Rank.of e.pattern.toList).Before (Rank.of d.pattern.toList) ∨
      Rank.of e.pattern.toList = Rank.of d.pattern.toList ∧ i < j := by
  rw [priority, priority, Prod.Lex.toLex_lt_toLex, Rank.key_lt_iff, Rank.key_inj]

/-- The entry at a position comes first of those with a property. -/
structure IsFirst (es : List Entry) (P : Entry → Prop) (e : Entry) (i : Nat) : Prop where
  here : es[i]? = some e
  holds : P e
  least : ∀ d j, es[j]? = some d → P d → e.priority i ≤ d.priority j

/-- The entries of some things are sorted by sorting the things. -/
theorem exists_sort {α : Type} (entry : α → Entry) (l : List α) : ∃ L : List (α × Nat),
    L.Perm l.zipIdx ∧ sort (l.map entry) = L.map (fun p => (entry p.1).bare) ∧
      L.Pairwise fun a b => (entry a.1).priority a.2 ≤ (entry b.1).priority b.2 := by
  obtain ⟨L, hperm, hmap, hsorted⟩ := exists_sorted
    (fun x => (Rank.of (entry x).pattern.toList).key) (fun _ _ => Rank.atMost_iff _ _) l
  refine ⟨L, hperm, ?_, hsorted⟩
  have hranks := List.map_mergeSort (s := fun a b : Rank × Entry => a.1.atMost b.1)
    (f := fun x => (Rank.of (entry x).pattern.toList, entry x)) (l := l) fun _ _ _ _ => rfl
  rw [hmap, List.map_map] at hranks
  rw [sort, List.map_map]
  exact (congrArg _ hranks.symm).trans (List.map_map ..)

/-- Sorted entries are the unsorted ones with their levels removed. -/
theorem sort_perm (es : List Entry) : (sort es).Perm (es.map bare) := by
  have hperm := (List.mergeSort_perm (es.map fun e => (Rank.of e.pattern.toList, e))
    fun a b => a.1.atMost b.1).map fun p => p.2.bare
  rwa [List.map_map] at hperm

theorem mem_sort {es : List Entry} {e : Entry} : e ∈ sort es ↔ ∃ d ∈ es, d.bare = e := by
  rw [(sort_perm es).mem_iff, List.mem_map]

variable {β : Type}

/-- **A search through sorted entries finds the first entry of the unsorted ones.** -/
theorem findSome?_sort (f : Entry → Option β) (es : List Entry) :
    ((sort es).findSome? f = none ↔ ∀ e ∈ es, f e.bare = none) ∧
      ∀ b, (sort es).findSome? f = some b →
        ∃ e i, IsFirst es (fun e => (f e.bare).isSome) e i ∧ f e.bare = some b := by
  obtain ⟨L, hperm, hsort, hsorted⟩ := exists_sort (fun e => e) es
  rw [List.map_id'] at hsort
  have hmem {e : Entry} {i : Nat} : (e, i) ∈ L ↔ es[i]? = some e := by
    rw [hperm.mem_iff, List.mk_mem_zipIdx_iff_getElem?]
  rw [hsort]
  constructor
  · rw [List.findSome?_eq_none_iff, List.forall_mem_map]
    constructor
    · intro h e he
      obtain ⟨i, hi⟩ := List.mem_iff_getElem?.1 he
      exact h (e, i) (hmem.2 hi)
    · intro h p hp
      exact h p.1 (List.mem_of_getElem? (hmem.1 hp))
  · intro b hb
    rw [List.findSome?_map, List.findSome?_eq_some_iff] at hb
    obtain ⟨L₁, p, L₂, rfl, hp, hnone⟩ := hb
    have hp' : f p.1.bare = some b := hp
    refine ⟨p.1, p.2, ⟨hmem.1 (by simp), by rw [hp']; rfl, fun d j hd hf => ?_⟩, hp'⟩
    rcases List.mem_append.1 (hmem.2 hd) with h | h
    · -- what stands before the entry found does not have the property
      have hd' : f d.bare = none := hnone (d, j) h
      rw [hd'] at hf
      exact absurd hf Bool.false_ne_true
    · rcases List.mem_cons.1 h with rfl | h
      · exact le_refl _
      · exact (List.pairwise_cons.1 (List.pairwise_append.1 hsorted).2.1).1 (d, j) h

/-! ## Sorting again -/

/-- The pattern of an entry has a level. -/
def Leveled (e : Entry) : Prop := (Metadata.levelTag.find? e.pattern.toList).isSome

instance : DecidablePred Leveled := fun e =>
  inferInstanceAs (Decidable ((Metadata.levelTag.find? e.pattern.toList).isSome = true))

variable {e : Entry} {es : List Entry}

theorem toList_bare (h : ¬ e.Leveled) : e.bare.pattern.toList = Text.trim e.pattern.toList := by
  rw [bare, String.toList_ofList, Metadata.stripLevel_of_find? (by simpa [Leveled] using h)]

theorem not_leveled_bare (h : ¬ e.Leveled) : ¬ e.bare.Leveled := by
  have htrim := Metadata.find?_levelTag_trim (t := e.pattern.toList) (by simpa [Leveled] using h)
  rw [Leveled, toList_bare h, htrim]
  exact Bool.false_ne_true

/-- The rank of an entry without level stays. -/
theorem rank_bare (h : ¬ e.Leveled) : Rank.of e.bare.pattern.toList = Rank.of e.pattern.toList := by
  rw [toList_bare h, Rank.of_trim]

theorem bare_bare (h : ¬ e.Leveled) : e.bare.bare = e.bare := by
  have htrim := toList_bare (not_leveled_bare h)
  rw [toList_bare h, Text.trim_trim, ← toList_bare h] at htrim
  exact congrArg (Entry.mk · e.id) (String.toList_inj.1 htrim)

/-- Entries in the order of their ranks keep it. -/
theorem sort_of_pairwise
    (h : es.Pairwise fun a b => (Rank.of a.pattern.toList).atMost (Rank.of b.pattern.toList)) :
    sort es = es.map bare := by
  have hranks : (es.map fun e => (Rank.of e.pattern.toList, e)).Pairwise
      fun a b => a.1.atMost b.1 := List.pairwise_map.2 h
  rw [sort, List.mergeSort_of_pairwise hranks, List.map_map]
  rfl

/-- Without levels, sorted entries are in the order of their ranks. -/
theorem pairwise_sort (h : ∀ e ∈ es, ¬ e.Leveled) : (sort es).Pairwise fun a b =>
    (Rank.of a.pattern.toList).atMost (Rank.of b.pattern.toList) := by
  obtain ⟨L, hperm, hsort, hsorted⟩ := exists_sort (fun e => e) es
  have hplain {p : Entry × Nat} (hp : p ∈ L) : ¬ p.1.Leveled :=
    h p.1 (List.mem_of_getElem? (List.mk_mem_zipIdx_iff_getElem?.1 (hperm.mem_iff.1 hp)))
  rw [List.map_id'] at hsort
  rw [hsort, List.pairwise_map]
  refine hsorted.imp_of_mem fun {a b} ha hb hab => ?_
  rw [rank_bare (hplain ha), rank_bare (hplain hb), Rank.atMost_iff]
  exact (Prod.Lex.toLex_le_toLex.1 hab).elim le_of_lt fun hab => hab.1.le

/-- **Sorting is idempotent.** Entries without levels that are sorted again stay as they are, and
sorting only permutes their identifiers. -/
theorem sort_sort (h : ∀ e ∈ es, ¬ e.Leveled) :
    sort (sort es) = sort es ∧ ((sort es).map (·.id)).Perm (es.map (·.id)) := by
  constructor
  · have hbare : ∀ e ∈ sort es, e.bare = e := by
      intro e he
      obtain ⟨d, hd, rfl⟩ := mem_sort.1 he
      exact bare_bare (h d hd)
    calc sort (sort es) = (sort es).map bare := sort_of_pairwise (pairwise_sort h)
      _ = (sort es).map fun e => e := List.map_congr_left hbare
      _ = sort es := List.map_id' _
  · have hperm := (sort_perm es).map (·.id)
    rwa [List.map_map] at hperm

/-- Patterns with weights in any letter case, blanks and duplicates. -/
def jumble : List Entry :=
  [⟨" * ", ⟨"random", 0⟩⟩, ⟨"hello", ⟨"random", 1⟩⟩,
    ⟨"\x7bWEIGHT=2\x7d  i am #  years old", ⟨"random", 2⟩⟩, ⟨"hello ", ⟨"random", 3⟩⟩,
    ⟨"_ bananas\x7bweight=2\x7d", ⟨"random", 4⟩⟩, ⟨" * ", ⟨"random", 0⟩⟩]

theorem sort_sort_jumble : (∀ e ∈ jumble, ¬ e.Leveled) ∧ sort (sort jumble) = sort jumble ∧
    ((sort jumble).map (·.id)).Perm (jumble.map (·.id)) :=
  have hplain : ∀ e ∈ jumble, ¬ e.Leveled := by decide
  ⟨hplain, sort_sort hplain⟩

end Entry

end Repartee
