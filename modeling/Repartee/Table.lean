/-!
# Tables

Finite maps from names to values, kept in the order of the names.

* `Table.find?`, `Table.insert`, `Table.erase`, `Table.ofList`, `Table.keys`.
* **`Table.find?_insert`**, **`Table.find?_erase`**: what a look-up gives after a change.
* **`Table.ext`**: tables with the same look-ups are equal.
-/

namespace Repartee

/-- Named values in the order of their names, each name once. -/
structure Table (α : Type) where
  entries : List (String × α)
  sorted : entries.Pairwise fun a b => a.1 < b.1

namespace Table

variable {α β : Type}

/-- No entries. -/
def empty : Table α := ⟨[], .nil⟩

instance : EmptyCollection (Table α) := ⟨empty⟩

instance : Inhabited (Table α) := ⟨∅⟩

instance [DecidableEq α] : DecidableEq (Table α) := fun a b =>
  if h : a.entries = b.entries then .isTrue (by cases a; cases b; simp_all)
  else .isFalse fun e => h (e ▸ rfl)

/-- The value of a name. -/
def find? (t : Table α) (k : String) : Option α := t.entries.lookup k

/-- The table has the name. -/
def contains (t : Table α) (k : String) : Bool := (t.find? k).isSome

/-- The names in order. -/
def keys (t : Table α) : List String := t.entries.map (·.1)

/-- The number of entries. -/
def size (t : Table α) : Nat := t.entries.length

/-- Put an entry at its place in an ordered list. -/
def insertInto (k : String) (v : α) : List (String × α) → List (String × α)
  | [] => [(k, v)]
  | e :: es =>
    if k < e.1 then (k, v) :: e :: es
    else if k = e.1 then (k, v) :: es
    else e :: insertInto k v es

theorem mem_insertInto {k : String} {v : α} {e : String × α} :
    ∀ {es : List (String × α)}, e ∈ insertInto k v es → e = (k, v) ∨ e ∈ es
  | [], h => by simp_all [insertInto]
  | d :: es, h => by
    unfold insertInto at h
    split at h
    · simpa using h
    · split at h
      · rcases List.mem_cons.1 h with h | h
        · exact .inl h
        · exact .inr (List.mem_cons_of_mem _ h)
      · rcases List.mem_cons.1 h with h | h
        · exact .inr (h ▸ List.mem_cons_self)
        · exact (mem_insertInto h).imp id (List.mem_cons_of_mem _)

theorem pairwise_insertInto (k : String) (v : α) :
    ∀ {es : List (String × α)}, es.Pairwise (fun a b => a.1 < b.1) →
      (insertInto k v es).Pairwise fun a b => a.1 < b.1
  | [], _ => by simp [insertInto]
  | e :: es, h => by
    have ⟨he, hes⟩ := List.pairwise_cons.1 h
    unfold insertInto
    split
    · rename_i hk
      refine List.pairwise_cons.2 ⟨fun a ha => ?_, h⟩
      rcases List.mem_cons.1 ha with rfl | ha
      · exact hk
      · exact String.lt_trans hk (he a ha)
    · split
      · rename_i hk
        exact List.pairwise_cons.2 ⟨fun a ha => hk ▸ he a ha, hes⟩
      · rename_i hk hne
        refine List.pairwise_cons.2 ⟨fun a ha => ?_, pairwise_insertInto k v hes⟩
        rcases mem_insertInto ha with rfl | ha
        · rcases Classical.em (e.1 < k) with h' | h'
          · exact h'
          · exact absurd (String.le_antisymm (String.not_lt.1 h') (String.not_lt.1 hk)) hne
        · exact he a ha

/-- Set the value of a name. -/
def insert (t : Table α) (k : String) (v : α) : Table α :=
  ⟨insertInto k v t.entries, pairwise_insertInto k v t.sorted⟩

/-- Drop a name. -/
def erase (t : Table α) (k : String) : Table α :=
  ⟨t.entries.filter (·.1 ≠ k), t.sorted.filter _⟩

/-- Set a name, or drop it where there is no value. -/
def assign (t : Table α) (k : String) : Option α → Table α
  | some v => t.insert k v
  | none => t.erase k

/-- A table of pairs; of a repeated name the last pair counts. -/
def ofList (es : List (String × α)) : Table α := es.foldl (fun t e => t.insert e.1 e.2) ∅

/-- Change every value. -/
def map (f : α → β) (t : Table α) : Table β :=
  ⟨t.entries.map fun e => (e.1, f e.2), List.pairwise_map.2 t.sorted⟩

/-! ## Look-ups -/

theorem lookup_cons (e : String × α) (es : List (String × α)) (j : String) :
    (e :: es).lookup j = if j = e.1 then some e.2 else es.lookup j := by
  obtain ⟨k, v⟩ := e
  by_cases h : j = k <;> simp [List.lookup_cons, h, beq_false_of_ne]

theorem lookup_insertInto (k j : String) (v : α) :
    ∀ es : List (String × α), (insertInto k v es).lookup j = if j = k then some v else es.lookup j
  | [] => by simp [insertInto, lookup_cons]
  | e :: es => by
    unfold insertInto
    split
    · simp [lookup_cons]
    · split
      · rename_i hk
        simp only [lookup_cons, hk]
        split <;> rfl
      · rename_i hne
        simp only [lookup_cons, lookup_insertInto k j v es]
        by_cases hj : j = e.1
        · have : j ≠ k := fun hjk => hne (hjk ▸ hj)
          simp [hj, Ne.symm hne]
        · simp [hj]

@[simp] theorem find?_empty (k : String) : (∅ : Table α).find? k = none := rfl

theorem find?_insert (t : Table α) (k j : String) (v : α) :
    (t.insert k v).find? j = if j = k then some v else t.find? j :=
  lookup_insertInto k j v t.entries

theorem contains_insert (t : Table α) (k j : String) (v : α) :
    (t.insert k v).contains j = (decide (j = k) || t.contains j) := by
  rw [contains, find?_insert, contains]
  split <;> simp [*]

theorem lookup_filter_ne (k j : String) :
    ∀ es : List (String × α),
      (es.filter (·.1 ≠ k)).lookup j = if j = k then none else es.lookup j
  | [] => by simp
  | e :: es => by
    have ih := lookup_filter_ne k j es
    by_cases he : e.1 = k
    · rw [List.filter_cons_of_neg (by simp [he]), ih]
      by_cases hj : j = k <;> simp [hj, lookup_cons, he]
    · rw [List.filter_cons_of_pos (by simp [he]), lookup_cons, lookup_cons, ih]
      by_cases hj : j = e.1 <;> simp [hj, he]

theorem find?_erase (t : Table α) (k j : String) :
    (t.erase k).find? j = if j = k then none else t.find? j :=
  lookup_filter_ne k j t.entries

theorem find?_assign (t : Table α) (k j : String) (v : Option α) :
    (t.assign k v).find? j = if j = k then v else t.find? j := by
  cases v with
  | none => exact find?_erase t k j
  | some v => exact find?_insert t k j v

/-- Of assignments to names in order, each name once, the one to a name decides what it has. -/
theorem find?_foldl_assign (j : String) : ∀ {es : List (String × Option α)},
    es.Pairwise (fun a b => a.1 < b.1) → ∀ t : Table α,
      (es.foldl (fun t e => t.assign e.1 e.2) t).find? j = (es.lookup j).getD (t.find? j)
  | [], _, _ => rfl
  | e :: es, h, t => by
    have ⟨he, hes⟩ := List.pairwise_cons.1 h
    rw [List.foldl_cons, find?_foldl_assign j hes, find?_assign, lookup_cons]
    by_cases hj : j = e.1
    · -- no later assignment is to the same name
      have hnone : es.lookup j = none := by
        rw [List.lookup_eq_none_iff]
        intro d hd
        rw [bne_iff_ne, hj]
        exact String.ne_of_lt (he d hd)
      rw [hnone, if_pos hj, if_pos hj]
      rfl
    · rw [if_neg hj, if_neg hj]

theorem lookup_map (f : String → α → β) (k : String) : ∀ es : List (String × α),
    (es.map fun e => (e.1, f e.1 e.2)).lookup k = (es.lookup k).map (f k)
  | [] => rfl
  | e :: es => by
    rw [List.map_cons, lookup_cons, lookup_cons, lookup_map f k es]
    split
    · rename_i hk
      rw [hk]
      rfl
    · rfl

theorem find?_map (f : α → β) (t : Table α) (k : String) : (t.map f).find? k = (t.find? k).map f :=
  lookup_map (fun _ => f) k t.entries

theorem lookup_eq_some_of_mem {k : String} {v : α} :
    ∀ {es : List (String × α)}, es.Pairwise (fun a b => a.1 < b.1) → (k, v) ∈ es →
      es.lookup k = some v
  | e :: es, h, hm => by
    have ⟨he, hes⟩ := List.pairwise_cons.1 h
    rw [lookup_cons]
    rcases List.mem_cons.1 hm with rfl | hm
    · simp
    · have : k ≠ e.1 := fun hk => String.lt_irrefl _ (hk ▸ he _ hm)
      simpa [this] using lookup_eq_some_of_mem hes hm

theorem mem_of_lookup_eq_some {k : String} {v : α} :
    ∀ {es : List (String × α)}, es.lookup k = some v → (k, v) ∈ es
  | e :: es, h => by
    rw [lookup_cons] at h
    split at h
    · rename_i hk
      obtain rfl : e.2 = v := by simpa using h
      exact hk ▸ List.mem_cons_self
    · exact List.mem_cons_of_mem _ (mem_of_lookup_eq_some h)

theorem mem_entries_iff {t : Table α} {k : String} {v : α} :
    (k, v) ∈ t.entries ↔ t.find? k = some v :=
  ⟨lookup_eq_some_of_mem t.sorted, mem_of_lookup_eq_some⟩

theorem mem_keys_iff {t : Table α} {k : String} : k ∈ t.keys ↔ (t.find? k).isSome := by
  simp only [keys, List.mem_map, Prod.exists, mem_entries_iff, Option.isSome_iff_exists,
    exists_and_right, exists_eq_right]

theorem nodup_keys (t : Table α) : t.keys.Nodup :=
  List.pairwise_map.2 (t.sorted.imp String.ne_of_lt)

/-- Ordered lists of pairs with the same members are equal. -/
theorem entries_eq_of_mem_iff :
    ∀ {as bs : List (String × α)}, as.Pairwise (fun a b => a.1 < b.1) →
      bs.Pairwise (fun a b => a.1 < b.1) → (∀ e, e ∈ as ↔ e ∈ bs) → as = bs
  | [], [], _, _, _ => rfl
  | [], b :: bs, _, _, h => by simpa using (h b).2 List.mem_cons_self
  | a :: as, [], _, _, h => by simpa using (h a).1 List.mem_cons_self
  | a :: as, b :: bs, ha, hb, h => by
    have ⟨ha₁, ha₂⟩ := List.pairwise_cons.1 ha
    have ⟨hb₁, hb₂⟩ := List.pairwise_cons.1 hb
    have hab : a = b := by
      rcases List.mem_cons.1 ((h a).1 List.mem_cons_self) with h₁ | h₁
      · exact h₁
      · rcases List.mem_cons.1 ((h b).2 List.mem_cons_self) with h₂ | h₂
        · exact h₂.symm
        · exact absurd (hb₁ a h₁) (String.lt_asymm (ha₁ b h₂))
    subst hab
    refine congrArg _ (entries_eq_of_mem_iff ha₂ hb₂ fun e => ⟨fun he => ?_, fun he => ?_⟩)
    · rcases List.mem_cons.1 ((h e).1 (List.mem_cons_of_mem _ he)) with rfl | h₁
      · exact absurd (ha₁ e he) (String.lt_irrefl _)
      · exact h₁
    · rcases List.mem_cons.1 ((h e).2 (List.mem_cons_of_mem _ he)) with rfl | h₁
      · exact absurd (hb₁ e he) (String.lt_irrefl _)
      · exact h₁

@[ext] theorem ext {s t : Table α} (h : ∀ k, s.find? k = t.find? k) : s = t := by
  obtain ⟨es, hs⟩ := s
  obtain ⟨fs, ht⟩ := t
  have : es = fs := entries_eq_of_mem_iff hs ht fun ⟨k, v⟩ => by
    rw [mem_entries_iff (t := ⟨es, hs⟩), mem_entries_iff (t := ⟨fs, ht⟩), h k]
  subst this
  rfl

end Table

end Repartee
