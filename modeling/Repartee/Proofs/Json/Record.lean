import Mathlib.Data.List.Forall2
import Repartee.Json.Record

/-!
# Records are decoded

* `Json.Gives`: what an object gives for a field, under whatever of its names.
* `Json.Field`, `Json.Each`, `Json.Entries`: how fields, lists and tables are rendered.
* **`Json.record?_obj`**: decoding an object finds what it gives.
* `Json.GivesTwice`, **`Json.record?_givesTwice`**: an object that gives a field twice is refused.
-/

namespace Repartee

namespace Json

variable {α : Type}

/-! ## Rendering -/

/-- What an object gives for a field: nothing, or the value of the only entry with one of its
names. -/
inductive Gives (names : List String) (fields : List (String × Json)) : Option Json → Prop
  | absent : (∀ f ∈ fields, f.1 ∉ names) → Gives names fields none
  | present {before after : List (String × Json)} {name : String} {v : Json} :
    fields = before ++ (name, v) :: after → name ∈ names →
      (∀ f ∈ before, f.1 ∉ names) → (∀ f ∈ after, f.1 ∉ names) → Gives names fields (some v)

/-- A field is rendered, or it has its default and is left out. -/
def Field (names : List String) (default : α) (renders : α → Json → Prop)
    (fields : List (String × Json)) (x : α) : Prop :=
  x = default ∧ Gives names fields none ∨ ∃ v, renders x v ∧ Gives names fields (some v)

/-- A list is rendered item by item. -/
def Each (renders : α → Json → Prop) (xs : List α) (j : Json) : Prop :=
  ∃ js, j = array js ∧ List.Forall₂ renders xs js

/-- A table is rendered by entries in any order; of those with the same name the last one
counts. -/
def Entries (encode : α → Json) (t : Table α) (j : Json) : Prop :=
  ∃ es : List (String × α), j = obj (es.map fun e => (e.1, encode e.2)) ∧
    ∀ name, t.find? name = es.reverse.lookup name

/-! ## Decoding -/

/-- A field is found that an object gives. -/
theorem unique?_of_gives {names : List String} {fields : List (String × Json)} {v : Option Json}
    (h : Gives names fields v) : unique? names fields = some v := by
  have hdrop {fs : List (String × Json)} (hfs : ∀ f ∈ fs, f.1 ∉ names) :
      fs.filter (fun f => names.contains f.1) = [] :=
    List.filter_eq_nil_iff.2 fun f hf => by simpa using hfs f hf
  cases h with
  | absent h => rw [unique?, hdrop h]
  | present hfields hname hbefore hafter =>
    rw [unique?, hfields, List.filter_append, List.filter_cons_of_pos (by simpa using hname),
      hdrop hbefore, hdrop hafter]
    rfl

/-- Decoding an object looks up its fields. -/
theorem record?_obj (names : List (List String)) (fields : List (String × Json)) :
    (obj fields).record? names = names.mapM fun ns => unique? ns fields := by
  have hkeys : (fields.map fun f => (some f.1, f.2)).mapM
      (fun f : Option String × Json => f.1.map fun k => (k, f.2)) = some fields := by
    induction fields with
    | nil => rfl
    | cons f fs ih => simp [ih]
  rw [obj, record?, hkeys]
  rfl

/-- A field that is rendered, or left out, is decoded. -/
theorem Field.decode {names : List String} {default x : α} {renders : α → Json → Prop}
    {fields : List (String × Json)} (h : Field names default renders fields x)
    {decode : Json → Option α} (hdecode : ∀ x v, renders x v → decode v = some x) :
    ∃ v, unique? names fields = some v ∧ field? decode default v = some x := by
  rcases h with ⟨rfl, h⟩ | ⟨v, hv, h⟩
  · exact ⟨none, unique?_of_gives h, rfl⟩
  · exact ⟨some v, unique?_of_gives h, hdecode x v hv⟩

theorem list?_each {renders : α → Json → Prop} {decode : Json → Option α}
    (hdecode : ∀ x v, renders x v → decode v = some x) (xs : List α) (j : Json)
    (h : Each renders xs j) : list? decode j = some xs := by
  obtain ⟨js, rfl, h⟩ := h
  rw [list?]
  induction h with
  | nil => rfl
  | cons hv _ ih => simp [hdecode _ _ hv, ih]

end Json

namespace Table

variable {α : Type}

/-- Of pairs with the same name the last one counts. -/
theorem find?_ofList (es : List (String × α)) (name : String) :
    (ofList es).find? name = es.reverse.lookup name := by
  have hfold : ∀ (es : List (String × α)) (t : Table α),
      (es.foldl (fun t e => t.insert e.1 e.2) t).find? name =
        (es.reverse.lookup name).or (t.find? name) := by
    intro es
    induction es with
    | nil => exact fun _ => rfl
    | cons e es ih =>
      intro t
      rw [List.foldl_cons, ih, find?_insert, List.reverse_cons, List.lookup_append, Option.or_assoc,
        lookup_cons]
      split <;> rfl
  rw [ofList, hfold, find?_empty, Option.or_none]

/-- In entries in the order of their names it does not matter whether the first or the last one
counts. -/
theorem lookup_reverse (name : String) : ∀ {es : List (String × α)},
    es.Pairwise (fun a b => a.1 < b.1) → es.reverse.lookup name = es.lookup name
  | [], _ => rfl
  | e :: es, h => by
    have ⟨he, hes⟩ := List.pairwise_cons.1 h
    rw [List.reverse_cons, List.lookup_append, lookup_reverse name hes, lookup_cons, lookup_cons]
    by_cases hname : name = e.1
    · have hnone : es.lookup name = none := by
        rw [List.lookup_eq_none_iff]
        intro d hd
        rw [bne_iff_ne, hname]
        exact String.ne_of_lt (he d hd)
      rw [hnone, if_pos hname, if_pos hname, Option.none_or]
    · rw [if_neg hname, if_neg hname]
      exact Option.or_none

end Table

namespace Json

variable {α : Type}

theorem table?_entries {encode : α → Json} {decode : Json → Option α}
    (hdecode : ∀ x, decode (encode x) = some x) (t : Table α) (j : Json) (h : Entries encode t j) :
    table? decode j = some t := by
  obtain ⟨es, rfl, h⟩ := h
  have hentries : ((es.map fun e => (e.1, encode e.2)).map fun f => (some f.1, f.2)).mapM
      (fun f : Option String × Json => do pure ((← f.1), (← decode f.2))) = some es := by
    clear h
    induction es with
    | nil => rfl
    | cons e es ih =>
      rw [List.map_cons, List.map_cons, List.mapM_cons, ih]
      simp [hdecode]
  rw [obj, table?, hentries]
  exact congrArg some (Table.ext fun name => (Table.find?_ofList es name).trans (h name).symm)

/-! ## Refusing -/

theorem mapM_eq_none {α β : Type} {f : α → Option β} {x : α} {xs : List α} (hx : x ∈ xs)
    (h : f x = none) : xs.mapM f = none := by
  induction xs with
  | nil => cases hx
  | cons y xs ih =>
    rw [List.mapM_cons]
    rcases List.mem_cons.1 hx with rfl | hx
    · rw [h]
      rfl
    · rw [ih hx]
      cases f y <;> rfl

/-- An object gives a field twice, under whatever of its names. -/
def GivesTwice (names : List (List String)) (j : Json) : Prop :=
  ∃ (before between after : List (Option String × Json)) (k l : String) (v w : Json),
    j = object (before ++ (some k, v) :: (between ++ (some l, w) :: after)) ∧
      ∃ ns ∈ names, k ∈ ns ∧ l ∈ ns

/-- An object that gives a field twice is refused. -/
theorem record?_givesTwice {names : List (List String)} {j : Json} (h : GivesTwice names j) :
    j.record? names = none := by
  obtain ⟨before, between, after, k, l, v, w, rfl, ns, hns, hk, hl⟩ := h
  rw [record?]
  cases hfields : (before ++ (some k, v) :: (between ++ (some l, w) :: after)).mapM
    (fun f => f.1.map fun k => (k, f.2)) with
  | none => rfl
  | some fields =>
    obtain ⟨bs, ms, as, rfl⟩ : ∃ bs ms as, fields = bs ++ (k, v) :: (ms ++ (l, w) :: as) := by
      simp only [List.mapM_append, List.mapM_cons, Option.map_some, Option.bind_eq_bind,
        Option.bind_some, Option.pure_def, Option.bind_eq_some_iff, Option.some.injEq] at hfields
      obtain ⟨bs, -, _, ⟨_, ⟨ms, -, _, ⟨as, -, rfl⟩, rfl⟩, rfl⟩, rfl⟩ := hfields
      exact ⟨bs, ms, as, rfl⟩
    refine mapM_eq_none hns ?_
    rw [unique?, List.filter_append, List.filter_cons_of_pos (by simpa using hk),
      List.filter_append, List.filter_cons_of_pos (by simpa using hl)]
    -- there are at least two entries left
    split
    · rename_i hnone
      simp at hnone
    · rename_i hone
      have hlength := congrArg List.length hone
      simp only [List.length_append, List.length_cons, List.length_nil] at hlength
      omega
    · rfl

theorem forall₂_of_mapM {α β : Type} {f : α → Option β} : ∀ {xs : List α} {ys : List β},
    xs.mapM f = some ys → List.Forall₂ (fun x y => f x = some y) xs ys
  | [], _, h => by
    cases h
    exact .nil
  | x :: xs, _, h => by
    simp only [List.mapM_cons, Option.bind_eq_bind, Option.bind_eq_some_iff, Option.pure_def,
      Option.some.injEq] at h
    obtain ⟨y, hy, ys, hys, rfl⟩ := h
    exact .cons hy (forall₂_of_mapM hys)

/-- What is found for a field of an object is what the object gives for it. -/
theorem record?_forall₂ {names : List (List String)} {fields : List (Option String × Json)}
    {vs : List (Option Json)} (h : (object fields).record? names = some vs) {k : String} {v : Json}
    (hv : (some k, v) ∈ fields) : List.Forall₂ (fun ns o => k ∈ ns → o = some v) names vs := by
  obtain ⟨before, after, rfl⟩ := List.mem_iff_append.1 hv
  simp only [record?, List.mapM_append, List.mapM_cons, Option.map_some, Option.bind_eq_bind,
    Option.bind_some, Option.pure_def, Option.bind_eq_some_iff, Option.some.injEq] at h
  obtain ⟨_, ⟨bs, -, _, ⟨as, -, rfl⟩, rfl⟩, h⟩ := h
  refine (forall₂_of_mapM h).imp fun ns o ho hk => ?_
  rw [unique?, List.filter_append, List.filter_cons_of_pos (by simpa using hk)] at ho
  split at ho
  · rename_i hnone
    simp at hnone
  · rename_i f hone
    have hmem : (k, v) ∈ [f] := hone ▸ List.mem_append_right _ List.mem_cons_self
    rw [← Option.some_inj.1 ho, ← List.mem_singleton.1 hmem]
  · cases ho

theorem list?_eq_none {decode : Json → Option α} {vs : List Json} {v : Json} (hv : v ∈ vs)
    (h : decode v = none) : list? decode (array vs) = none :=
  mapM_eq_none hv h

end Json

end Repartee
