import Repartee.Document.Builder
import Repartee.Script.Load

/-!
# Topics grow

Definitions of a topic are merged in the order in which they come. Nothing that is there is moved or
taken away, so that it does not matter whether definitions are merged with each other first.

* `Topic.merge_assoc`: merging is associative.
* `Topic.extend`: a topic, if there is one, with another definition of it.
* **`Topics.find?_addTopics`**: a topic is made of the definitions with its name.
* `Topics.Extends`, `Topics.extends_addTopics`: identifiers keep their triggers.
* **`Topics.addTopics_building`**: definitions may be merged with each other first.
-/

namespace Repartee

/-! ## Ordered sets -/

theorem appendAllNew_append (xs ys zs : List String) :
    appendAllNew xs (ys ++ zs) = appendAllNew (appendAllNew xs ys) zs :=
  List.foldl_append

theorem mem_appendNew {xs : List String} {x y : String} :
    y ∈ appendNew xs x ↔ y ∈ xs ∨ y = x := by
  rw [appendNew]
  split
  · rename_i hx
    exact ⟨.inl, fun h => h.elim id fun h => h ▸ hx⟩
  · rw [List.mem_append, List.mem_singleton]

theorem mem_appendAllNew {ys : List String} {y : String} : ∀ {xs : List String},
    y ∈ appendAllNew xs ys ↔ y ∈ xs ∨ y ∈ ys := by
  induction ys with
  | nil => simp [appendAllNew]
  | cons z ys ih =>
    intro xs
    rw [appendAllNew, List.foldl_cons, ← appendAllNew, ih, mem_appendNew, List.mem_cons, or_assoc]

/-- The new ones among values that are new to each other are appended one by one. -/
theorem appendAllNew_appendNew (xs ys : List String) (y : String) :
    appendAllNew xs (appendNew ys y) = appendNew (appendAllNew xs ys) y := by
  rw [appendNew]
  split
  · rename_i hy
    rw [appendNew, if_pos (mem_appendAllNew.2 (.inr hy))]
  · exact appendAllNew_append xs ys [y]

theorem appendAllNew_assoc (xs zs : List String) : ∀ ys : List String,
    appendAllNew (appendAllNew xs ys) zs = appendAllNew xs (appendAllNew ys zs) := by
  induction zs with
  | nil => exact fun ys => rfl
  | cons z zs ih =>
    intro ys
    have hnew (ws : List String) : appendAllNew ws (z :: zs) = appendAllNew (appendNew ws z) zs :=
      rfl
    rw [hnew, hnew, ← ih, appendAllNew_appendNew]

/-! ## Definitions of one topic -/

namespace Topic

theorem merge_assoc (t u v : Topic) : (t.merge u).merge v = t.merge (u.merge v) := by
  simp only [merge, appendAllNew_assoc, List.append_assoc]

@[simp] theorem name_merge (t u : Topic) : (t.merge u).name = t.name := rfl

/-- A topic, if there is one, with another definition of it. -/
def extend (t : Option Topic) (u : Topic) : Topic := (t.map (·.merge u)).getD u

/-- A topic, if there is one, with more definitions of it in order. -/
def extendAll (t : Option Topic) (us : List Topic) : Option Topic :=
  us.foldl (fun t u => some (extend t u)) t

/-- The triggers of the definitions stand one after another. -/
theorem triggers_extendAll : ∀ (us : List Topic) (t : Option Topic),
    ((extendAll t us).map (·.triggers)).getD [] =
      (t.map (·.triggers)).getD [] ++ us.flatMap (·.triggers)
  | [], t => (List.append_nil _).symm
  | u :: us, t => by
    have hextend : (extend t u).triggers = (t.map (·.triggers)).getD [] ++ u.triggers := by
      cases t <;> rfl
    rw [extendAll, List.foldl_cons, ← extendAll, triggers_extendAll us, Option.map_some,
      Option.getD_some, hextend, List.flatMap_cons, List.append_assoc]

/-- Definitions may be merged with each other before they are merged into a topic. -/
theorem extendAll_toList (t : Option Topic) : ∀ us : List Topic,
    extendAll t (extendAll none us).toList = extendAll t us := by
  have hmerge : ∀ (us : List Topic) (u : Topic),
      extendAll t (extendAll (some u) us).toList = extendAll t (u :: us) := by
    intro us
    induction us with
    | nil => exact fun _ => rfl
    | cons v us ih =>
      intro u
      have hextend : extend (some (extend t u)) v = extend t (u.merge v) := by
        cases t with
        | none => rfl
        | some t => exact merge_assoc t u v
      change extendAll t (extendAll (some (u.merge v)) us).toList =
        extendAll (some (extend (some (extend t u)) v)) us
      rw [ih, hextend]
      rfl
  intro us
  cases us with
  | nil => rfl
  | cons u us => exact hmerge us u

end Topic

namespace Topics

/-! ## Look-ups -/

theorem find?_addTopic (ts : Topics) (u : Topic) (name : String) :
    (Script.addTopic ts u).find? name =
      if name = u.name then some (Topic.extend (ts.find? name) u) else ts.find? name := by
  have hadd : Script.addTopic ts u = ts.insert u.name (Topic.extend (ts.find? u.name) u) := by
    rw [Script.addTopic]
    cases ts.find? u.name <;> rfl
  rw [hadd, Table.find?_insert]
  split
  · rename_i hname
    rw [hname]
  · rfl

/-- The definitions of a name. -/
def named (us : List Topic) (name : String) : List Topic := us.filter (·.name = name)

section

variable {u : Topic} {name : String}

theorem named_cons_of_eq (h : u.name = name) (us : List Topic) :
    named (u :: us) name = u :: named us name :=
  List.filter_cons_of_pos (decide_eq_true h)

theorem named_cons_of_ne (h : u.name ≠ name) (us : List Topic) :
    named (u :: us) name = named us name :=
  List.filter_cons_of_neg (by simpa using h)

end

/-- **A topic is made of the definitions with its name, merged in order.** -/
theorem find?_addTopics (name : String) : ∀ (us : List Topic) (ts : Topics),
    (Script.addTopics ts us).find? name = Topic.extendAll (ts.find? name) (named us name)
  | [], _ => rfl
  | u :: us, ts => by
    rw [Script.addTopics, List.foldl_cons, ← Script.addTopics, find?_addTopics name us,
      find?_addTopic]
    by_cases hname : u.name = name
    · rw [if_pos hname.symm, named_cons_of_eq hname]
      rfl
    · rw [if_neg (Ne.symm hname), named_cons_of_ne hname]

theorem addTopics_append (ts : Topics) (us vs : List Topic) :
    Script.addTopics ts (us ++ vs) = Script.addTopics (Script.addTopics ts us) vs :=
  List.foldl_append

/-! ## Identifiers -/

/-- Every identifier that has a trigger in the first topics has it in the second ones. -/
def Extends (ts ts' : Topics) : Prop := ∀ id g, ts.trigger? id = some g → ts'.trigger? id = some g

theorem Extends.refl (ts : Topics) : ts.Extends ts := fun _ _ => id

theorem Extends.trans {ts ts' ts'' : Topics} (h : ts.Extends ts') (h' : ts'.Extends ts'') :
    ts.Extends ts'' :=
  fun id g hg => h' id g (h id g hg)

theorem extends_addTopic (ts : Topics) (u : Topic) : ts.Extends (Script.addTopic ts u) := by
  intro id g hg
  obtain ⟨t, ht, hg⟩ := Option.bind_eq_some_iff.1 hg
  rw [trigger?, find?_addTopic, ht]
  split
  · change (t.triggers ++ u.triggers)[id.index]? = some g
    rw [List.getElem?_append_left (List.getElem?_eq_some_iff.1 hg).1, hg]
  · exact hg

/-- Identifiers keep their triggers when topics are added. -/
theorem extends_addTopics : ∀ (us : List Topic) (ts : Topics), ts.Extends (Script.addTopics ts us)
  | [], ts => .refl ts
  | u :: us, ts => (extends_addTopic ts u).trans (extends_addTopics us _)

end Topics

/-! ## Documents put together -/

namespace Document

/-- The document that lists some definitions. -/
def listing (us : List Topic) : Document := { topics := us }

/-- The document to which some definitions are added one after another. -/
def building (us : List Topic) : Document := us.foldl withTopic {}

theorem building_eq (us : List Topic) :
    building us = { topics := us.foldl (fun ts u => mergeTopic u ts) [] } := by
  have hfold : ∀ (us : List Topic) (d : Document), us.foldl withTopic d =
      { d with topics := us.foldl (fun ts u => mergeTopic u ts) d.topics } := by
    intro us
    induction us with
    | nil => exact fun _ => rfl
    | cons u us ih => exact fun d => ih (d.withTopic u)
  exact hfold us {}

end Document

namespace Topics

/-- The definitions of a name after another definition is added, if there was at most one. -/
theorem named_mergeTopic (u : Topic) (name : String) : ∀ {ts : List Topic} {t : Option Topic},
    named ts name = t.toList → named (Document.mergeTopic u ts) name =
      (if name = u.name then some (Topic.extend t u) else t).toList
  | [], none, _ => by
    rw [Document.mergeTopic]
    by_cases hname : u.name = name
    · rw [if_pos hname.symm, named_cons_of_eq hname]
      rfl
    · rw [if_neg (Ne.symm hname), named_cons_of_ne hname]
      rfl
  | t' :: ts, t, h => by
    rw [Document.mergeTopic]
    by_cases hname : t'.name = name
    · rw [named_cons_of_eq hname] at h
      obtain ⟨rfl, hts⟩ : t = some t' ∧ named ts name = [] := by
        cases t with
        | none => cases h
        | some t => exact ⟨congrArg some (List.cons_eq_cons.1 h).1.symm, (List.cons_eq_cons.1 h).2⟩
      by_cases hmerge : t'.name = u.name
      · -- the definition that is there is the only one
        have hmerged : (t'.merge u).name = name := hname
        rw [if_pos hmerge, if_pos (hname.symm.trans hmerge), named_cons_of_eq hmerged, hts]
        rfl
      · have hne : ¬name = u.name := fun h => hmerge (hname.trans h)
        rw [if_neg hmerge, if_neg hne, named_cons_of_eq hname,
          named_mergeTopic u name (t := none) hts, if_neg hne]
        rfl
    · rw [named_cons_of_ne hname] at h
      by_cases hmerge : t'.name = u.name
      · have hmerged : (t'.merge u).name ≠ name := hname
        rw [if_pos hmerge, if_neg fun h => hname (hmerge.trans h.symm), ← h,
          named_cons_of_ne hmerged]
      · rw [if_neg hmerge, named_cons_of_ne hname]
        exact named_mergeTopic u name h

/-- A document that is put together has one definition of each name, made of those that were
added. -/
theorem named_building (name : String) (us : List Topic) :
    named (Document.building us).topics name = (Topic.extendAll none (named us name)).toList := by
  rw [Document.building_eq]
  have hfold : ∀ (us ts : List Topic) (t : Option Topic), named ts name = t.toList →
      named (us.foldl (fun ts u => Document.mergeTopic u ts) ts) name =
        (Topic.extendAll t (named us name)).toList := by
    intro us
    induction us with
    | nil => exact fun _ _ h => h
    | cons u us ih =>
      intro ts t h
      rw [List.foldl_cons, ih _ _ (named_mergeTopic u name h)]
      by_cases hname : u.name = name
      · rw [if_pos hname.symm, named_cons_of_eq hname]
        rfl
      · rw [if_neg (Ne.symm hname), named_cons_of_ne hname]
  exact hfold us [] none rfl

/-- **It does not matter whether definitions are merged with each other first.** -/
theorem addTopics_building (ts : Topics) (us : List Topic) :
    Script.addTopics ts (Document.building us).topics = Script.addTopics ts us := by
  refine Table.ext fun name => ?_
  rw [find?_addTopics, find?_addTopics, named_building, Topic.extendAll_toList]

end Topics

end Repartee
