import Repartee.Document.Json
import Repartee.Proofs.Json.Printing
import Repartee.Proofs.Json.Reading
import Repartee.Proofs.Json.Record

/-!
# Documents are read as they are written

A document may be rendered with the fields of each object in any order, under any of their names,
with default values left out and unknown fields put in, and the value so made may be written in any
way that the grammar allows.

* `Trigger.Renders`, `Topic.Renders`, `Begin.Renders`, `ObjectMacro.Renders`, `Document.Renders`:
  how records are rendered.
* `Trigger.Twice`, `Topic.Twice`, `Document.Twice`: some object gives a field twice.
* `Document.renders_toJson`: the record of a document renders it.
* **`Document.read?_rendered`**: a document is read from every text that renders it; a text in which
  a field is given twice is refused, and so is one with more than blanks behind the value.
-/

namespace Repartee

open Json

/-! ## Rendering -/

/-- The names of the fields of a trigger. -/
def Trigger.fieldNames : List (List String) :=
  [["pattern", "trigger"], ["replies", "reply"], ["conditions", "condition"], ["redirect"],
    ["previous"]]

/-- An object renders a trigger. -/
def Trigger.Renders (g : Trigger) (j : Json) : Prop :=
  ∃ fields, j = obj fields ∧
    Field ["pattern", "trigger"] "" (fun s j => j = text s) fields g.pattern ∧
    Field ["replies", "reply"] [] (fun ss j => j = texts ss) fields g.replies ∧
    Field ["conditions", "condition"] [] (fun ss j => j = texts ss) fields g.conditions ∧
    Field ["redirect"] none (fun s j => j = optionalText s) fields g.redirect ∧
    Field ["previous"] none (fun s j => j = optionalText s) fields g.previous

/-- The names of the fields of a topic. -/
def Topic.fieldNames : List (List String) := [["name"], ["includes"], ["inherits"], ["triggers"]]

/-- An object renders a topic. -/
def Topic.Renders (t : Topic) (j : Json) : Prop :=
  ∃ fields, j = obj fields ∧
    Field ["name"] "" (fun s j => j = text s) fields t.name ∧
    Field ["includes"] [] (fun ss j => j = texts ss) fields t.includes ∧
    Field ["inherits"] [] (fun ss j => j = texts ss) fields t.inherits ∧
    Field ["triggers"] [] (Each Trigger.Renders) fields t.triggers

/-- The names of the fields of a begin block. -/
def Begin.fieldNames : List (List String) := [["global"], ["var"], ["sub"], ["person"], ["array"]]

/-- An object renders a begin block. -/
def Begin.Renders (b : Begin) (j : Json) : Prop :=
  ∃ fields, j = obj fields ∧
    Field ["global"] ∅ (Entries text) fields b.global ∧
    Field ["var"] ∅ (Entries text) fields b.var ∧
    Field ["sub"] ∅ (Entries text) fields b.sub ∧
    Field ["person"] ∅ (Entries text) fields b.person ∧
    Field ["array"] ∅ (Entries texts) fields b.array

/-- The names of the fields of a macro. -/
def ObjectMacro.fieldNames : List (List String) := [["name"], ["language"], ["code"]]

/-- An object renders a macro; the name and the language can not be left out. -/
def ObjectMacro.Renders (o : ObjectMacro) (j : Json) : Prop :=
  ∃ fields, j = obj fields ∧
    Gives ["name"] fields (some (text o.name)) ∧
    Gives ["language"] fields (some (text o.language)) ∧
    Field ["code"] "" (fun s j => j = text s) fields o.code

/-- The names of the fields of a document. -/
def Document.fieldNames : List (List String) := [["begin"], ["topics"], ["objects"]]

/-- An object renders a document. -/
def Document.Renders (d : Document) (j : Json) : Prop :=
  ∃ fields, j = obj fields ∧
    Field ["begin"] {} Begin.Renders fields d.begin ∧
    Field ["topics"] [] (Each Topic.Renders) fields d.topics ∧
    Field ["objects"] [] (Each ObjectMacro.Renders) fields d.objects

/-! ## Decoding -/

theorem Json.string?_text (s : String) (j : Json) (h : j = text s) : j.string? = some s := by
  rw [h]
  rfl

theorem Json.list?_texts (ss : List String) (j : Json) (h : j = texts ss) :
    list? string? j = some ss := by
  refine list?_each Json.string?_text ss j ⟨_, h, ?_⟩
  rw [List.forall₂_map_right_iff]
  exact List.forall₂_same.2 fun _ _ => rfl

theorem Json.nullable?_optionalText (s : Option String) (j : Json) (h : j = optionalText s) :
    nullable? string? j = some s := by
  rw [h]
  cases s <;> rfl

theorem Trigger.ofJson?_renders (g : Trigger) (j : Json) (h : g.Renders j) :
    Trigger.ofJson? j = some g := by
  obtain ⟨fields, rfl, hpattern, hreplies, hconditions, hredirect, hprevious⟩ := h
  obtain ⟨_, hpattern, hp⟩ := hpattern.decode Json.string?_text
  obtain ⟨_, hreplies, hr⟩ := hreplies.decode Json.list?_texts
  obtain ⟨_, hconditions, hc⟩ := hconditions.decode Json.list?_texts
  obtain ⟨_, hredirect, ht⟩ := hredirect.decode Json.nullable?_optionalText
  obtain ⟨_, hprevious, hb⟩ := hprevious.decode Json.nullable?_optionalText
  simp [Trigger.ofJson?, record?_obj, *]

theorem Topic.ofJson?_renders (t : Topic) (j : Json) (h : t.Renders j) :
    Topic.ofJson? j = some t := by
  obtain ⟨fields, rfl, hname, hincludes, hinherits, htriggers⟩ := h
  obtain ⟨_, hname, hn⟩ := hname.decode Json.string?_text
  obtain ⟨_, hincludes, hc⟩ := hincludes.decode Json.list?_texts
  obtain ⟨_, hinherits, hh⟩ := hinherits.decode Json.list?_texts
  obtain ⟨_, htriggers, ht⟩ := htriggers.decode (list?_each Trigger.ofJson?_renders)
  simp [Topic.ofJson?, record?_obj, *]

theorem Begin.ofJson?_renders (b : Begin) (j : Json) (h : b.Renders j) :
    Begin.ofJson? j = some b := by
  have htexts := table?_entries fun s => Json.string?_text s _ rfl
  have hlists := table?_entries fun ss => Json.list?_texts ss _ rfl
  obtain ⟨fields, rfl, hglobal, hvar, hsub, hperson, harray⟩ := h
  obtain ⟨_, hglobal, hg⟩ := hglobal.decode htexts
  obtain ⟨_, hvar, hv⟩ := hvar.decode htexts
  obtain ⟨_, hsub, hs⟩ := hsub.decode htexts
  obtain ⟨_, hperson, hp⟩ := hperson.decode htexts
  obtain ⟨_, harray, ha⟩ := harray.decode hlists
  simp [Begin.ofJson?, record?_obj, *]

theorem ObjectMacro.ofJson?_renders (o : ObjectMacro) (j : Json) (h : o.Renders j) :
    ObjectMacro.ofJson? j = some o := by
  obtain ⟨fields, rfl, hname, hlanguage, hcode⟩ := h
  obtain ⟨_, hcode, hc⟩ := hcode.decode Json.string?_text
  simp [ObjectMacro.ofJson?, record?_obj, unique?_of_gives hname, unique?_of_gives hlanguage, hcode,
    hc, Json.string?_text o.name _ rfl, Json.string?_text o.language _ rfl]

theorem Document.ofJson?_renders (d : Document) (j : Json) (h : d.Renders j) :
    Document.ofJson? j = some d := by
  obtain ⟨fields, rfl, hbegin, htopics, hobjects⟩ := h
  obtain ⟨_, hbegin, hb⟩ := hbegin.decode Begin.ofJson?_renders
  obtain ⟨_, htopics, ht⟩ := htopics.decode (list?_each Topic.ofJson?_renders)
  obtain ⟨_, hobjects, ho⟩ := hobjects.decode (list?_each ObjectMacro.ofJson?_renders)
  simp [Document.ofJson?, record?_obj, *]

/-! ## The record of a document -/

/-- An object with a field of its own for each name gives what it lists. -/
theorem Json.gives_of_mem {names : List String} {fields : List (String × Json)} {name : String}
    {v : Json} (hname : name ∈ names) (hv : (name, v) ∈ fields)
    (h : fields.Pairwise fun f g => ¬(f.1 ∈ names ∧ g.1 ∈ names)) :
    Gives names fields (some v) := by
  obtain ⟨before, after, rfl⟩ := List.mem_iff_append.1 hv
  obtain ⟨-, hafter, hbefore⟩ := List.pairwise_append.1 h
  refine .present rfl hname (fun f hf hn => ?_) fun f hf hn => ?_
  · exact hbefore f hf _ List.mem_cons_self ⟨hn, hname⟩
  · exact (List.pairwise_cons.1 hafter).1 f hf ⟨hname, hn⟩

theorem Json.entries_ofTable {α : Type} (encode : α → Json) (t : Table α) :
    Entries encode t (ofTable encode t) :=
  ⟨t.entries, rfl, fun name => (Table.lookup_reverse name t.sorted).symm⟩

theorem Trigger.renders_toJson (g : Trigger) : g.Renders g.toJson := by
  refine ⟨_, rfl, .inr ⟨_, rfl, ?_⟩, .inr ⟨_, rfl, ?_⟩, .inr ⟨_, rfl, ?_⟩, .inr ⟨_, rfl, ?_⟩,
    .inr ⟨_, rfl, ?_⟩⟩
  all_goals exact Json.gives_of_mem List.mem_cons_self (by simp) (by simp)

/-- A list is rendered by what renders its items. -/
theorem Json.each_map {α : Type} {renders : α → Json → Prop} {encode : α → Json}
    (h : ∀ x, renders x (encode x)) (xs : List α) : Each renders xs (.array (xs.map encode)) := by
  refine ⟨_, rfl, ?_⟩
  rw [List.forall₂_map_right_iff]
  exact List.forall₂_same.2 fun x _ => h x

theorem Topic.renders_toJson (t : Topic) : t.Renders t.toJson := by
  have htriggers := Json.each_map Trigger.renders_toJson t.triggers
  refine ⟨_, rfl, .inr ⟨_, rfl, ?_⟩, .inr ⟨_, rfl, ?_⟩, .inr ⟨_, rfl, ?_⟩, .inr ⟨_, htriggers, ?_⟩⟩
  all_goals exact Json.gives_of_mem List.mem_cons_self (by simp) (by simp)

theorem Begin.renders_toJson (b : Begin) : b.Renders b.toJson := by
  refine ⟨_, rfl, .inr ⟨_, Json.entries_ofTable text b.global, ?_⟩,
    .inr ⟨_, Json.entries_ofTable text b.var, ?_⟩, .inr ⟨_, Json.entries_ofTable text b.sub, ?_⟩,
    .inr ⟨_, Json.entries_ofTable text b.person, ?_⟩,
    .inr ⟨_, Json.entries_ofTable texts b.array, ?_⟩⟩
  all_goals exact Json.gives_of_mem List.mem_cons_self (by simp) (by simp)

theorem ObjectMacro.renders_toJson (o : ObjectMacro) : o.Renders o.toJson := by
  refine ⟨_, rfl, ?_, ?_, .inr ⟨_, rfl, ?_⟩⟩
  all_goals exact Json.gives_of_mem List.mem_cons_self (by simp) (by simp)

/-- The record of a document renders it. -/
theorem Document.renders_toJson (d : Document) : d.Renders d.toJson := by
  have htopics := Json.each_map Topic.renders_toJson d.topics
  have hobjects := Json.each_map ObjectMacro.renders_toJson d.objects
  refine ⟨_, rfl, .inr ⟨_, d.begin.renders_toJson, ?_⟩, .inr ⟨_, htopics, ?_⟩,
    .inr ⟨_, hobjects, ?_⟩⟩
  all_goals exact Json.gives_of_mem List.mem_cons_self (by simp) (by simp)

/-- An array of records is printed. -/
theorem Json.prints_map {α : Type} {encode : α → Json} (h : ∀ x, (encode x).Prints) (xs : List α) :
    (array (xs.map encode)).Prints := by
  refine prints_array fun v hv => ?_
  obtain ⟨x, -, rfl⟩ := List.mem_map.1 hv
  exact h x

theorem Trigger.prints_toJson (g : Trigger) : g.toJson.Prints :=
  prints_obj (by simp [prints_text, prints_texts, prints_optionalText])

theorem Topic.prints_toJson (t : Topic) : t.toJson.Prints :=
  prints_obj (by simp [prints_text, prints_texts, Json.prints_map Trigger.prints_toJson])

theorem Begin.prints_toJson (b : Begin) : b.toJson.Prints :=
  prints_obj (by simp [prints_ofTable prints_text, prints_ofTable prints_texts])

theorem ObjectMacro.prints_toJson (o : ObjectMacro) : o.toJson.Prints :=
  prints_obj (by simp [prints_text])

theorem Document.prints_toJson (d : Document) : d.toJson.Prints :=
  prints_obj (by simp [Begin.prints_toJson, Json.prints_map Topic.prints_toJson,
    Json.prints_map ObjectMacro.prints_toJson])

/-! ## Fields given twice -/

/-- An object gives a field of a trigger twice. -/
def Trigger.Twice : Json → Prop := GivesTwice Trigger.fieldNames

/-- An object gives a field of a begin block twice. -/
def Begin.Twice : Json → Prop := GivesTwice Begin.fieldNames

/-- An object gives a field of a macro twice. -/
def ObjectMacro.Twice : Json → Prop := GivesTwice ObjectMacro.fieldNames

/-- An object has a field whose value has a property. -/
def Json.Holds (name : String) (P : Json → Prop) (j : Json) : Prop :=
  ∃ fields v, j = object fields ∧ (some name, v) ∈ fields ∧ P v

/-- An array has an item with a property. -/
def Json.HasItem (P : Json → Prop) (j : Json) : Prop := ∃ vs v, j = array vs ∧ v ∈ vs ∧ P v

/-- An object gives a field of a topic twice, or one of its triggers does. -/
def Topic.Twice (j : Json) : Prop :=
  GivesTwice Topic.fieldNames j ∨ j.Holds "triggers" (HasItem Trigger.Twice)

/-- An object gives a field of a document twice, or its begin block does, or one of its topics or
macros. -/
def Document.Twice (j : Json) : Prop :=
  GivesTwice Document.fieldNames j ∨ j.Holds "begin" Begin.Twice ∨
    j.Holds "topics" (HasItem Topic.Twice) ∨ j.Holds "objects" (HasItem ObjectMacro.Twice)

/-- What refuses the items of an array refuses the array. -/
theorem Json.list?_hasItem {α : Type} {decode : Json → Option α} {P : Json → Prop}
    (h : ∀ v, P v → decode v = none) (j : Json) (hj : j.HasItem P) : list? decode j = none := by
  obtain ⟨vs, v, rfl, hv, hP⟩ := hj
  exact list?_eq_none hv (h v hP)

theorem Trigger.ofJson?_twice (j : Json) (h : Trigger.Twice j) : Trigger.ofJson? j = none := by
  have hrecord : j.record? Trigger.fieldNames = none := record?_givesTwice h
  rw [Trigger.fieldNames] at hrecord
  rw [Trigger.ofJson?, hrecord]
  rfl

theorem Begin.ofJson?_twice (j : Json) (h : Begin.Twice j) : Begin.ofJson? j = none := by
  have hrecord : j.record? Begin.fieldNames = none := record?_givesTwice h
  rw [Begin.fieldNames] at hrecord
  rw [Begin.ofJson?, hrecord]
  rfl

theorem ObjectMacro.ofJson?_twice (j : Json) (h : ObjectMacro.Twice j) :
    ObjectMacro.ofJson? j = none := by
  have hrecord : j.record? ObjectMacro.fieldNames = none := record?_givesTwice h
  rw [ObjectMacro.fieldNames] at hrecord
  rw [ObjectMacro.ofJson?, hrecord]
  rfl

theorem Topic.ofJson?_twice (j : Json) (h : Topic.Twice j) : Topic.ofJson? j = none := by
  cases hrecord : j.record? Topic.fieldNames with
  | none =>
    rw [Topic.fieldNames] at hrecord
    rw [Topic.ofJson?, hrecord]
    rfl
  | some vs =>
    rcases h with h | ⟨fields, v, rfl, hv, h⟩
    · rw [record?_givesTwice h] at hrecord
      cases hrecord
    · have hnone := Json.list?_hasItem Trigger.ofJson?_twice v h
      obtain _ | ⟨-, _ | ⟨-, _ | ⟨-, _ | ⟨htriggers, _ | _⟩⟩⟩⟩ := record?_forall₂ hrecord hv
      obtain rfl := htriggers List.mem_cons_self
      rw [Topic.fieldNames] at hrecord
      simp [Topic.ofJson?, hrecord, field?, hnone]

theorem Document.ofJson?_twice (j : Json) (h : Document.Twice j) : Document.ofJson? j = none := by
  cases hrecord : j.record? Document.fieldNames with
  | none =>
    rw [Document.fieldNames] at hrecord
    rw [Document.ofJson?, hrecord]
    rfl
  | some vs =>
    rcases h with h | ⟨fields, v, rfl, hv, h⟩ | ⟨fields, v, rfl, hv, h⟩ | ⟨fields, v, rfl, hv, h⟩
    · rw [record?_givesTwice h] at hrecord
      cases hrecord
    all_goals
      obtain _ | ⟨hbegin, _ | ⟨htopics, _ | ⟨hobjects, _ | _⟩⟩⟩ := record?_forall₂ hrecord hv
      rw [Document.fieldNames] at hrecord
    · obtain rfl := hbegin List.mem_cons_self
      simp [Document.ofJson?, hrecord, field?, Begin.ofJson?_twice v h]
    · obtain rfl := htopics List.mem_cons_self
      simp [Document.ofJson?, hrecord, field?, Json.list?_hasItem Topic.ofJson?_twice v h]
    · obtain rfl := hobjects List.mem_cons_self
      simp [Document.ofJson?, hrecord, field?, Json.list?_hasItem ObjectMacro.ofJson?_twice v h]

/-! ## Texts -/

namespace Document

theorem read?_ofList (t : Text) : read? (String.ofList t) = (Json.read? t).bind ofJson? := by
  rw [read?, String.toList_ofList]

/-- A document with a field given twice is refused, whatever stands behind it. -/
theorem read?_twice {j : Json} {g t : Text} (hg : Gaps g) (ht : Written j t)
    (hj : Document.Twice j) (rest : Text) : read? (String.ofList (g ++ (t ++ rest))) = none := by
  have hobject : ∀ literal, j ≠ number literal := by
    rintro literal rfl
    rcases hj with ⟨_, _, _, _, _, _, _, h, -⟩ | ⟨_, _, h, -⟩ | ⟨_, _, h, -⟩ | ⟨_, _, h, -⟩ <;>
      cases h
  rw [read?_ofList]
  by_cases hrest : Gaps rest
  · rw [Json.read?_written hg ht hrest, Option.bind_some, ofJson?_twice j hj]
  · rw [read?_junk hg ht hobject hrest, Option.bind_none]

/-- **A document is read from every text that renders it, and so from its printed record. A text is
refused if an object in it that stands for a record gives a field twice, under whatever of its
names, or if it has anything but blanks behind the value.** -/
theorem read?_rendered :
    (∀ (d : Document) (j : Json) (g t g' : Text), d.Renders j → Gaps g → Written j t → Gaps g' →
      read? (String.ofList (g ++ (t ++ g'))) = some d) ∧
    (∀ d : Document, d.Renders d.toJson ∧ read? (String.ofList d.toJson.print) = some d) ∧
    (∀ (j : Json) (g t rest : Text), Gaps g → Written j t → Document.Twice j →
      read? (String.ofList (g ++ (t ++ rest))) = none) ∧
    ∀ (d : Document) (j : Json) (g t rest : Text), d.Renders j → Gaps g → Written j t →
      ¬Gaps rest → read? (String.ofList (g ++ (t ++ rest))) = none := by
  have hread (d : Document) (j : Json) (g t g' : Text) (hd : d.Renders j) (hg : Gaps g)
      (ht : Written j t) (hg' : Gaps g') : read? (String.ofList (g ++ (t ++ g'))) = some d := by
    rw [read?_ofList, Json.read?_written hg ht hg', Option.bind_some, ofJson?_renders d j hd]
  refine ⟨hread, fun d => ⟨d.renders_toJson, ?_⟩,
    fun j g t rest hg ht hj => read?_twice hg ht hj rest, fun d j g t rest hd hg ht hrest => ?_⟩
  · have hprint := hread d _ [] _ [] d.renders_toJson gaps_nil d.prints_toJson gaps_nil
    rwa [List.nil_append, List.append_nil] at hprint
  · obtain ⟨fields, rfl, -⟩ := hd
    rw [read?_ofList, read?_junk hg ht (by simp [obj]) hrest, Option.bind_none]

/-- A document with one trigger. -/
def greeting : Document := { topics := [{ name := "random", triggers := [{ pattern := "hi" }] }] }

/-- An object with an unknown field and one topic, whose trigger has some fields. -/
def greetingJson (fields : List (String × Json)) : Json :=
  obj [("note", array [.null]),
    ("topics", array [obj [("triggers", array [obj fields]), ("name", text "random")]])]

theorem prints_greetingJson {fields : List (String × Json)} (h : ∀ f ∈ fields, f.2.Prints) :
    (greetingJson fields).Prints := by
  have hnull : Json.null.Prints := .null
  have hnote : (array [.null]).Prints := prints_array (by simp [hnull])
  have htriggers : (array [obj fields]).Prints := prints_array (by simp [prints_obj h])
  have htopic : (obj [("triggers", array [obj fields]), ("name", text "random")]).Prints :=
    prints_obj (by simp [htriggers, prints_text])
  have htopics : (array [obj [("triggers", array [obj fields]), ("name", text "random")]]).Prints :=
    prints_array (by simp [htopic])
  exact prints_obj (by simp [hnote, htopics])

/-- The pattern may stand under its other name. -/
theorem greeting_renders : greeting.Renders (greetingJson [("trigger", text "hi")]) := by
  have hfirst {names : List String} {name : String} {v : Json} {fs : List (String × Json)}
      (hname : name ∈ names) (h : ∀ f ∈ fs, f.1 ∉ names) :
      Gives names ((name, v) :: fs) (some v) :=
    .present (List.nil_append _).symm hname (fun _ hf => absurd hf List.not_mem_nil) h
  have hsecond {name : String} {f : String × Json} {v : Json} (h : f.1 ≠ name) :
      Gives [name] [f, (name, v)] (some v) :=
    Json.gives_of_mem List.mem_cons_self (by simp) (by simp [h])
  have htrigger : Trigger.Renders { pattern := "hi" } (obj [("trigger", text "hi")]) :=
    ⟨_, rfl, .inr ⟨_, rfl, hfirst (by simp) (by simp)⟩, .inl ⟨rfl, .absent (by simp)⟩,
      .inl ⟨rfl, .absent (by simp)⟩, .inl ⟨rfl, .absent (by simp)⟩, .inl ⟨rfl, .absent (by simp)⟩⟩
  have htopic : Topic.Renders { name := "random", triggers := [{ pattern := "hi" }] }
      (obj [("triggers", array [obj [("trigger", text "hi")]]), ("name", text "random")]) :=
    ⟨_, rfl, .inr ⟨_, rfl, hsecond (by simp)⟩, .inl ⟨rfl, .absent (by simp)⟩,
      .inl ⟨rfl, .absent (by simp)⟩,
      .inr ⟨_, ⟨_, rfl, .cons htrigger .nil⟩, hfirst (by simp) (by simp)⟩⟩
  exact ⟨_, rfl, .inl ⟨rfl, .absent (by simp)⟩,
    .inr ⟨_, ⟨_, rfl, .cons htopic .nil⟩, hsecond (by simp)⟩, .inl ⟨rfl, .absent (by simp)⟩⟩

/-- The pattern must not stand there twice. -/
theorem greeting_twice : Document.Twice
    (greetingJson [("trigger", text "hi"), ("pattern", text "hi")]) := by
  have htrigger : Trigger.Twice (obj [("trigger", text "hi"), ("pattern", text "hi")]) :=
    ⟨[], [], [], "trigger", "pattern", text "hi", text "hi", rfl, ["pattern", "trigger"],
      List.mem_cons_self, by simp, by simp⟩
  have htopic : Topic.Twice (obj [("triggers", array [obj [("trigger", text "hi"),
      ("pattern", text "hi")]]), ("name", text "random")]) :=
    .inr ⟨_, _, rfl, List.mem_cons_self, _, _, rfl, List.mem_cons_self, htrigger⟩
  exact .inr (.inr (.inl ⟨_, _, rfl, List.mem_cons_of_mem _ List.mem_cons_self, _, _, rfl,
    List.mem_cons_self, htopic⟩))

/-- A greeting is read; it is refused with its pattern given twice, or with something behind it. -/
theorem greeting_read :
    greeting.Renders (greetingJson [("trigger", text "hi")]) ∧
    Written (greetingJson [("trigger", text "hi")]) (greetingJson [("trigger", text "hi")]).print ∧
    read? (String.ofList ([' '] ++ ((greetingJson [("trigger", text "hi")]).print ++ ['\n']))) =
      some greeting ∧
    Document.Twice (greetingJson [("trigger", text "hi"), ("pattern", text "hi")]) ∧
    read? (String.ofList ([' '] ++
      ((greetingJson [("trigger", text "hi"), ("pattern", text "hi")]).print ++ ['\n']))) = none ∧
    read? (String.ofList ([' '] ++ ((greetingJson [("trigger", text "hi")]).print ++ ['x']))) =
      none := by
  have honce : (greetingJson [("trigger", text "hi")]).Prints :=
    prints_greetingJson (by simp [prints_text])
  have htwice : (greetingJson [("trigger", text "hi"), ("pattern", text "hi")]).Prints :=
    prints_greetingJson (by simp [prints_text])
  have hblank : Gaps [' '] := by simp [Gaps]
  have hnewline : Gaps ['\n'] := by simp [Gaps]
  have hjunk : ¬Gaps ['x'] := by simp [Gaps]
  obtain ⟨hread, -, hrefuse, hbehind⟩ := read?_rendered
  exact ⟨greeting_renders, honce, hread _ _ _ _ _ greeting_renders hblank honce hnewline,
    greeting_twice, hrefuse _ _ _ _ hblank htwice greeting_twice,
    hbehind _ _ _ _ _ greeting_renders hblank honce hjunk⟩

end Document

end Repartee
