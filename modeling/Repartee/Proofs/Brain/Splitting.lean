import Repartee.Proofs.Brain.Reachable
import Repartee.Proofs.Topic.Growth

/-!
# How definitions are split into documents

* `Check.problems_building`: definitions without faults have none when they are put together.
* `Splitting`: documents into which definitions are split.
* `Brain.withTopics`, `Brain.load_topics`: what a document of topics adds to a bot.
* `Brain.adds_splitting`: what documents add into which definitions are split.
* `Brain.Gathers`: a bot that has some definitions on top of what another one has.
* **`Brain.loadAll_splitting`**: however definitions are split, the bot that has loaded them is the
  same.
-/

namespace Repartee

/-! ## Faults -/

namespace Check

variable {utf8 forceCase : Bool}

theorem topicProblems_eq_nil {t : Topic} : topicProblems utf8 forceCase t = [] ↔
    (t.name = beginTopic ∨ topicName forceCase t.name.toList = none) ∧
      ∀ g ∈ t.triggers, triggerProblems utf8 t.name g = [] := by
  rw [topicProblems, List.append_eq_nil_iff, List.flatMap_eq_nil_iff]
  refine and_congr ?_ Iff.rfl
  by_cases hname : t.name = beginTopic
  · simp [hname]
  · rw [if_neg hname, List.map_eq_nil_iff, Option.toList_eq_nil_iff, or_iff_right hname]

/-- Two definitions of a topic without faults have none when they are merged. -/
theorem topicProblems_merge {t u : Topic} (h : t.name = u.name)
    (ht : topicProblems utf8 forceCase t = []) (hu : topicProblems utf8 forceCase u = []) :
    topicProblems utf8 forceCase (t.merge u) = [] := by
  rw [topicProblems_eq_nil] at ht hu ⊢
  refine ⟨ht.1, fun g hg => ?_⟩
  rcases List.mem_append.1 hg with hg | hg
  · exact ht.2 g hg
  · rw [Topic.name_merge, h]
    exact hu.2 g hg

theorem topicProblems_mergeTopic {u : Topic} (hu : topicProblems utf8 forceCase u = []) :
    ∀ {ts : List Topic}, (∀ t ∈ ts, topicProblems utf8 forceCase t = []) →
      ∀ t ∈ Document.mergeTopic u ts, topicProblems utf8 forceCase t = []
  | [], _ => fun t ht => List.mem_singleton.1 ht ▸ hu
  | t :: ts, h => by
    have ht := h t List.mem_cons_self
    have hts := fun v hv => h v (List.mem_cons_of_mem t hv)
    rw [Document.mergeTopic]
    split
    · rename_i hname
      exact List.forall_mem_cons.2 ⟨topicProblems_merge hname ht hu, hts⟩
    · exact List.forall_mem_cons.2 ⟨ht, topicProblems_mergeTopic hu hts⟩

/-- Definitions without faults have none when they are listed. -/
theorem problems_listing {us : List Topic} (h : ∀ u ∈ us, topicProblems utf8 forceCase u = []) :
    problems utf8 forceCase (.listing us) = [] :=
  List.flatMap_eq_nil_iff.2 h

/-- Nor have they any when they are put together. -/
theorem problems_building {us : List Topic} (h : ∀ u ∈ us, topicProblems utf8 forceCase u = []) :
    problems utf8 forceCase (.building us) = [] := by
  rw [Document.building_eq, problems, List.flatMap_eq_nil_iff]
  have hfold : ∀ us ts : List Topic, (∀ u ∈ us, topicProblems utf8 forceCase u = []) →
      (∀ t ∈ ts, topicProblems utf8 forceCase t = []) →
        ∀ t ∈ us.foldl (fun ts u => Document.mergeTopic u ts) ts,
          topicProblems utf8 forceCase t = [] := by
    intro us
    induction us with
    | nil => exact fun _ _ hts => hts
    | cons u us ih =>
      intro ts hus hts
      exact ih _ (fun v hv => hus v (List.mem_cons_of_mem u hv))
        (topicProblems_mergeTopic (hus u List.mem_cons_self) hts)
  exact hfold us [] h fun t ht => absurd ht List.not_mem_nil

end Check

/-! ## Documents of topics -/

/-- Documents into which definitions are split, in order: a document lists some of them, or they are
added to it one after another. -/
inductive Splitting : List Topic → List Document → Prop
  | nil : Splitting [] []
  | listing (us : List Topic) {vs : List Topic} {ds : List Document} : Splitting vs ds →
    Splitting (us ++ vs) (.listing us :: ds)
  | building (us : List Topic) {vs : List Topic} {ds : List Document} : Splitting vs ds →
    Splitting (us ++ vs) (.building us :: ds)

namespace Brain

variable {b : Brain} {us vs : List Topic} {d : Document}

/-- The bot with some more definitions, and its triggers not sorted. -/
def withTopics (b : Brain) (us : List Topic) : Brain :=
  let topics := Script.addTopics b.script.topics us
  { b with script := { b.script with topics, previous := topics.previousIndex, order := none } }

theorem withTopics_append (b : Brain) (us vs : List Topic) :
    (b.withTopics us).withTopics vs = b.withTopics (us ++ vs) := by
  simp only [withTopics, Topics.addTopics_append]

/-- The definitions are accepted by the bot. -/
def Accepts (b : Brain) (us : List Topic) : Prop :=
  b.script.options.strict = true →
    ∀ u ∈ us, Check.topicProblems b.script.options.utf8 b.script.options.forceCase u = []

/-- A document of topics adds its definitions, if a strict bot finds no fault in it. -/
theorem load_topics (ts : List Topic) (h : b.script.options.strict = true →
    Check.problems b.script.options.utf8 b.script.options.forceCase { topics := ts } = []) :
    b.load { topics := ts } = (none, b.withTopics ts) := by
  have hproblems : (if b.script.options.strict then
      Check.problems b.script.options.utf8 b.script.options.forceCase { topics := ts }
        else []).head? = none := by
    split
    · rename_i hs
      rw [h hs]
      rfl
    · rfl
  rw [load]
  simp only [hproblems]
  rfl

/-- Definitions that are listed are added. -/
theorem load_listing (h : b.Accepts us) : b.load (.listing us) = (none, b.withTopics us) :=
  load_topics us fun hs => Check.problems_listing (h hs)

/-- So are those that are put together. -/
theorem load_building (h : b.Accepts us) : b.load (.building us) = (none, b.withTopics us) := by
  have hload := load_topics (b := b) (Document.building us).topics fun hs => by
    have hproblems := Check.problems_building (h hs)
    rw [Document.building_eq] at hproblems ⊢
    exact hproblems
  have hdocument : ({ topics := (Document.building us).topics } : Document) = .building us := by
    rw [Document.building_eq]
  rw [hdocument, withTopics, Topics.addTopics_building] at hload
  exact hload

/-! ## Runs -/

/-- Load documents one after another. -/
def loadAll (b : Brain) : List Document → List (Option LoadError) × Brain
  | [] => ([], b)
  | d :: ds =>
    let (e, b) := b.load d
    let (es, b) := loadAll b ds
    (e :: es, b)

/-- A bot has some definitions on top of what another one has. -/
structure Gathers (b : Brain) (us : List Topic) (b' : Brain) : Prop where
  /-- A topic is made of the earlier one and of the definitions with its name, merged in order. -/
  topics : ∀ name, b'.script.topics.find? name =
    Topic.extendAll (b.script.topics.find? name) (Topics.named us name)
  /-- Its triggers stand in the order in which they came. -/
  triggers : ∀ name, ((b'.script.topics.find? name).map (·.triggers)).getD [] =
    ((b.script.topics.find? name).map (·.triggers)).getD [] ++
      (Topics.named us name).flatMap (·.triggers)
  previous : b'.script.previous = b'.script.topics.previousIndex
  order : b'.sort.script.order =
    some (.build b'.script.topics b'.script.previous b.script.depth)

/-- Loading documents comes to adding definitions. -/
structure Adds (b : Brain) (us : List Topic) (ds : List Document) : Prop where
  accepted : ∀ e ∈ (b.loadAll ds).1, e = none
  current : (b.loadAll ds).2.script.Current
  sorted : (b.loadAll ds).2.sort = (b.withTopics us).sort

theorem Adds.nil (h : b.script.Current) : b.Adds [] [] := by
  refine ⟨fun e he => absurd he List.not_mem_nil, h, ?_⟩
  have hprevious : b.script.topics.previousIndex = b.script.previous := h.previous.symm
  rw [withTopics, sort, sort, Script.sort, Script.sort, Script.addTopics, List.foldl_nil,
    hprevious]
  rfl

theorem Adds.cons {ds : List Document} (hload : b.load d = (none, b.withTopics us))
    (h : (b.withTopics us).Adds vs ds) : b.Adds (us ++ vs) (d :: ds) := by
  constructor <;> rw [loadAll, hload]
  · exact List.forall_mem_cons.2 ⟨rfl, h.accepted⟩
  · exact h.current
  · exact h.sorted.trans (by rw [withTopics_append])

/-- Loading documents into which definitions are split adds the definitions. -/
theorem adds_splitting {ds : List Document} (h : Splitting us ds) :
    ∀ {b : Brain}, b.script.Current → b.Accepts us → b.Adds us ds := by
  have hcurrent (b : Brain) (us : List Topic) : (b.withTopics us).script.Current :=
    ⟨rfl, fun _ h => by cases h⟩
  induction h with
  | nil => exact fun hb _ => .nil hb
  | listing us _ ih =>
    intro b _ haccepts
    exact .cons (load_listing fun hs u hu => haccepts hs u (List.mem_append_left _ hu))
      (ih (hcurrent b us) fun hs u hu => haccepts hs u (List.mem_append_right us hu))
  | building us _ ih =>
    intro b _ haccepts
    exact .cons (load_building fun hs u hu => haccepts hs u (List.mem_append_left _ hu))
      (ih (hcurrent b us) fun hs u hu => haccepts hs u (List.mem_append_right us hu))

/-- **However definitions are split into documents, the bot that has loaded them has the same
topics, the same index and, once it is sorted, the same order of triggers.** -/
theorem loadAll_splitting (hb : b.Reachable) (hus : b.Accepts us) {ds ds' : List Document}
    (h : Splitting us ds) (h' : Splitting us ds') :
    (∀ e ∈ (b.loadAll ds).1, e = none) ∧ (∀ e ∈ (b.loadAll ds').1, e = none) ∧
      b.Gathers us (b.loadAll ds).2 ∧
      (b.loadAll ds).2.script.topics = (b.loadAll ds').2.script.topics ∧
      (b.loadAll ds).2.script.previous = (b.loadAll ds').2.script.previous ∧
      (b.loadAll ds).2.sort.script.order = (b.loadAll ds').2.sort.script.order := by
  obtain ⟨hnone, hcurrent, hsort⟩ := adds_splitting h hb.current hus
  obtain ⟨hnone', -, hsort'⟩ := adds_splitting h' hb.current hus
  have htopics : (b.loadAll ds).2.script.topics = Script.addTopics b.script.topics us :=
    congrArg (·.script.topics) hsort
  have hdepth : (b.loadAll ds).2.script.depth = b.script.depth := congrArg (·.script.depth) hsort
  have hsame : (b.loadAll ds).2.sort = (b.loadAll ds').2.sort := hsort.trans hsort'.symm
  refine ⟨hnone, hnone', ⟨fun name => ?_, fun name => ?_, hcurrent.previous, ?_⟩,
    congrArg (·.script.topics) hsame, congrArg (·.script.previous) hsame,
    congrArg (·.script.order) hsame⟩
  · rw [htopics, Topics.find?_addTopics]
  · rw [htopics, Topics.find?_addTopics, Topic.triggers_extendAll]
  · rw [sort, Script.sort, hdepth]

/-- Definitions of two topics, one of which has two. -/
def twoOfHall : List Topic :=
  [{ name := "hall", includes := ["attic", "attic"], triggers := [{ pattern := "hello" }] },
    { name := "attic", triggers := [{ pattern := "boo", previous := some "hello" }] },
    { name := "hall", includes := ["attic", "yard"], triggers := [{ pattern := "*" }] }]

/-- It does not matter to a new bot whether it gets them one by one or put together. -/
theorem twoOfHall_splitting : (new {} .new).Accepts twoOfHall ∧
    (((new {} .new).loadAll (twoOfHall.map fun u => .listing [u])).2.script.topics =
      ((new {} .new).loadAll [.building twoOfHall]).2.script.topics) ∧
    ((new {} .new).loadAll [.building twoOfHall]).2.script.trigger? ⟨"hall", 1⟩ =
      some { pattern := "*" } := by
  have haccepts : (new {} .new).Accepts twoOfHall := fun _ => by decide +kernel
  obtain ⟨-, -, -, htopics, -, -⟩ := loadAll_splitting (.new {} .new {}) haccepts
    (.listing [_] (.listing [_] (.listing [_] .nil))) (.building twoOfHall .nil)
  exact ⟨haccepts, htopics, by decide +kernel⟩

end Brain

end Repartee
