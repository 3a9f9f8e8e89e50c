import Mathlib.Data.List.Nodup
import Mathlib.Order.Bounds.Basic
import Repartee.Proofs.Script.Match
import Repartee.Proofs.Topic.Growth

/-!
# Triggers that are defined again

Several triggers of a topic may have one pattern and one previous pattern, all the more if the topic
is defined in more than one document. The last one replaces the others.

* `Topic.HasPair`: the trigger at an index has a pattern and a previous pattern.
* `Topic.lookup_previousPairs`, `Topics.previousIndex_find?_iff`: what is looked up is the greatest
  such index.
* `Topics.collect_of_alone`: a topic that draws on no other has its own triggers only.
* `Topics.merged`: the topics of some documents.
* **`TrialOrder.previous_merged`**: among the triggers tried after a reply there is one for each
  pair, the last one.
-/

namespace Repartee

/-! ## Pairs -/

/-- A look-up in pairs with descending second components finds the greatest one of a key. -/
theorem lookup_eq_some_iff_isGreatest {α : Type} [BEq α] [LawfulBEq α] {l : List (α × Nat)}
    (h : l.Pairwise fun a b => b.2 < a.2) {k : α} {i : Nat} :
    l.lookup k = some i ↔ IsGreatest {j | (k, j) ∈ l} i := by
  have hgreatest {i : Nat} (hi : l.lookup k = some i) : IsGreatest {j | (k, j) ∈ l} i := by
    obtain ⟨l₁, l₂, rfl, hnone⟩ := List.lookup_eq_some_iff.1 hi
    refine ⟨List.mem_append_right _ List.mem_cons_self, fun j hj => ?_⟩
    rcases List.mem_append.1 hj with hj | hj
    · -- what stands before the pair found has other keys
      exact absurd (hnone _ hj) (by simp)
    · rcases List.mem_cons.1 hj with hj | hj
      · obtain rfl : j = i := congrArg Prod.snd hj
        exact le_refl j
      · exact le_of_lt ((List.pairwise_cons.1 (List.pairwise_append.1 h).2.1).1 _ hj)
  refine ⟨hgreatest, fun hi => ?_⟩
  have hsome : (l.lookup k).isSome := List.lookup_isSome_iff.2 ⟨_, hi.1, beq_self_eq_true k⟩
  obtain ⟨j, hj⟩ := Option.isSome_iff_exists.1 hsome
  rw [hj, (hgreatest hj).unique hi]

namespace Topic

/-- The trigger at an index has a pattern and a previous pattern. -/
def HasPair (t : Topic) (pattern previous : String) (i : Nat) : Prop :=
  (t.triggers[i]?.map fun g => (g.pattern, g.previous)) = some (pattern, some previous)

instance (t : Topic) (pattern previous : String) : DecidablePred (t.HasPair pattern previous) :=
  fun _ => inferInstanceAs (Decidable (_ = _))

variable {t : Topic} {pattern previous pattern' previous' : String} {i : Nat}

theorem hasPair_iff : t.HasPair pattern previous i ↔
    ∃ g, t.triggers[i]? = some g ∧ g.pattern = pattern ∧ g.previous = some previous := by
  simp [HasPair]

theorem HasPair.unique (h : t.HasPair pattern previous i) (h' : t.HasPair pattern' previous' i) :
    pattern = pattern' ∧ previous = previous' := by
  rw [HasPair] at h h'
  simpa [h] using h'

/-- The pairs of the triggers are those with the last index first. -/
theorem pairwise_previousPairs (t : Topic) : t.previousPairs.Pairwise fun a b => b.2 < a.2 := by
  rw [previousPairs, List.pairwise_reverse, List.pairwise_filterMap]
  refine (pairwise_zipIdx t.triggers).imp fun {a b} hab c hc d hd => ?_
  obtain ⟨p, -, rfl⟩ := Option.map_eq_some_iff.1 hc
  obtain ⟨q, -, rfl⟩ := Option.map_eq_some_iff.1 hd
  exact hab

/-- What is looked up is the last trigger with the pair. -/
theorem lookup_previousPairs : t.previousPairs.lookup (pattern, previous) = some i ↔
    IsGreatest {j | t.HasPair pattern previous j} i := by
  rw [lookup_eq_some_iff_isGreatest t.pairwise_previousPairs]
  simp only [Topics.mem_previousPairs, hasPair_iff]

end Topic

namespace Topics

variable {ts : Topics} {name : String} {t : Topic}

/-- **What is indexed is the last trigger with the pair.** -/
theorem previousIndex_find?_iff (ht : ts.find? name = some t) {pattern previous : String}
    {id : TriggerId} : ts.previousIndex.find? name pattern previous = some id ↔
      ∃ i, IsGreatest {j | t.HasPair pattern previous j} i ∧ id = ⟨name, i⟩ := by
  rw [PreviousIndex.find?, previousIndex, Table.find?_map, ht, Option.map_some, Option.bind_some,
    Option.map_eq_some_iff]
  simp only [Topic.lookup_previousPairs, eq_comm (b := id)]

theorem previousIndex_find?_eq_none_iff (ht : ts.find? name = some t) {pattern previous : String} :
    ts.previousIndex.find? name pattern previous = none ↔ ∀ i, ¬ t.HasPair pattern previous i := by
  constructor
  · intro hnone i hi
    obtain ⟨g, hg, rfl, hp⟩ := Topic.hasPair_iff.1 hi
    obtain ⟨j, _, -, -, -, hfind⟩ := previousIndex_find? ht hg hp
    rw [hfind] at hnone
    cases hnone
  · intro hnone
    by_contra hsome
    obtain ⟨id, hid⟩ := Option.ne_none_iff_exists'.1 hsome
    obtain ⟨i, hi, -⟩ := (previousIndex_find?_iff ht).1 hid
    exact hnone i hi.1

/-! ## Topics that draw on no other -/

variable {keep : TriggerId → Trigger → Bool}

theorem collect_of_alone (ht : ts.find? name = some t) (hincludes : t.includes = [])
    (hinherits : t.inherits = []) (n : Nat) :
    collect ts keep (n + 1) name 0 false = own keep t name false 0 := by
  rw [collect, ht]
  dsimp only
  rw [hincludes, hinherits]
  rfl

/-- The triggers of a topic keep their order. -/
theorem pairwise_own (t : Topic) (name : String) (tag : Bool) (level : Nat) :
    (own keep t name tag level).Pairwise fun a b => a.id.index < b.id.index := by
  rw [own, List.pairwise_filterMap]
  refine (pairwise_zipIdx t.triggers).imp fun {a b} hab c hc d hd => ?_
  obtain ⟨-, hc⟩ := Option.ite_none_right_eq_some.1 hc
  obtain ⟨-, hd⟩ := Option.ite_none_right_eq_some.1 hd
  cases hc
  cases hd
  exact hab

/-- The triggers that a topic tries after a reply are the last ones with their pairs. -/
theorem mem_sort_previous (ht : ts.find? name = some t) (hincludes : t.includes = [])
    (hinherits : t.inherits = []) {limit : Nat} {e : Entry} :
    e ∈ Entry.sort (ts.previous ts.previousIndex limit name) ↔
      ∃ pattern previous i, IsGreatest {j | t.HasPair pattern previous j} i ∧
        e = ⟨String.ofList (Metadata.stripLevel pattern.toList), ⟨name, i⟩⟩ := by
  rw [Entry.mem_sort, Topics.previous, collect_of_alone ht hincludes hinherits]
  constructor
  · rintro ⟨d, hd, rfl⟩
    obtain ⟨i, g, -, hk, rfl⟩ := mem_own.1 hd
    obtain ⟨p, -, hfind⟩ := (Option.any_eq_true _ _).1 hk
    obtain ⟨j, hj, hid⟩ := (previousIndex_find?_iff ht).1 (beq_iff_eq.1 hfind)
    cases hid
    exact ⟨g.pattern, p, i, hj, rfl⟩
  · rintro ⟨pattern, previous, i, hi, rfl⟩
    obtain ⟨g, hg, rfl, hp⟩ := Topic.hasPair_iff.1 hi.1
    have hfind := (previousIndex_find?_iff ht).2 ⟨i, hi, rfl⟩
    exact ⟨_, mem_own.2 ⟨i, g, hg, by simp [hp, hfind], rfl⟩, rfl⟩

theorem nodup_sort_previous (ht : ts.find? name = some t) (hincludes : t.includes = [])
    (hinherits : t.inherits = []) (limit : Nat) :
    (Entry.sort (ts.previous ts.previousIndex limit name)).Nodup := by
  rw [(Entry.sort_perm _).nodup_iff, Topics.previous, collect_of_alone ht hincludes hinherits]
  refine List.pairwise_map.2 ((pairwise_own t name false 0).imp fun {a b} hab h => ?_)
  have hindex : a.bare.id.index = b.bare.id.index := by rw [h]
  exact hab.ne hindex

/-- The topics of some documents, their definitions merged in order. -/
def merged (ds : List Document) : Topics := ds.foldl (fun ts d => Script.addTopics ts d.topics) ∅

/-- The triggers of a topic are those of its definitions, one document after another. -/
theorem triggers_merged {ds : List Document} (ht : (merged ds).find? name = some t) :
    t.triggers = ds.flatMap fun d => (named d.topics name).flatMap (·.triggers) := by
  have hfold : ∀ (ds : List Document) (ts : Topics),
      (((ds.foldl (fun ts d => Script.addTopics ts d.topics) ts).find? name).map
        (·.triggers)).getD [] = ((ts.find? name).map (·.triggers)).getD [] ++
          ds.flatMap fun d => (named d.topics name).flatMap (·.triggers) := by
    intro ds
    induction ds with
    | nil => exact fun ts => (List.append_nil _).symm
    | cons d ds ih =>
      intro ts
      rw [List.foldl_cons, ih, find?_addTopics, Topic.triggers_extendAll, List.flatMap_cons,
        List.append_assoc]
  have hwhole := hfold ds ∅
  rw [merged] at ht
  rwa [ht] at hwhole

end Topics

/-! ## The triggers tried after a reply -/

/-- A list has one entry for each pair of a topic, that of the last trigger with the pair, and no
other entry. -/
structure Topic.LastOfEach (t : Topic) (name : String) (es : List Entry) : Prop where
  one : ∀ pattern previous j, t.HasPair pattern previous j →
    ∃ i, IsGreatest {j | t.HasPair pattern previous j} i ∧
      (es.filter fun e => t.HasPair pattern previous e.id.index) =
        [⟨String.ofList (Metadata.stripLevel pattern.toList), ⟨name, i⟩⟩]
  only : ∀ e ∈ es, ∃ pattern previous i, IsGreatest {j | t.HasPair pattern previous j} i ∧
    e.id = ⟨name, i⟩

theorem Topics.lastOfEach_previous {ts : Topics} {name : String} {t : Topic}
    (ht : ts.find? name = some t) (hincludes : t.includes = []) (hinherits : t.inherits = [])
    (limit : Nat) :
    t.LastOfEach name (Entry.sort (ts.previous ts.previousIndex limit name)) where
  one pattern previous j hj := by
    obtain ⟨g, hg, rfl, hp⟩ := Topic.hasPair_iff.1 hj
    obtain ⟨k, _, -, -, -, hfind⟩ := previousIndex_find? ht hg hp
    obtain ⟨i, hi, -⟩ := (previousIndex_find?_iff ht).1 hfind
    have hnodup := (nodup_sort_previous ht hincludes hinherits limit).filter
      fun e => t.HasPair g.pattern previous e.id.index
    refine ⟨i, hi, List.perm_singleton.1 ((List.perm_ext_iff_of_nodup hnodup
      (List.nodup_singleton _)).2 fun e => ?_)⟩
    rw [List.mem_filter, mem_sort_previous ht hincludes hinherits, List.mem_singleton,
      decide_eq_true_iff]
    constructor
    · rintro ⟨⟨pattern', previous', i', hi', rfl⟩, hpair⟩
      obtain ⟨rfl, rfl⟩ := hi'.1.unique hpair
      rw [hi'.unique hi]
    · rintro rfl
      exact ⟨⟨g.pattern, previous, i, hi, rfl⟩, hi.1⟩
  only e he := by
    obtain ⟨pattern, previous, i, hi, rfl⟩ := (mem_sort_previous ht hincludes hinherits).1 he
    exact ⟨pattern, previous, i, hi, rfl⟩

/-- **The last definition wins.** However the definitions of a topic are spread over documents, if
the topic draws on no other, it tries one trigger for each pair after a reply, the last one with the
pair, and this is the one that is looked up. -/
theorem TrialOrder.previous_merged (ds : List Document) (limit : Nat) {name : String} {t : Topic}
    (ht : (Topics.merged ds).find? name = some t) (hincludes : t.includes = [])
    (hinherits : t.inherits = []) :
    t.triggers = (ds.flatMap fun d => (Topics.named d.topics name).flatMap (·.triggers)) ∧
    (∃ es, (build (Topics.merged ds) (Topics.merged ds).previousIndex limit).previous.find? name =
      some es ∧ t.LastOfEach name es) ∧
    ∀ pattern previous,
      (∀ id, (Topics.merged ds).previousIndex.find? name pattern previous = some id ↔
        ∃ i, IsGreatest {j | t.HasPair pattern previous j} i ∧ id = ⟨name, i⟩) ∧
      ((Topics.merged ds).previousIndex.find? name pattern previous = none ↔
        ∀ i, ¬ t.HasPair pattern previous i) := by
  have hlist := Topics.lastOfEach_previous ht hincludes hinherits limit
  refine ⟨Topics.triggers_merged ht, ⟨_, ?_, hlist⟩, fun pattern previous =>
    ⟨fun id => Topics.previousIndex_find?_iff ht, Topics.previousIndex_find?_eq_none_iff ht⟩⟩
  rw [build, Table.find?_ofKeys, ht, Option.map_some]

/-- A topic whose only trigger follows a question. -/
def knock (reply : String) : Topic :=
  { name := "random"
    triggers := [{ pattern := "* ", replies := [reply], previous := some "who is there" }] }

/-- Three definitions of the topic in two documents. -/
def knocks : List Document := [.listing [knock "one"], .listing [knock "two", knock "three"]]

theorem TrialOrder.previous_merged_knocks :
    (Topics.merged knocks).find? "random" =
      some (((knock "one").merge (knock "two")).merge (knock "three")) ∧
    (Topics.merged knocks).previousIndex.find? "random" "* " "who is there" =
      some ⟨"random", 2⟩ ∧
    ∃ es, (build (Topics.merged knocks) (Topics.merged knocks).previousIndex 0).previous.find?
        "random" = some es ∧
      (((knock "one").merge (knock "two")).merge (knock "three")).LastOfEach "random" es :=
  ⟨rfl, by decide, (previous_merged knocks 0 rfl rfl rfl).2.1⟩

end Repartee
