import Mathlib.Data.List.Basic
import Repartee.Proofs.Brain.Fresh
import Repartee.Reply.Resolve

/-!
# A topic of its own

A topic that no other one draws on does not matter to searches in the other topics.

* `Topics.Unmentioned`: no topic has a name or draws on it.
* `Topics.Unmentioned.collect`, `Topics.Unmentioned.walk`: walks from other topics do not meet it.
* `Script.withTopic`: a script with one more topic, its triggers sorted.
* `Script.findMatch_withTopic`: a search in another topic finds the same, among as many triggers.
* **`Resolve.search_withTopic`**: and it is noted in the same way.
-/

namespace Repartee

/-! ## Walks -/

namespace Topics

/-- No topic has the name, includes it or inherits it. -/
structure Unmentioned (ts : Topics) (name : String) : Prop where
  absent : ts.find? name = none
  links : ∀ u t, ts.find? u = some t → name ∉ t.includes ++ t.inherits

variable {ts : Topics} {name : String} {t : Topic}

theorem find?_insert_of_ne {u : String} (hu : u ≠ name) :
    (ts.insert name t).find? u = ts.find? u := by
  rw [Table.find?_insert, if_neg hu]

/-- Identifiers in other topics have the same triggers. -/
theorem trigger?_insert_of_ne {id : TriggerId} (hid : id.topic ≠ name) :
    trigger? (ts.insert name t) id = ts.trigger? id := by
  rw [trigger?, find?_insert_of_ne hid, trigger?]

/-- Triggers in other topics follow the same replies. -/
theorem previousIndex_insert_of_ne {u : String} (hu : u ≠ name) (pattern previous : String) :
    (previousIndex (ts.insert name t)).find? u pattern previous =
      ts.previousIndex.find? u pattern previous := by
  rw [PreviousIndex.find?, PreviousIndex.find?, previousIndex, previousIndex, Table.find?_map,
    Table.find?_map, find?_insert_of_ne hu]

namespace Unmentioned

variable (h : ts.Unmentioned name)

include h

/-- A topic that is there has another name. -/
theorem ne_of_find? {u : String} {v : Topic} (hu : ts.find? u = some v) : u ≠ name := by
  rintro rfl
  rw [h.absent] at hu
  cases hu

/-- An identifier of a trigger is in another topic. -/
theorem ne_of_trigger? {id : TriggerId} {g : Trigger} (hg : ts.trigger? id = some g) :
    id.topic ≠ name := by
  obtain ⟨v, hv, -⟩ := Option.bind_eq_some_iff.1 hg
  exact h.ne_of_find? hv

/-- A walk from another topic collects the same entries. -/
theorem collect {keep keep' : TriggerId → Trigger → Bool}
    (hkeep : ∀ id g, id.topic ≠ name → keep' id g = keep id g) :
    ∀ (n : Nat) {u : String}, u ≠ name → ∀ (level : Nat) (inherited : Bool),
      Topics.collect (ts.insert name t) keep' n u level inherited =
        ts.collect keep n u level inherited
  | 0, _, _, _, _ => rfl
  | n + 1, u, hu, level, inherited => by
    rw [Topics.collect, Topics.collect, find?_insert_of_ne hu]
    cases hv : ts.find? u with
    | none => rfl
    | some v =>
      have hlinks {w : String} (hw : w ∈ v.includes ++ v.inherits) : w ≠ name := by
        rintro rfl
        exact h.links u v hv hw
      have hown (tag : Bool) : own keep' v u tag level = own keep v u tag level := by
        rw [own, own]
        refine List.filterMap_congr fun e _ => ?_
        dsimp only
        rw [hkeep _ _ hu]
      dsimp only
      rw [hown]
      congr 2
      · exact List.flatMap_congr fun w hw =>
          collect hkeep n (hlinks (List.mem_append_left _ hw)) _ _
      · exact List.flatMap_congr fun w hw =>
          collect hkeep n (hlinks (List.mem_append_right _ hw)) _ _

/-- A walk from another topic meets the same topics. -/
theorem walk : ∀ (n : Nat) {u : String}, u ≠ name →
    Topics.walk (ts.insert name t) n u = ts.walk n u
  | 0, _, _ => rfl
  | n + 1, u, hu => by
    rw [Topics.walk, Topics.walk, find?_insert_of_ne hu]
    cases hv : ts.find? u with
    | none => rfl
    | some v =>
      refine congrArg (u :: ·) (List.flatMap_congr fun w hw => walk n ?_)
      rintro rfl
      exact h.links u v hv hw

/-- It does not meet the topic. -/
theorem ne_of_mem_walk : ∀ {n : Nat} {u v : String}, u ≠ name → v ∈ ts.walk n u → v ≠ name
  | n + 1, u, v, hu, hv => by
    rw [Topics.walk, List.mem_cons] at hv
    rcases hv with rfl | hv
    · exact hu
    · cases hw : ts.find? u with
      | none =>
        rw [hw] at hv
        cases hv
      | some w =>
        rw [hw] at hv
        obtain ⟨x, hx, hv⟩ := List.mem_flatMap.1 hv
        refine ne_of_mem_walk ?_ hv
        rintro rfl
        exact h.links u w hw hx

/-- A topic draws on the same ordinary triggers. -/
theorem ordinary (limit : Nat) {u : String} (hu : u ≠ name) :
    Topics.ordinary (ts.insert name t) limit u = ts.ordinary limit u :=
  h.collect (fun _ _ _ => rfl) (limit + 1) hu 0 false

/-- A topic draws on the same triggers with a previous pattern. -/
theorem previous (limit : Nat) {u : String} (hu : u ≠ name) :
    Topics.previous (ts.insert name t) (previousIndex (ts.insert name t)) limit u =
      ts.previous ts.previousIndex limit u := by
  refine h.collect (fun id g hid => ?_) (limit + 1) hu 0 false
  simp only [previousIndex_insert_of_ne hid]

end Unmentioned

end Topics

/-! ## Searches -/

theorem Script.firstFound_congr {captured? captured?' : Entry → Option Found} {es : List Entry}
    (h : ∀ e ∈ es, captured? e = captured?' e) :
    firstFound captured? es = firstFound captured?' es := by
  induction es with
  | nil => rfl
  | cons e es ih =>
    rw [firstFound, firstFound, h e List.mem_cons_self,
      ih fun d hd => h d (List.mem_cons_of_mem e hd)]

namespace Script

/-- A script with one more topic, its triggers sorted. -/
def withTopic (s : Script) (t : Topic) : Script :=
  { s with
    topics := s.topics.insert t.name t
    previous := Topics.previousIndex (s.topics.insert t.name t) }.sort

section

variable (s : Script) (t : Topic)

theorem current_withTopic : (s.withTopic t).Current :=
  ⟨rfl, fun _ h => (Option.some_inj.1 h).symm⟩

theorem find?_withTopic : (s.withTopic t).topics.find? t.name = some t :=
  (Table.find?_insert ..).trans (if_pos rfl)

theorem contains_withTopic : (s.withTopic t).topics.contains t.name = true := by
  rw [Table.contains, find?_withTopic]
  rfl

theorem contains_withTopic_of_ne {name : String} (h : name ≠ t.name) :
    (s.withTopic t).topics.contains name = s.topics.contains name := by
  rw [Table.contains, Table.contains]
  exact congrArg Option.isSome (Topics.find?_insert_of_ne h)

end

variable {s : Script} {order order' : TrialOrder} {t : Topic} (hs : s.Current)
  (ho : s.order = some order) (h : s.topics.Unmentioned t.name)
  (ho' : (s.withTopic t).order = some order')

include hs ho h ho'

/-- The lists for another topic are the same. -/
theorem lists_withTopic {u : String} (hu : u ≠ t.name) :
    (order'.ordinary.find? u).getD [] = (order.ordinary.find? u).getD [] ∧
      (order'.previous.find? u).getD [] = (order.previous.find? u).getD [] := by
  obtain rfl := hs.order order ho
  obtain rfl := Option.some_inj.1 ho'
  dsimp only
  rw [TrialOrder.ordinary_build, TrialOrder.ordinary_build, TrialOrder.previous_build,
    TrialOrder.previous_build, hs.previous]
  exact ⟨congrArg Entry.sort (h.ordinary s.depth hu), congrArg Entry.sort (h.previous s.depth hu)⟩

omit h ho' in
/-- The identifiers in a list are those of triggers of the script. -/
theorem trigger?_of_mem_list {lists : Table (List Entry)}
    (hlists : lists = order.ordinary ∨ lists = order.previous) {u : String} {e : Entry}
    (he : e ∈ (lists.find? u).getD []) : ∃ g, s.trigger? e.id = some g := by
  cases hes : lists.find? u with
  | none =>
    rw [hes] at he
    cases he
  | some es =>
    rw [hes] at he
    rcases hlists with rfl | rfl
    · obtain ⟨g, hg, -⟩ := hs.fresh.ordinary order ho u es hes e he
      exact ⟨g, hg⟩
    · obtain ⟨g, hg, -⟩ := hs.fresh.following order ho u es hes e he
      exact ⟨g, hg⟩

/-- A search in another topic finds the same, among as many triggers. -/
theorem findMatch_withTopic (vars : Table String) (data : UserData) (message : Text)
    {topic : String} (htopic : topic ≠ t.name) (depth : Nat) :
    (s.withTopic t).findMatch order' vars data message topic depth =
      s.findMatch order vars data message topic depth := by
  have hentries : (s.withTopic t).afterReplyEntries order' topic =
      s.afterReplyEntries order topic := by
    have htree : (s.withTopic t).topics.tree (s.withTopic t).depth topic =
        s.topics.tree s.depth topic := h.walk (s.depth + 1) htopic
    rw [afterReplyEntries, afterReplyEntries, htree]
    exact List.flatMap_congr fun u hu =>
      (lists_withTopic hs ho h ho' (h.ne_of_mem_walk htopic hu)).2
  have hfirst (scope : Pattern.Scope) (lastReply : Text) :
      firstFound ((s.withTopic t).afterReply? scope message lastReply)
          (s.afterReplyEntries order topic) =
        firstFound (s.afterReply? scope message lastReply) (s.afterReplyEntries order topic) := by
    refine firstFound_congr fun e he => ?_
    obtain ⟨u, -, he⟩ := List.mem_flatMap.1 he
    obtain ⟨g, hg⟩ := trigger?_of_mem_list hs ho (.inr rfl) he
    have htrigger : (s.withTopic t).trigger? e.id = s.trigger? e.id :=
      Topics.trigger?_insert_of_ne (h.ne_of_trigger? hg)
    rw [afterReply?, htrigger, afterReply?]
  have hordinary := (lists_withTopic hs ho h ho' htopic).1
  rw [findMatch, findMatch, hentries, hordinary, hfirst]
  rfl

omit h ho' in
/-- What a search finds is a trigger of the script. -/
theorem trigger?_of_findMatch {vars : Table String} {data : UserData} {message : Text}
    {topic : String} {depth : Nat} {f : Found}
    (hf : (s.findMatch order vars data message topic depth).1 = some f) :
    ∃ g, s.trigger? f.id = some g := by
  rw [findMatch_eq hs ho] at hf
  have hordinary (hf : s.foundOrdinary vars data message topic = some f) :
      ∃ g, s.trigger? f.id = some g := by
    obtain ⟨e, he, hf⟩ := List.exists_of_findSome?_eq_some hf
    obtain ⟨stars, -, rfl⟩ := Option.map_eq_some_iff.1 hf
    rw [← TrialOrder.ordinary_build s.topics s.previous, ← hs.order order ho] at he
    exact trigger?_of_mem_list hs ho (.inl rfl) he
  split at hf
  · cases hreply : s.foundAfterReply vars data message topic with
    | none =>
      rw [hreply] at hf
      exact hordinary hf
    | some f' =>
      rw [hreply] at hf
      obtain rfl := Option.some_inj.1 hf
      obtain ⟨-, g, -, hg, -⟩ := foundAfterReply_spec hreply
      exact ⟨g, hg⟩
  · exact hordinary hf

end Script

/-- **A search in another topic is the same, and is noted in the same way.** -/
theorem Resolve.search_withTopic {s : Script} {order order' : TrialOrder} {t : Topic}
    (hs : s.Current) (ho : s.order = some order) (h : s.topics.Unmentioned t.name)
    (ho' : (s.withTopic t).order = some order') (depth : Nat) (kind : StepKind) (data : UserData)
    {topic : String} (htopic : topic ≠ t.name) (message : Text) :
    search (s.withTopic t) order' depth kind data topic message =
      search s order depth kind data topic message := by
  refine funext fun turn => ?_
  have hmatched : (s.findMatch order turn.vars data message topic depth).1.bind
      (fun f => ((s.withTopic t).trigger? f.id).map fun g => (f, g)) =
      (s.findMatch order turn.vars data message topic depth).1.bind
        fun f => (s.trigger? f.id).map fun g => (f, g) := by
    cases hf : (s.findMatch order turn.vars data message topic depth).1 with
    | none => rfl
    | some f =>
      obtain ⟨g, hg⟩ := Script.trigger?_of_findMatch hs ho hf
      have htrigger : (s.withTopic t).trigger? f.id = s.trigger? f.id :=
        Topics.trigger?_insert_of_ne (h.ne_of_trigger? hg)
      rw [Option.bind_some, Option.bind_some, htrigger]
  have hfound := Script.findMatch_withTopic hs ho h ho' turn.vars data message htopic depth
  unfold search
  simp only [bind, StateT.bind, get, getThe, MonadStateOf.get, StateT.get, pure, hfound, hmatched]

end Repartee
