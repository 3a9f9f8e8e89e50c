import Repartee.Proofs.Brain.Reachable
import Repartee.Proofs.Topic.Order
import Repartee.Script.Match

/-!
# What the search finds

* `Script.firstFound_eq`: the search through a list.
* `TrialOrder.ordinary_build`, `TrialOrder.previous_build`: the lists that are searched.
* `Script.Follows`: an entry whose trigger follows the last reply, and matches.
* `Script.foundAfterReply_eq_none`: where no trigger follows a reply.
* `Script.findMatch_eq`: the search first looks for such an entry, then for one that matches.
-/

namespace Repartee

/-- The pattern of an entry, levels removed, matches a message. -/
def Entry.Matches (scope : Pattern.Scope) (message : Text) (e : Entry) : Prop :=
  (Pattern.stars? scope e.bare.pattern message).isSome

namespace Script

variable {s : Script} {scope : Pattern.Scope} {message lastReply : Text}

/-! ## The search through a list -/

theorem firstFound_eq (captured? : Entry → Option Found) (es : List Entry) :
    (firstFound captured? es).1 = es.findSome? captured? := by
  induction es with
  | nil => rfl
  | cons e es ih =>
    rw [firstFound, List.findSome?_cons]
    cases captured? e with
    | some f => rfl
    | none => exact ih

/-- The trigger of an entry follows the last reply, and the pattern of the entry, levels removed,
matches the message. -/
structure Follows (s : Script) (scope : Pattern.Scope) (message lastReply : Text) (e : Entry) :
    Prop where
  replied : ∃ g p, s.trigger? e.id = some g ∧ g.previous = some p ∧
    (Pattern.stars? scope p lastReply).isSome
  matched : e.Matches scope message

theorem afterReply?_eq_some {e : Entry} {f : Found} :
    s.afterReply? scope message lastReply e = some f ↔ ∃ g p botstars stars,
      s.trigger? e.id = some g ∧ g.previous = some p ∧
        Pattern.stars? scope p lastReply = some botstars ∧
          Pattern.stars? scope e.pattern message = some stars ∧
            f = { id := e.id, stars, botstars, viaPrevious := true } := by
  simp only [afterReply?, bind, pure, Option.bind_eq_some_iff, Option.some_inj]
  constructor
  · rintro ⟨p, ⟨g, hg, hp⟩, b, hb, t, ht, rfl⟩
    exact ⟨g, p, b, t, hg, hp, hb, ht, rfl⟩
  · rintro ⟨g, p, b, t, hg, hp, hb, ht, rfl⟩
    exact ⟨p, ⟨g, hg, hp⟩, b, hb, t, ht, rfl⟩

theorem afterReply?_bare {e : Entry} : (s.afterReply? scope message lastReply e.bare).isSome ↔
    s.Follows scope message lastReply e := by
  rw [Option.isSome_iff_exists]
  constructor
  · rintro ⟨f, hf⟩
    obtain ⟨g, p, b, t, hg, hp, hb, ht, -⟩ := afterReply?_eq_some.1 hf
    exact ⟨⟨g, p, hg, hp, by rw [hb]; rfl⟩, by rw [Entry.Matches, ht]; rfl⟩
  · rintro ⟨⟨g, p, hg, hp, hb⟩, ht⟩
    obtain ⟨b, hb⟩ := Option.isSome_iff_exists.1 hb
    obtain ⟨t, ht⟩ := Option.isSome_iff_exists.1 ht
    exact ⟨_, afterReply?_eq_some.2 ⟨g, p, b, t, hg, hp, hb, ht, rfl⟩⟩

end Script

/-! ## Tables of lists -/

theorem Table.find?_ofKeys {α β : Type} (t : Table α) (f : String → β) (k : String) :
    (t.ofKeys f).find? k = (t.find? k).map fun _ => f k :=
  Table.lookup_map (fun k _ => f k) k t.entries

theorem Topics.collect_unknown {ts : Topics} {keep : TriggerId → Trigger → Bool} {n level : Nat}
    {name : String} {inherited : Bool} (h : ts.find? name = none) :
    ts.collect keep n name level inherited = [] := by
  cases n with
  | zero => rfl
  | succ n => rw [Topics.collect, h]

namespace TrialOrder

variable (ts : Topics) (index : PreviousIndex) (limit : Nat) (name : String)

theorem ordinary_build : ((build ts index limit).ordinary.find? name).getD [] =
    Entry.sort (ts.ordinary limit name) := by
  rw [build, Table.find?_ofKeys]
  cases h : ts.find? name with
  | some t => rfl
  | none =>
    rw [Topics.ordinary, Topics.collect_unknown h]
    simp [Entry.sort]

theorem previous_build : ((build ts index limit).previous.find? name).getD [] =
    Entry.sort (ts.previous index limit name) := by
  rw [build, Table.find?_ofKeys]
  cases h : ts.find? name with
  | some t => rfl
  | none =>
    rw [Topics.previous, Topics.collect_unknown h]
    simp [Entry.sort]

end TrialOrder

namespace Script

variable {s : Script} {order : TrialOrder} {vars : Table String} {user : UserData}
  {message : Text} {topic : String} {depth : Nat}

/-- The last reply in the form in which it is compared. -/
def lastReply (s : Script) (user : UserData) : Text :=
  s.normalize true (user.history.nthReply 1).toList

/-- The entries that follow a reply, of a topic and all topics it draws on, before they are
sorted. -/
def entriesAfterReply (s : Script) (topic : String) : List Entry :=
  (s.topics.tree s.depth topic).flatMap (s.topics.previous s.previous s.depth)

/-- What is found among the triggers that follow a reply. -/
def foundAfterReply (s : Script) (vars : Table String) (user : UserData) (message : Text)
    (topic : String) : Option Found :=
  ((s.topics.tree s.depth topic).flatMap fun name =>
    Entry.sort (s.topics.previous s.previous s.depth name)).findSome?
      (s.afterReply? (s.scope vars user) message (s.lastReply user))

/-- What is found among the ordinary triggers. -/
def foundOrdinary (s : Script) (vars : Table String) (user : UserData) (message : Text)
    (topic : String) : Option Found :=
  (Entry.sort (s.topics.ordinary s.depth topic)).findSome? (ordinary? (s.scope vars user) message)

/-- The search looks among the triggers that follow a reply, at depth zero, and then among the
ordinary ones. -/
theorem findMatch_eq (h : s.Current) (ho : s.order = some order) :
    (s.findMatch order vars user message topic depth).1 =
      ((if depth = 0 then s.foundAfterReply vars user message topic else none) <|>
        s.foundOrdinary vars user message topic) := by
  obtain rfl := h.order order ho
  rw [findMatch]
  simp only [TrialOrder.ordinary_build, afterReplyEntries, TrialOrder.previous_build]
  rw [foundAfterReply, foundOrdinary, ← firstFound_eq, ← firstFound_eq, lastReply]
  by_cases hd : depth = 0
  · simp only [hd, if_true]
    generalize firstFound (s.afterReply? _ _ _) _ = r
    obtain ⟨found, n⟩ := r
    cases found <;> rfl
  · simp only [hd, if_false]
    rfl

/-! ## What is found -/

theorem foundOrdinary_spec (s : Script) (vars : Table String) (user : UserData) (message : Text)
    (topic : String) :
    (s.foundOrdinary vars user message topic = none ↔
      ∀ e ∈ s.topics.ordinary s.depth topic, ¬e.Matches (s.scope vars user) message) ∧
    ∀ f, s.foundOrdinary vars user message topic = some f →
      ∃ e i, Entry.IsFirst (s.topics.ordinary s.depth topic)
          (Entry.Matches (s.scope vars user) message) e i ∧
        f.id = e.id ∧ f.viaPrevious = false ∧
        Pattern.stars? (s.scope vars user) e.bare.pattern message = some f.stars := by
  have hmatches (e : Entry) : (ordinary? (s.scope vars user) message e.bare).isSome ↔
      e.Matches (s.scope vars user) message := by
    rw [ordinary?, Option.isSome_map]
    rfl
  obtain ⟨hnone, hsome⟩ := Entry.findSome?_sort (ordinary? (s.scope vars user) message)
    (s.topics.ordinary s.depth topic)
  constructor
  · rw [foundOrdinary, hnone]
    simp only [← hmatches, Option.not_isSome_iff_eq_none]
  · intro f hf
    obtain ⟨e, i, hfirst, he⟩ := hsome f hf
    simp only [hmatches] at hfirst
    obtain ⟨stars, hstars, rfl⟩ := Option.map_eq_some_iff.1 he
    exact ⟨e, i, hfirst, rfl, rfl, hstars⟩

theorem foundAfterReply_isSome {e : Entry} (he : e ∈ s.entriesAfterReply topic)
    (h : s.Follows (s.scope vars user) message (s.lastReply user) e) :
    (s.foundAfterReply vars user message topic).isSome := by
  obtain ⟨name, hname, he⟩ := List.mem_flatMap.1 he
  rw [← Option.ne_none_iff_isSome]
  intro hnone
  rw [foundAfterReply, List.findSome?_eq_none_iff] at hnone
  have hsort := (Entry.findSome?_sort (s.afterReply? (s.scope vars user) message
    (s.lastReply user)) (s.topics.previous s.previous s.depth name)).1.1 <|
      List.findSome?_eq_none_iff.2 fun d hd => hnone d (List.mem_flatMap.2 ⟨name, hname, hd⟩)
  have hfollows := afterReply?_bare.2 h
  rw [hsort e he] at hfollows
  exact Bool.false_ne_true hfollows

theorem foundAfterReply_spec {f : Found} (h : s.foundAfterReply vars user message topic = some f) :
    f.viaPrevious = true ∧ ∃ g p, s.trigger? f.id = some g ∧ g.previous = some p ∧
      (Pattern.stars? (s.scope vars user) p (s.lastReply user)).isSome := by
  rw [foundAfterReply] at h
  obtain ⟨e, -, he⟩ := List.exists_of_findSome?_eq_some h
  obtain ⟨g, p, b, t, hg, hp, hb, -, rfl⟩ := afterReply?_eq_some.1 he
  exact ⟨rfl, g, p, hg, hp, by rw [hb]; rfl⟩

/-- Where no trigger that a topic draws on follows a reply, none is found so. -/
theorem foundAfterReply_eq_none
    (h : ∀ id g, s.topics.DrawsOn topic id.topic → s.trigger? id = some g → g.previous = none)
    (vars : Table String) (user : UserData) (message : Text) :
    s.foundAfterReply vars user message topic = none := by
  have hempty : ∀ name ∈ s.topics.tree s.depth topic,
      s.topics.previous s.previous s.depth name = [] := by
    intro name hname
    refine List.eq_nil_iff_forall_not_mem.2 fun e he => ?_
    have hdraws := (Topics.DrawsOn.self.of_mem_walk hname).of_mem_collect he
    obtain ⟨g, hs⟩ := Topics.mem_collect he
    have hkept := hs.kept
    rw [h e.id g hdraws hs.trigger] at hkept
    exact absurd hkept Bool.false_ne_true
  rw [foundAfterReply, List.findSome?_eq_none_iff]
  intro e he
  obtain ⟨name, hname, he⟩ := List.mem_flatMap.1 he
  rw [hempty name hname] at he
  simp [Entry.sort] at he

/-- A trigger that follows a reply is among the entries, or a later one with the same patterns
is. -/
theorem exists_entryAfterReply (h : s.Current) {name : String}
    (hname : name ∈ s.topics.tree s.depth topic) {t : Topic} (ht : s.topics.find? name = some t)
    {g : Trigger} (hg : g ∈ t.triggers) {p : String} (hp : g.previous = some p) :
    ∃ e ∈ s.entriesAfterReply topic, ∃ g', s.trigger? e.id = some g' ∧ g'.previous = some p ∧
      e.bare.pattern = String.ofList (Metadata.stripLevel g.pattern.toList) := by
  obtain ⟨i, hi⟩ := List.mem_iff_getElem?.1 hg
  obtain ⟨j, g', hj, hpat, hp', hfind⟩ := Topics.previousIndex_find? ht hi hp
  rw [← h.previous, ← hpat] at hfind
  obtain ⟨e, he, hs⟩ := @Topics.own_mem_collect s.topics
    (fun id g => g.previous.any fun p => s.previous.find? id.topic g.pattern p == some id)
    s.depth name t ht j g' hj (by simp [hp', hfind])
  refine ⟨e, List.mem_flatMap.2 ⟨name, hname, he⟩, g', hs.trigger, hp', ?_⟩
  rw [Entry.bare_pattern hs.pattern, hpat]

end Script

end Repartee
