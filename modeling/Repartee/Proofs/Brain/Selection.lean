import Repartee.Proofs.Script.Match

/-!
# The trigger that is selected

* `Script.Selects`: what the search for a trigger promises.
* `Script.selects_foundAfterReply`, `Script.selects_foundOrdinary`: both halves of the search keep
  it.
* **`Brain.selects_findMatch`**: the search of every bot whose triggers are sorted keeps it.
-/

namespace Repartee

/-- What the search for a trigger promises of what it finds for a user, a message, a topic and a
depth. -/
structure Script.Selects (s : Script) (vars : Table String) (user : UserData) (message : Text)
    (topic : String) (depth : Nat) (found : Option Found) : Prop where
  /-- Unless a trigger follows the last reply, nothing is found exactly when no entry matches. -/
  complete : (∀ f, found = some f → f.viaPrevious = false) →
    (found = none ↔ ∀ e ∈ s.topics.ordinary s.depth topic,
      ¬e.Matches (s.scope vars user) message)
  /-- Otherwise the first of all entries that match is found. -/
  first : ∀ f, found = some f → f.viaPrevious = false →
    ∃ e i, Entry.IsFirst (s.topics.ordinary s.depth topic)
        (Entry.Matches (s.scope vars user) message) e i ∧
      f.id = e.id ∧ Pattern.stars? (s.scope vars user) e.bare.pattern message = some f.stars
  /-- A trigger with a previous pattern is found as such, at depth zero only, and the last reply
  matches. -/
  previous : ∀ f, found = some f → ∃ g, s.trigger? f.id = some g ∧
    f.viaPrevious = g.previous.isSome ∧ ∀ p, g.previous = some p →
      depth = 0 ∧ (Pattern.stars? (s.scope vars user) p (s.lastReply user)).isSome
  /-- An entry that follows the last reply and matches leaves no room for ordinary triggers. -/
  precedence : depth = 0 → ∀ e ∈ s.entriesAfterReply topic,
    s.Follows (s.scope vars user) message (s.lastReply user) e →
      ∃ f, found = some f ∧ f.viaPrevious = true
  /-- So does a trigger of the topic tree. -/
  precedenceOfTrigger : depth = 0 → ∀ name ∈ s.topics.tree s.depth topic, ∀ t,
    s.topics.find? name = some t → ∀ g ∈ t.triggers, ∀ p, g.previous = some p →
      (Pattern.stars? (s.scope vars user) p (s.lastReply user)).isSome →
        (Pattern.stars? (s.scope vars user)
          (String.ofList (Metadata.stripLevel g.pattern.toList)) message).isSome →
            ∃ f, found = some f ∧ f.viaPrevious = true

namespace Script

variable {s : Script} {vars : Table String} {user : UserData} {message : Text} {topic : String}
  {depth : Nat}

/-- A trigger of the topic tree that follows the last reply and matches is one of the entries, so
something is found. -/
theorem foundAfterReply_isSome_of_trigger (h : s.Current) {name : String}
    (hname : name ∈ s.topics.tree s.depth topic) {t : Topic} (ht : s.topics.find? name = some t)
    {g : Trigger} (hg : g ∈ t.triggers) {p : String} (hp : g.previous = some p)
    (hreply : (Pattern.stars? (s.scope vars user) p (s.lastReply user)).isSome)
    (hmatch : (Pattern.stars? (s.scope vars user)
      (String.ofList (Metadata.stripLevel g.pattern.toList)) message).isSome) :
    (s.foundAfterReply vars user message topic).isSome := by
  obtain ⟨e, he, g', hg', hp', hbare⟩ := exists_entryAfterReply h hname ht hg hp
  have hmatches : e.Matches (s.scope vars user) message := by
    rw [Entry.Matches, hbare]
    exact hmatch
  exact foundAfterReply_isSome he ⟨⟨g', p, hg', hp', hreply⟩, hmatches⟩

/-- What follows the last reply may be found at depth zero. -/
theorem selects_foundAfterReply (hd : depth = 0) {f : Found}
    (hf : s.foundAfterReply vars user message topic = some f) :
    s.Selects vars user message topic depth (some f) := by
  obtain ⟨hvia, g, p, hg, hp, hb⟩ := foundAfterReply_spec hf
  refine ⟨fun hall => ?_, ?_, ?_, fun _ _ _ _ => ⟨f, rfl, hvia⟩,
    fun _ _ _ _ _ _ _ _ _ _ _ => ⟨f, rfl, hvia⟩⟩
  · rw [hall f rfl] at hvia
    exact absurd hvia Bool.false_ne_true
  · rintro _ ⟨rfl⟩ hfalse
    rw [hfalse] at hvia
    exact absurd hvia Bool.false_ne_true
  · rintro _ ⟨rfl⟩
    refine ⟨g, hg, by rw [hvia, hp]; rfl, fun p' hp' => ⟨hd, ?_⟩⟩
    obtain rfl : p = p' := Option.some_inj.1 (hp.symm.trans hp')
    exact hb

/-- Where nothing follows the last reply, the first ordinary entry that matches may be found. -/
theorem selects_foundOrdinary (h : s.Current)
    (hnone : depth = 0 → s.foundAfterReply vars user message topic = none) :
    s.Selects vars user message topic depth (s.foundOrdinary vars user message topic) := by
  obtain ⟨hall, hsome⟩ := foundOrdinary_spec s vars user message topic
  have hnothing (hd : depth = 0) : ¬(s.foundAfterReply vars user message topic).isSome := by
    rw [hnone hd]
    exact Bool.false_ne_true
  refine ⟨fun _ => hall, fun f hf _ => ?_, fun f hf => ?_, fun hd e he hfollows => ?_,
    fun hd name hname t ht g hg p hp hreply hmatch => ?_⟩
  · obtain ⟨e, i, hfirst, hid, -, hstars⟩ := hsome f hf
    exact ⟨e, i, hfirst, hid, hstars⟩
  · -- the triggers of ordinary entries have no previous pattern
    obtain ⟨e, i, hfirst, hid, hvia, -⟩ := hsome f hf
    obtain ⟨g, hs⟩ := Topics.mem_collect (List.mem_of_getElem? hfirst.here)
    have hg : g.previous = none := Option.isNone_iff_eq_none.1 hs.kept
    refine ⟨g, hid ▸ hs.trigger, by rw [hvia, hg]; rfl, fun p hp => ?_⟩
    rw [hg] at hp
    cases hp
  · exact absurd (foundAfterReply_isSome he hfollows) (hnothing hd)
  · exact absurd (foundAfterReply_isSome_of_trigger h hname ht hg hp hreply hmatch) (hnothing hd)

end Script

namespace Brain

variable {b : Brain} {order : TrialOrder}

/-- **The search of a bot whose triggers are sorted selects the first trigger that matches.** -/
theorem selects_findMatch (h : b.Reachable) (ho : b.script.order = some order)
    (vars : Table String) (user : UserData) (message : Text) (topic : String) (depth : Nat) :
    b.script.Selects vars user message topic depth
      (b.script.findMatch order vars user message topic depth).1 := by
  rw [Script.findMatch_eq h.current ho]
  by_cases hd : depth = 0
  · rw [if_pos hd]
    cases hfound : b.script.foundAfterReply vars user message topic with
    | some f => exact Script.selects_foundAfterReply hd hfound
    | none => exact Script.selects_foundOrdinary h.current fun _ => hfound
  · rw [if_neg hd]
    exact Script.selects_foundOrdinary h.current fun h => absurd h hd

/-- A bot with two triggers, of which the heavier one stands behind. -/
def greeter : Brain :=
  ((Brain.new {} .new).load
    { topics := [{
        name := "random"
        triggers := [
          { pattern := "hello *", replies := ["hi"] },
          { pattern := "\x7bweight=2\x7d* bot", replies := ["yes"] }] }] }).2.sort

/-- The search keeps its promise where both triggers match. -/
theorem greeter_findMatch : greeter.Reachable ∧
    ∃ order, greeter.script.order = some order ∧
      greeter.script.Selects ∅ {} "hello bot".toList "random" 0
        (greeter.script.findMatch order ∅ {} "hello bot".toList "random" 0).1 :=
  ⟨.sort (.load _ (.new {} .new {})), _, rfl,
    selects_findMatch (.sort (.load _ (.new {} .new {}))) rfl ∅ {} "hello bot".toList "random" 0⟩

end Brain

end Repartee
