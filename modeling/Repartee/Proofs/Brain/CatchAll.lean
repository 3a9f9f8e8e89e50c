import Repartee.Proofs.Brain.Bookkeeping
import Repartee.Proofs.Script.Match
import Repartee.Proofs.Script.Normal

/-!
# Catch-all triggers

A trigger whose pattern is a `*` but for tags and blanks matches every message of one line, and
normalized messages have one line. So every search in its topic finds a trigger.

* `Topic.CatchesAll`: a topic with such a trigger.
* `Script.findMatch_caught`: a search in the topic finds a trigger that is there.
* `Turn.Caught`, `ElementaryOn.caught`: every search in the topic so far has found one, as all
  computations of an answer keep it.
* **`Brain.reply_caught`**: the steps of every reply that search in the topic are matched.
-/

namespace Repartee

/-- A topic has a trigger that follows no reply and whose pattern is a `*` but for tags and
blanks. -/
def Topic.CatchesAll (t : Topic) : Prop :=
  ∃ g ∈ t.triggers, g.previous = none ∧ Metadata.strip g.pattern.toList = ['*']

instance (t : Topic) : Decidable t.CatchesAll :=
  inferInstanceAs (Decidable (∃ g ∈ t.triggers, _))

variable {s : Script} {order : TrialOrder} {a : Speaker} {name : String} {t : Topic}
  {message : Text}

/-! ## The search -/

namespace Script

/-- Among the ordinary entries of the topic is one that matches. -/
theorem exists_matches (ht : s.topics.find? name = some t) (hc : t.CatchesAll)
    (hm : '\n' ∉ message) (scope : Pattern.Scope) :
    ∃ e ∈ s.topics.ordinary s.depth name, e.Matches scope message := by
  obtain ⟨g, hg, hprevious, hstrip⟩ := hc
  obtain ⟨i, hi⟩ := List.mem_iff_getElem?.1 hg
  obtain ⟨e, he, hs⟩ := @Topics.own_mem_collect s.topics (fun _ g => g.previous.isNone) s.depth
    name t ht i g hi (by rw [hprevious]; rfl)
  refine ⟨e, he, ?_⟩
  rw [Entry.Matches, Entry.bare_pattern hs.pattern,
    Pattern.stars?_loneWild_stripLevel scope hstrip hm]
  rfl

/-- A search in the topic finds a trigger that is there, whatever follows the last reply. -/
theorem findMatch_caught (h : s.Current) (ho : s.order = some order)
    (ht : s.topics.find? name = some t) (hc : t.CatchesAll) (hm : '\n' ∉ message)
    (vars : Table String) (user : UserData) (depth : Nat) :
    ∃ f g, (s.findMatch order vars user message name depth).1 = some f ∧
      s.trigger? f.id = some g := by
  obtain ⟨hnone, hsome⟩ := foundOrdinary_spec s vars user message name
  have hordinary : ∃ f g, s.foundOrdinary vars user message name = some f ∧
      s.trigger? f.id = some g := by
    cases hfound : s.foundOrdinary vars user message name with
    | none =>
      obtain ⟨e, he, hmatches⟩ := exists_matches ht hc hm (s.scope vars user)
      exact absurd hmatches (hnone.1 hfound e he)
    | some f =>
      obtain ⟨e, i, hfirst, hid, -⟩ := hsome f hfound
      obtain ⟨g, hs⟩ := Topics.mem_collect (List.mem_of_getElem? hfirst.here)
      exact ⟨f, g, rfl, hid ▸ hs.trigger⟩
  rw [findMatch_eq h ho]
  by_cases hd : depth = 0
  · rw [if_pos hd]
    cases hfound : s.foundAfterReply vars user message name with
    | none => exact hordinary
    | some f =>
      obtain ⟨-, g, p, hg, -⟩ := foundAfterReply_spec hfound
      exact ⟨f, g, rfl, hg⟩
  · rw [if_neg hd]
    exact hordinary

end Script

/-! ## Steps -/

/-- Every step that searched in a topic is matched. -/
def Turn.Caught (name : String) (t : Turn) : Prop :=
  ∀ step ∈ t.steps, step.topic = name → step.matched.isSome

/-- All computations of an answer keep it so, as they search for normalized messages only. -/
theorem ElementaryOn.caught (h : s.Current) (ho : s.order = some order)
    (ht : s.topics.find? name = some t) (hc : t.CatchesAll) :
    ElementaryOn (fun message => '\n' ∉ message) (fun t₁ t₂ => t₁ = t₂ ∧ t₁.Caught name) s order
      a where
  toPassive := .ofRecords fun t u hsteps _ _ _ hcaught => by
    rw [Turn.Caught, hsteps]
    exact hcaught
  normalized _ := Script.notMem_normalize (by decide) (by decide) (.inl rfl)
  search depth kind data topic message hm := Talk.respects_iff_keeps.2 fun t hcaught => by
    intro step hstep htopic
    rcases List.mem_append.1 hstep with hstep | hstep
    · exact hcaught step hstep htopic
    · -- the step that is new
      obtain rfl := List.mem_singleton.1 hstep
      obtain rfl : topic = name := htopic
      obtain ⟨f, g, hf, hg⟩ := Script.findMatch_caught h ho ht hc hm t.vars data depth
      change (((s.findMatch order t.vars data message topic depth).1.bind fun f =>
        (s.trigger? f.id).map fun g => (f, g)).map (·.2.pattern)).isSome
      rw [hf, Option.bind_some, hg]
      rfl

namespace Brain

variable {b : Brain}

/-- **A catch-all catches all.** However a reply comes about, by whatever redirects, its steps that
search in a topic with a catch-all trigger are matched. The script is that of any bot that can come
about. -/
theorem reply_caught (h : b.script.Current) (ho : b.script.order = some order)
    (ht : b.script.topics.find? name = some t) (hc : t.CatchesAll) (user message : String)
    (scope : Option Scope) : ∃ r b', b.reply user message scope = (.ok r, b') ∧
      ∀ step ∈ r.steps, step.topic = name → step.matched.isSome := by
  have hcaught := ElementaryOn.caught (a := ⟨user, scope⟩) h ho ht hc
  have hanswer := hcaught.answer (by decide) (hcaught.normalized message.toList)
  have hkept := Talk.respects_iff_keeps.1 hanswer (b.turn user)
    fun step hstep => absurd hstep List.not_mem_nil
  simp only [reply, ho]
  exact ⟨_, _, rfl, hkept⟩

/-- A topic with a catch-all trigger and one that matches nothing. -/
def lodge : Topic :=
  { name := "lodge"
    triggers := [
      { pattern := "(", replies := ["never"], previous := some "yes" },
      { pattern := " \x7bweight=2\x7d * ", replies := ["yes"] }] }

/-- A bot that answers with an inline redirect into this topic. -/
def usher : Brain :=
  ((Brain.new { strict := false } .new).load
    { topics := [lodge, {
        name := "random"
        triggers := [
          { pattern := "knock", replies := ["\x7btopic=lodge\x7d\x7b@?\n!\x7d"] }] }] }).2.sort

/-- The redirect has no words left, and is caught. -/
theorem usher_reply_caught : usher.script.Current ∧
    usher.script.topics.find? "lodge" = some lodge ∧ lodge.CatchesAll ∧
    ∃ r b', usher.reply "ann" "Knock!" = (.ok r, b') ∧
      r.steps.map (fun step => (step.topic, step.message)) = [("random", "knock"), ("lodge", "")] ∧
      ∀ step ∈ r.steps, step.topic = "lodge" → step.matched.isSome := by
  have hcurrent : usher.script.Current := (Reachable.sort (.load _ (.new _ .new _))).current
  have hlodge : usher.script.topics.find? "lodge" = some lodge := rfl
  have hcatches : lodge.CatchesAll := by decide
  have hsteps : (usher.reply "ann" "Knock!").1.toOption.map
      (·.steps.map fun step => (step.topic, step.message)) =
        some [("random", "knock"), ("lodge", "")] := by
    decide +kernel
  obtain ⟨r, b', hr, hcaught⟩ := reply_caught hcurrent rfl hlodge hcatches "ann" "Knock!" none
  rw [hr] at hsteps
  exact ⟨hcurrent, hlodge, hcatches, r, b', hr, Option.some_inj.1 hsteps, hcaught⟩

end Brain

end Repartee
