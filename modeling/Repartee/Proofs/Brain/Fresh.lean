import Repartee.Proofs.Script.Match
import Repartee.Proofs.Session.Cell

/-!
# The order of triggers is never out of date

* `Brain.Action`, `Brain.act`: what a host does with a bot.
* `Brain.Reachable.act`: it leads from reachable bots to reachable ones.
* `Script.Fresh`: what is derived from the topics of a script is that of the topics it has now, and
  the entries are those of its triggers.
* `Script.Current.fresh`: a current script is fresh.
* **`Brain.fresh_actAll`**: so is the script of a bot after any actions of its host.
-/

namespace Repartee

/-! ## Hosts -/

namespace Brain

/-- What a host does with a bot. -/
inductive Action where
  | load (d : Document)
  | loadJson (text : String)
  | sort
  | reply (user message : String) (scope : Option Scope)
  | setHandler (language : String) (h : Option Handler)
  | setSubroutine (name : String) (f : Subroutine)
  | setVariable (name : String) (value : Option String)
  | setGlobal (name : String) (value : Option String)
  | setSubstitution (phrase : String) (replacement : Option String)
  | setPerson (phrase : String) (replacement : Option String)
  | setArray (name : String) (items : Option (List String))
  | changeSessions (c : SessionStore.Change)

/-- The bot after an action, also after one that fails. -/
def act (b : Brain) : Action → Brain
  | .load d => (b.load d).2
  | .loadJson text => (b.loadJson text).2
  | .sort => b.sort
  | .reply user message scope => (b.reply user message scope).2
  | .setHandler language h => b.setHandler language h
  | .setSubroutine name f => b.setSubroutine name f
  | .setVariable name value => b.setVariable name value
  | .setGlobal name value => b.setGlobal name value
  | .setSubstitution phrase replacement => b.setSubstitution phrase replacement
  | .setPerson phrase replacement => b.setPerson phrase replacement
  | .setArray name items => b.setArray name items
  | .changeSessions c => { b with sessions := (b.sessions.perform c).2 }

/-- The bot after some actions. -/
def actAll (b : Brain) (xs : List Action) : Brain := xs.foldl act b

theorem Reachable.loadJson {b : Brain} (h : b.Reachable) (text : String) :
    (b.loadJson text).2.Reachable := by
  rw [Brain.loadJson]
  cases Document.read? text with
  | none => exact h
  | some d => exact h.load d

/-- An action leads from a reachable bot to a reachable one. -/
theorem Reachable.act {b : Brain} (h : b.Reachable) (x : Action) : (b.act x).Reachable := by
  cases x with
  | load d => exact h.load d
  | loadJson text => exact h.loadJson text
  | sort => exact h.sort
  | reply user message scope => exact h.reply user message scope
  | setHandler language handler => exact h.setHandler language handler
  | setSubroutine name f => exact h.setSubroutine name f
  | setVariable name value => exact h.setVariable name value
  | setGlobal name value => exact h.setGlobal name value
  | setSubstitution phrase replacement => exact h.setSubstitution phrase replacement
  | setPerson phrase replacement => exact h.setPerson phrase replacement
  | setArray name items => exact h.setArray name items
  | changeSessions c => exact h.setSessions _

/-- Any actions lead from a reachable bot to a reachable one. -/
theorem Reachable.actAll {b : Brain} (h : b.Reachable) (xs : List Action) :
    (b.actAll xs).Reachable := by
  induction xs generalizing b with
  | nil => exact h
  | cons x xs ih => exact ih (h.act x)

end Brain

namespace Script

/-- A list of entries is for triggers of the script of which some are kept. -/
def Lists (s : Script) (keep : Trigger → Prop) (lists : Table (List Entry)) : Prop :=
  ∀ name es, lists.find? name = some es → ∀ e ∈ es, ∃ g, s.trigger? e.id = some g ∧ keep g

/-- What is derived from the topics is that of the topics as they are. Every entry is for a trigger,
one without a previous pattern in the ordinary lists and one with it in the others. -/
structure Fresh (s : Script) : Prop extends Current s where
  ordinary : ∀ o, s.order = some o → s.Lists (fun g => g.previous = none) o.ordinary
  following : ∀ o, s.order = some o → s.Lists (fun g => g.previous.isSome) o.previous

variable {s : Script}

/-- Lists that are sorted from walks through the topics are for triggers that the walks keep. -/
theorem lists_ofKeys {keep : TriggerId → Trigger → Bool} {P : Trigger → Prop}
    (hkeep : ∀ id g, keep id g → P g) (n : Nat) :
    s.Lists P (s.topics.ofKeys fun name =>
      Entry.sort (s.topics.collect keep n name 0 false)) := by
  intro name es hes e he
  rw [Table.find?_ofKeys] at hes
  obtain ⟨t, -, rfl⟩ := Option.map_eq_some_iff.1 hes
  obtain ⟨d, hd, rfl⟩ := Entry.mem_sort.1 he
  obtain ⟨g, hg⟩ := Topics.mem_collect hd
  exact ⟨g, hg.trigger, hkeep _ g hg.kept⟩

/-- A current script is fresh. -/
theorem Current.fresh (h : s.Current) : s.Fresh := by
  refine ⟨h, fun o ho => ?_, fun o ho => ?_⟩
  · obtain rfl := h.order o ho
    exact lists_ofKeys (fun _ _ hg => Option.isNone_iff_eq_none.1 hg) (s.depth + 1)
  · obtain rfl := h.order o ho
    exact lists_ofKeys (fun _ _ hg => Option.isSome_of_any hg) (s.depth + 1)

end Script

namespace Brain

/-- **After any actions of its host the script of a bot is fresh.** -/
theorem fresh_actAll (options : Options) (sessions : SessionStore) (host : Host)
    (xs : List Action) : ((Brain.new options sessions host).actAll xs).script.Fresh :=
  ((Reachable.new options sessions host).actAll xs).current.fresh

end Brain

end Repartee
