import Mathlib.Data.List.Induction
import Repartee.Proofs.Brain.Fresh

/-!
# When a bot answers

* `Brain.Action.Loads`: an action by which a bot takes over a document.
* `Brain.SortedSince`: a run sorts the triggers, and nothing is loaded after that.
* `Brain.Serves`, `Brain.Refuses`: what a bot does that is ready, and one that is not.
* `Brain.isSome_order_act`: what one action does to the order of the triggers.
* **`Brain.serves_or_refuses`**: after a run a bot serves if the triggers are sorted since, and
  refuses otherwise.
-/

namespace Repartee

/-- Handing macros to their handlers leaves the order of the triggers alone. -/
theorem Script.order_loadObjects : ∀ (s : Script) (os : List ObjectMacro),
    (s.loadObjects os).2.order = s.order
  | _, [] => rfl
  | s, o :: os => by
    rw [loadObjects]
    cases s.handlers.find? o.language with
    | none => exact order_loadObjects s os
    | some h =>
      dsimp only
      cases h.load o.name o.code with
      | ok h => exact order_loadObjects _ os
      | error e =>
        dsimp only
        split
        · rfl
        · exact order_loadObjects s os

namespace Brain

variable {b : Brain} {xs : List Action} {x : Action}

/-! ## Runs -/

/-- The bot takes over the document of an action. -/
def Action.Loads (b : Brain) : Action → Prop
  | .load d => (b.load d).1 = none
  | .loadJson text => (b.loadJson text).1 = none
  | _ => False

/-- A run sorts the triggers at some point, and no action after that loads a document. -/
def SortedSince (b : Brain) (xs : List Action) : Prop :=
  ∃ before after, xs = before ++ .sort :: after ∧
    ∀ done y todo, after = done ++ y :: todo → ¬y.Loads (b.actAll (before ++ .sort :: done))

theorem not_sortedSince_nil : ¬b.SortedSince [] := by
  rintro ⟨before, after, h, -⟩
  exact absurd h.symm (List.append_ne_nil_of_right_ne_nil before (List.cons_ne_nil _ after))

/-- What the last action does to a run. -/
theorem sortedSince_concat : b.SortedSince (xs ++ [x]) ↔
    x = .sort ∨ b.SortedSince xs ∧ ¬x.Loads (b.actAll xs) := by
  constructor
  · rintro ⟨before, after, h, hlater⟩
    cases after using List.reverseRecOn with
    | nil => exact .inl (List.append_inj_right' h rfl |> List.singleton_inj.1)
    | append_singleton after y =>
      rw [← List.cons_append, ← List.append_assoc] at h
      obtain ⟨rfl, hy⟩ := List.append_inj' h rfl
      obtain rfl := List.singleton_inj.1 hy
      refine .inr ⟨⟨before, after, rfl, fun done z todo he => ?_⟩, hlater after x [] rfl⟩
      exact hlater done z (todo ++ [x]) (by rw [he, List.append_assoc, List.cons_append])
  · rintro (rfl | ⟨⟨before, after, rfl, hlater⟩, hx⟩)
    · exact ⟨xs, [], rfl, fun done y todo he => absurd he.symm (by simp)⟩
    · refine ⟨before, after ++ [x], by simp, fun done y todo he => ?_⟩
      cases todo using List.reverseRecOn with
      | nil =>
        obtain ⟨rfl, hy⟩ := List.append_inj' he rfl
        obtain rfl := List.singleton_inj.1 hy
        exact hx
      | append_singleton todo z =>
        rw [← List.cons_append, ← List.append_assoc] at he
        exact hlater done y todo (List.append_inj_left' he rfl)

/-! ## The order of the triggers -/

theorem order_load (b : Brain) (d : Document) :
    (b.load d).2.script.order = if (b.load d).1 = none then none else b.script.order := by
  have hobjects := b.script.order_loadObjects d.objects
  rw [load]
  generalize List.head? _ = problem
  cases problem with
  | some p => rfl
  | none =>
    generalize b.script.loadObjects d.objects = loaded at hobjects ⊢
    obtain ⟨_ | e, script⟩ := loaded
    · rfl
    · exact hobjects

theorem order_loadJson (b : Brain) (text : String) :
    (b.loadJson text).2.script.order =
      if (b.loadJson text).1 = none then none else b.script.order := by
  rw [loadJson]
  cases Document.read? text with
  | none => rfl
  | some d =>
    dsimp only
    rw [order_load]
    simp only [Option.map_eq_none_iff]

/-- The triggers are in order behind an action if it sorts them, or if they were before it and
nothing is loaded. -/
theorem isSome_order_act : (b.act x).script.order.isSome ↔
    x = .sort ∨ b.script.order.isSome ∧ ¬x.Loads b := by
  cases x with
  | sort => exact ⟨fun _ => .inl rfl, fun _ => rfl⟩
  | load d =>
    rw [act, order_load]
    by_cases h : (b.load d).1 = none <;> simp [Action.Loads, h]
  | loadJson text =>
    rw [act, order_loadJson]
    by_cases h : (b.loadJson text).1 = none <;> simp [Action.Loads, h]
  | reply user message scope => simp [act, reply_script, Action.Loads]
  | setHandler | setSubroutine | setVariable | setGlobal | setSubstitution | setPerson | setArray
  | changeSessions => exact ⟨fun h => .inr ⟨h, id⟩, fun h => (h.resolve_left (by simp)).1⟩

theorem actAll_concat (b : Brain) (xs : List Action) (x : Action) :
    b.actAll (xs ++ [x]) = (b.actAll xs).act x := by
  rw [actAll, List.foldl_append]
  rfl

/-- The triggers of a new bot are in order behind a run if they are sorted since. -/
theorem isSome_order_actAll (options : Options) (sessions : SessionStore) (host : Host)
    (xs : List Action) : ((Brain.new options sessions host).actAll xs).script.order.isSome ↔
      (Brain.new options sessions host).SortedSince xs := by
  induction xs using List.reverseRecOn with
  | nil => exact ⟨fun h => absurd h Bool.false_ne_true, fun h => absurd h not_sortedSince_nil⟩
  | append_singleton xs x ih => rw [actAll_concat, isSome_order_act, ih, sortedSince_concat]

/-! ## Answers and refusals -/

/-- A bot has an answer to every message and a list of triggers for every user. -/
structure Serves (b : Brain) : Prop where
  reply : ∀ user message scope, ∃ r b', b.reply user message scope = (.ok r, b')
  triggers : ∀ user, ∃ patterns, b.userTopicTriggers user = .ok patterns

/-- A bot refuses every message and every list of triggers because nothing is sorted, and keeps
its sessions, as all else. -/
structure Refuses (b : Brain) : Prop where
  reply : ∀ user message scope, (b.reply user message scope).1 = .error .notSorted
  triggers : ∀ user, b.userTopicTriggers user = .error .notSorted
  unchanged : ∀ user message scope, (b.reply user message scope).2 = b

theorem serves_of_order (h : b.script.order.isSome) : b.Serves := by
  obtain ⟨o, ho⟩ := Option.isSome_iff_exists.1 h
  refine ⟨fun user message scope => ?_, fun user => ?_⟩
  · rw [Brain.reply, ho]
    exact ⟨_, _, rfl⟩
  · rw [userTopicTriggers, ho]
    exact ⟨_, rfl⟩

theorem refuses_of_order (h : b.script.order = none) : b.Refuses := by
  have hreply (user message : String) (scope : Option Scope) :
      b.reply user message scope = (.error .notSorted, b) := by
    rw [Brain.reply, h]
  refine ⟨fun _ _ _ => by rw [hreply], fun user => ?_, fun _ _ _ => by rw [hreply]⟩
  rw [userTopicTriggers, h]

/-- **After any run a bot serves if its triggers are sorted since, and refuses otherwise.** -/
theorem serves_or_refuses (options : Options) (sessions : SessionStore) (host : Host)
    (xs : List Action) :
    let b := Brain.new options sessions host
    b.SortedSince xs ∧ (b.actAll xs).Serves ∨ ¬b.SortedSince xs ∧ (b.actAll xs).Refuses := by
  intro b
  have hiff := isSome_order_actAll options sessions host xs
  by_cases h : b.SortedSince xs
  · exact .inl ⟨h, serves_of_order (hiff.2 h)⟩
  · exact .inr ⟨h, refuses_of_order (Option.not_isSome_iff_eq_none.1 (mt hiff.1 h))⟩

end Brain

end Repartee
