import Repartee.Session.Store

/-!
# What a store is to one user

A store that keeps data is to each of its users a machine with two cells, one for the data and one
for the frozen copy. Changes for other users do not reach it.

* `SessionStore.Change`, `SessionStore.perform`: a change of a store, and why it was refused.
* `UserData.Merges`: data after a patch.
* `Cell.Step`, `Cell.Run`: the machine of a user.
* `Cell.Step.unique`: it has one way to go on.
* `SessionStore.step_perform`, `SessionStore.cell_perform`: a change is a step of the machines of
  the users it is for, and leaves the others alone.
* **`SessionStore.runs_as_cells`**: a run of changes is a run of each user's machine.
-/

namespace Repartee

/-! ## Changes -/

/-- A change of what is kept of one user. -/
inductive Command where
  | set (p : SessionPatch)
  | reset
  | freeze
  | thaw (action : ThawAction)

namespace SessionStore

/-- A change of a store. -/
inductive Change where
  | of (user : String) (c : Command)
  | resetAll

/-- What a change asks of the machine of a user. -/
def Change.command? (user : String) : Change → Option Command
  | of u c => if u = user then some c else none
  | resetAll => some .reset

/-- The store that a change ends with, which is the old one where the change is refused. -/
def settle (s : SessionStore) : Except StoreError SessionStore → Option StoreError × SessionStore
  | .ok s' => (none, s')
  | .error e => (some e, s)

/-- Carry out a change. -/
def perform (s : SessionStore) : Change → Option StoreError × SessionStore
  | .of user (.set p) => (none, s.set user p)
  | .of user .reset => (none, s.reset user)
  | .of user .freeze => s.settle (s.freeze user)
  | .of user (.thaw action) => s.settle (s.thaw user action)
  | .resetAll => (none, s.resetAll)

/-- Carry out changes in order. -/
def performAll (s : SessionStore) : List Change → List (Option StoreError) × SessionStore
  | [] => ([], s)
  | c :: cs =>
    let (e, s) := s.perform c
    let (es, s) := performAll s cs
    (e :: es, s)

/-- The changes of a run that are for a user. -/
def commandsFor (user : String) (cs : List Change) : List Command :=
  cs.filterMap (·.command? user)

/-- The outcomes of the changes that are for a user. -/
def outcomesFor (user : String) (cs : List Change) (es : List (Option StoreError)) :
    List (Option StoreError) :=
  ((cs.zip es).filter fun r => (r.1.command? user).isSome).map (·.2)

end SessionStore

/-! ## Patches -/

/-- Data after a patch: what the patch mentions is set or deleted, all else is left. -/
structure UserData.Merges (old : UserData) (p : SessionPatch) (new : UserData) : Prop where
  var : ∀ name, new.vars.find? name = (p.vars.find? name).getD (old.vars.find? name)
  history : new.history = p.history.getD old.history
  lastMatch : new.lastMatch = p.lastMatch.getD old.lastMatch
  initialMatch : new.initialMatch = p.initialMatch.getD old.initialMatch
  lastTriggers : new.lastTriggers = p.lastTriggers.getD old.lastTriggers

theorem UserData.merges_apply (u : UserData) (p : SessionPatch) : u.Merges p (u.apply p) :=
  ⟨fun name => Table.find?_foldl_assign name p.vars.sorted u.vars, rfl, rfl, rfl, rfl⟩

theorem UserData.Merges.unique {old new new' : UserData} {p : SessionPatch}
    (h : old.Merges p new) (h' : old.Merges p new') : new = new' := by
  cases new
  cases new'
  have hvars := Table.ext fun name => (h.var name).trans (h'.var name).symm
  obtain ⟨-, rfl, rfl, rfl, rfl⟩ := h
  obtain ⟨-, rfl, rfl, rfl, rfl⟩ := h'
  exact congrArg (UserData.mk · _ _ _ _) hvars

/-! ## The machine of a user -/

/-- What is kept of one user. -/
structure Cell where
  data : Option UserData
  snapshot : Option UserData

namespace Cell

/-- What a command does, and why it is refused. -/
inductive Step (user : String) : Cell → Command → Option StoreError → Cell → Prop
  | set {data snapshot : Option UserData} {p : SessionPatch} {new : UserData} :
    (data.getD {}).Merges p new → Step user ⟨data, snapshot⟩ (.set p) none ⟨some new, snapshot⟩
  | reset {data snapshot : Option UserData} :
    Step user ⟨data, snapshot⟩ .reset none ⟨none, none⟩
  | freeze {data : UserData} {snapshot : Option UserData} :
    Step user ⟨some data, snapshot⟩ .freeze none ⟨some data, some data⟩
  | unknown {snapshot : Option UserData} :
    Step user ⟨none, snapshot⟩ .freeze (some (.userNotFound user)) ⟨none, snapshot⟩
  | thaw {data : Option UserData} {copy : UserData} :
    Step user ⟨data, some copy⟩ (.thaw .thaw) none ⟨some copy, none⟩
  | discard {data : Option UserData} {copy : UserData} :
    Step user ⟨data, some copy⟩ (.thaw .discard) none ⟨data, none⟩
  | keep {data : Option UserData} {copy : UserData} :
    Step user ⟨data, some copy⟩ (.thaw .keep) none ⟨some copy, some copy⟩
  | notFrozen {data : Option UserData} {action : ThawAction} :
    Step user ⟨data, none⟩ (.thaw action) (some (.noFrozenSnapshot user)) ⟨data, none⟩

/-- The machine has one way to go on. -/
theorem Step.unique {user : String} {cell after after' : Cell} {c : Command}
    {e e' : Option StoreError} (h : Step user cell c e after) (h' : Step user cell c e' after') :
    e = e' ∧ after = after' := by
  cases h with
  | set hnew =>
    cases h' with
    | set hnew' => rw [hnew.unique hnew']; exact ⟨rfl, rfl⟩
  | reset | freeze | unknown | thaw | discard | keep | notFrozen => cases h'; exact ⟨rfl, rfl⟩

/-- What commands do one after the other. -/
inductive Run (user : String) : Cell → List Command → List (Option StoreError) → Cell → Prop
  | nil (cell : Cell) : Run user cell [] [] cell
  | cons {cell next after : Cell} {c : Command} {e : Option StoreError} {cs : List Command}
    {es : List (Option StoreError)} : Step user cell c e next → Run user next cs es after →
      Run user cell (c :: cs) (e :: es) after

end Cell

/-! ## Stores -/

namespace SessionStore

/-- What a store keeps of a user. -/
def cell (user : String) : SessionStore → Cell
  | memory users frozen => ⟨users.find? user, frozen.find? user⟩
  | forgetful => ⟨none, none⟩

/-- A frozen copy is thawed in two steps: it is taken out of the store, unless it is to be kept,
and only then it is seen whether there was one. -/
def takeAndThaw (user : String) (action : ThawAction) :
    SessionStore → Option StoreError × SessionStore
  | memory users frozen =>
    let left := if action = .keep then frozen else frozen.erase user
    match frozen.find? user with
    | none => (some (.noFrozenSnapshot user), memory users left)
    | some copy => (none, memory (if action = .discard then users else users.insert user copy) left)
  | forgetful => (none, forgetful)

variable {users frozen : Table UserData} {user : String}

/-- A store that keeps data goes on doing so. -/
theorem perform_memory (c : Change) :
    ∃ users' frozen', ((memory users frozen).perform c).2 = memory users' frozen' := by
  cases c with
  | resetAll => exact ⟨_, _, rfl⟩
  | of u c =>
    cases c with
    | set | reset => exact ⟨_, _, rfl⟩
    | freeze =>
      rw [perform, freeze]
      cases users.find? u <;> exact ⟨_, _, rfl⟩
    | thaw action =>
      rw [perform, thaw.eq_def]
      dsimp only
      cases frozen.find? u <;> cases action <;> exact ⟨_, _, rfl⟩

/-- A change that is for a user is a step of the user's machine. -/
theorem step_perform {c : Change} {command : Command} (h : c.command? user = some command) :
    Cell.Step user ((memory users frozen).cell user) command ((memory users frozen).perform c).1
      (((memory users frozen).perform c).2.cell user) := by
  cases c with
  | resetAll =>
    cases h
    exact .reset
  | of u c =>
    obtain ⟨rfl, hc⟩ := Option.ite_none_right_eq_some.1 h
    obtain rfl := Option.some_inj.1 hc
    cases c with
    | set p =>
      rw [perform, set, cell, cell, Table.find?_insert, if_pos rfl]
      exact .set (UserData.merges_apply _ p)
    | reset =>
      rw [perform, reset, cell, cell, Table.find?_erase, Table.find?_erase, if_pos rfl, if_pos rfl]
      exact .reset
    | freeze =>
      rw [perform, freeze, cell]
      cases hu : users.find? u with
      | none =>
        rw [settle, cell, hu]
        exact .unknown
      | some data =>
        rw [settle, cell, hu, Table.find?_insert, if_pos rfl]
        exact .freeze
    | thaw action =>
      rw [perform, thaw.eq_def, cell]
      dsimp only
      cases hf : frozen.find? u with
      | none =>
        rw [settle, cell, hf]
        exact .notFrozen
      | some copy =>
        cases action with
        | thaw =>
          rw [settle, cell, Table.find?_insert, Table.find?_erase, if_pos rfl, if_pos rfl]
          exact .thaw
        | discard =>
          rw [settle, cell, Table.find?_erase, if_pos rfl]
          exact .discard
        | keep =>
          rw [settle, cell, Table.find?_insert, if_pos rfl, hf]
          exact .keep

/-- A change that is not for a user leaves the user's machine alone. -/
theorem cell_perform {c : Change} (h : c.command? user = none) :
    ((memory users frozen).perform c).2.cell user = (memory users frozen).cell user := by
  cases c with
  | resetAll => cases h
  | of u c =>
    have hu : user ≠ u := fun hu => by simp [Change.command?, hu] at h
    cases c with
    | set p => rw [perform, set, cell, cell, Table.find?_insert, if_neg hu]
    | reset => rw [perform, reset, cell, cell, Table.find?_erase, Table.find?_erase, if_neg hu,
        if_neg hu]
    | freeze =>
      rw [perform, freeze]
      cases users.find? u with
      | none => rfl
      | some data => rw [settle, cell, cell, Table.find?_insert, if_neg hu]
    | thaw action =>
      rw [perform, thaw.eq_def]
      dsimp only
      cases frozen.find? u with
      | none => rfl
      | some copy =>
        cases action <;>
          simp only [settle, cell, Table.find?_insert, Table.find?_erase, if_neg hu]

theorem performAll_cons (s : SessionStore) (c : Change) (cs : List Change) :
    s.performAll (c :: cs) = ((s.perform c).1 :: ((s.perform c).2.performAll cs).1,
      ((s.perform c).2.performAll cs).2) := rfl

/-- A run of changes is a run of each user's machine, by induction on the changes. -/
theorem run_performAll (user : String) : ∀ (cs : List Change) (users frozen : Table UserData),
    Cell.Run user ((memory users frozen).cell user) (commandsFor user cs)
      (outcomesFor user cs ((memory users frozen).performAll cs).1)
      (((memory users frozen).performAll cs).2.cell user)
  | [], _, _ => .nil _
  | c :: cs, users, frozen => by
    obtain ⟨users', frozen', hnext⟩ := @perform_memory users frozen c
    have ih := run_performAll user cs users' frozen'
    rw [performAll_cons, hnext, commandsFor, outcomesFor, List.zip_cons_cons]
    cases hc : c.command? user with
    | some command =>
      have hstep := @step_perform users frozen user c command hc
      rw [hnext] at hstep
      rw [List.filterMap_cons_some hc, List.filter_cons_of_pos (by simp [hc])]
      exact .cons hstep ih
    | none =>
      have hcell := @cell_perform users frozen user c hc
      rw [hnext] at hcell
      rw [List.filterMap_cons_none hc, List.filter_cons_of_neg (by simp [hc]), ← hcell]
      exact ih

/-- A change that is refused changes nothing. -/
theorem perform_refused {s : SessionStore} {c : Change} (h : (s.perform c).1.isSome) :
    (s.perform c).2 = s := by
  have hsettle {r : Except StoreError SessionStore} (h : (s.settle r).1.isSome) :
      (s.settle r).2 = s := by
    cases r with
    | ok => cases h
    | error => rfl
  cases c with
  | resetAll => cases h
  | of u c =>
    cases c with
    | set | reset => cases h
    | freeze | thaw => exact hsettle h

/-- Taking a copy that is not there out of the store changes nothing. -/
theorem perform_thaw (s : SessionStore) (user : String) (action : ThawAction) :
    s.perform (.of user (.thaw action)) = s.takeAndThaw user action := by
  cases s with
  | forgetful => rfl
  | memory users frozen =>
    rw [perform, thaw.eq_def, takeAndThaw]
    dsimp only
    cases hf : frozen.find? user with
    | some copy => cases action <;> rfl
    | none =>
      have herase : frozen.erase user = frozen := by
        ext name : 1
        rw [Table.find?_erase]
        split
        · rename_i hname
          rw [hname, hf]
        · rfl
      rw [settle, herase, ite_self]

/-- **A run of changes is to each user a run of a machine with two cells, fed only the changes that
are for the user. What is refused changes nothing, even where a copy is taken out of the store
before it is seen whether there is one.** -/
theorem runs_as_cells (users frozen : Table UserData) (cs : List Change) :
    (∀ user, Cell.Run user ((memory users frozen).cell user) (commandsFor user cs)
      (outcomesFor user cs ((memory users frozen).performAll cs).1)
      (((memory users frozen).performAll cs).2.cell user)) ∧
    (∀ (s : SessionStore) (c : Change), (s.perform c).1.isSome → (s.perform c).2 = s) ∧
    ∀ (s : SessionStore) (user : String) (action : ThawAction),
      s.perform (.of user (.thaw action)) = s.takeAndThaw user action :=
  ⟨fun user => run_performAll user cs users frozen, fun _ _ => perform_refused, perform_thaw⟩

end SessionStore

end Repartee
