import Repartee.Proofs.Macro.Confined

/-!
# What a store remembers of a user

* `SessionStore.Remembers`: a store that keeps data has a history for a user.
* `SessionStore.Remembers.set` and the like: which changes leave the history alone.
* **`Desk.remembers_carryOutAll`**: changes that spare a user leave the history alone.
-/

namespace Repartee

namespace SessionStore

/-- The store keeps data, and this is the history of a user; an unknown user has the default one. -/
structure Remembers (s : SessionStore) (user : String) (h : History) : Prop where
  keeps : ∃ users frozen, s = .memory users frozen
  history : ((s.data? user).getD {}).history = h

variable {s : SessionStore} {user : String} {h : History}

namespace Remembers

/-- A change of another user's data. -/
theorem insert {users frozen frozen' : Table UserData} {v : String} {data : UserData}
    (hs : (memory users frozen).Remembers user h)
    (hv : v = user → data.history = h) :
    (memory (users.insert v data) frozen').Remembers user h := by
  refine ⟨⟨_, _, rfl⟩, ?_⟩
  rw [data?, Table.find?_insert]
  split
  · rename_i huv
    exact hv huv.symm
  · exact hs.history

/-- A patch of anybody's data that does not mention the history. -/
theorem set (hs : s.Remembers user h) (v : String) {p : SessionPatch} (hp : p.history = none) :
    (s.set v p).Remembers user h := by
  obtain ⟨users, frozen, rfl⟩ := hs.keeps
  refine hs.insert fun hv => ?_
  subst hv
  rw [UserData.apply, hp]
  exact hs.history

theorem meet (hs : s.Remembers user h) (v : String) : (s.meet v).Remembers user h := by
  unfold SessionStore.meet
  split
  · exact hs
  · exact hs.set v rfl

theorem reset (hs : s.Remembers user h) {v : String} (hv : v ≠ user) :
    (s.reset v).Remembers user h := by
  obtain ⟨users, frozen, rfl⟩ := hs.keeps
  refine ⟨⟨_, _, rfl⟩, ?_⟩
  rw [SessionStore.reset, data?, Table.find?_erase, if_neg (Ne.symm hv)]
  exact hs.history

theorem freeze (hs : s.Remembers user h) (v : String) :
    ((s.freeze v).toOption.getD s).Remembers user h := by
  obtain ⟨users, frozen, rfl⟩ := hs.keeps
  rw [SessionStore.freeze]
  cases users.find? v with
  | none => exact hs
  | some data => exact ⟨⟨_, _, rfl⟩, hs.history⟩

theorem thaw (hs : s.Remembers user h) {v : String} {action : ThawAction}
    (hv : v = user → action = .discard) :
    ((s.thaw v action).toOption.getD s).Remembers user h := by
  obtain ⟨users, frozen, rfl⟩ := hs.keeps
  rw [SessionStore.thaw.eq_def]
  dsimp only
  cases frozen.find? v with
  | none => exact hs
  | some data =>
    cases action with
    | discard => exact ⟨⟨_, _, rfl⟩, hs.history⟩
    | thaw | keep => exact hs.insert fun h => by cases hv h

end Remembers

end SessionStore

/-! ## Macros -/

namespace Desk

variable {d : Desk} {user : String} {h : History}

theorem remembers_carryOut (hd : d.sessions.Remembers user h) {deed : Deed}
    (hs : deed.Spares user) : (d.carryOut deed).sessions.Remembers user h := by
  cases deed with
  | setVariable | setGlobal => exact hd
  | setUserVars u values => exact hd.set u rfl
  | clearUser u => exact hd.reset hs
  | clearAllUsers => exact absurd hs id
  | freeze u => exact hd.freeze u
  | thaw u action => exact hd.thaw hs

/-- **Changes that spare a user leave the history alone.** -/
theorem remembers_carryOutAll {deeds : List Deed} (hs : ∀ deed ∈ deeds, deed.Spares user)
    (hd : d.sessions.Remembers user h) : (d.carryOutAll deeds).sessions.Remembers user h := by
  induction deeds generalizing d with
  | nil => exact hd
  | cons deed deeds ih =>
    have hfirst := remembers_carryOut hd (hs deed List.mem_cons_self)
    exact ih (fun e he => hs e (List.mem_cons_of_mem deed he)) hfirst

/-- So does a call that asks for such changes. -/
theorem remembers_afterCall {deeds : List Deed} (hs : ∀ deed ∈ deeds, deed.Spares user)
    (hd : d.sessions.Remembers user h) : (d.afterCall deeds).sessions.Remembers user h :=
  remembers_carryOutAll hs hd

end Desk

end Repartee
