import Repartee.Proofs.Text.Clear
import Repartee.Session.Store

/-!
# Clear stores

* `Table.Clear`: the names and values of a table are clear.
* `UserData.Clear`, `SessionPatch.Clear`, `SessionStore.Clear`: what is stored is clear.
* **`SessionStore.Clear.set`** and the like: the changes of a store leave it clear.
-/

namespace Repartee

variable {n : Nat}

/-! ## Tables -/

namespace Table

/-- The names and values of a table are clear. -/
def Clear (n : Nat) (t : Table String) : Prop :=
  ∀ k v, t.find? k = some v → Text.Clear n k.toList ∧ Text.Clear n v.toList

variable {α : Type} {t : Table String} {k v : String}

theorem clear_empty : Clear n ∅ := fun _ _ h => by cases h

theorem Clear.insert (ht : t.Clear n) (hk : Text.Clear n k.toList) (hv : Text.Clear n v.toList) :
    (t.insert k v).Clear n := by
  intro j w hw
  rw [find?_insert] at hw
  split at hw
  · rename_i hj
    cases hw
    exact hj ▸ ⟨hk, hv⟩
  · exact ht j w hw

theorem Clear.erase (ht : t.Clear n) (k : String) : (t.erase k).Clear n := by
  intro j w hw
  rw [find?_erase] at hw
  split at hw
  · cases hw
  · exact ht j w hw

/-- A name that is set to a clear value or dropped. -/
theorem Clear.assign (ht : t.Clear n) {v : Option String} (hk : Text.Clear n k.toList)
    (hv : ∀ w ∈ v, Text.Clear n w.toList) : (t.assign k v).Clear n := by
  cases v with
  | some w => exact ht.insert hk (hv w rfl)
  | none => exact ht.erase k

/-- A property of all entries survives new entries with it. -/
theorem forall_insert {P : α → Prop} {t : Table α} (ht : ∀ k v, t.find? k = some v → P v)
    {k : String} {v : α} (hv : P v) : ∀ j w, (t.insert k v).find? j = some w → P w := by
  intro j w hw
  rw [find?_insert] at hw
  split at hw
  · cases hw
    exact hv
  · exact ht j w hw

theorem forall_erase {P : α → Prop} {t : Table α} (ht : ∀ k v, t.find? k = some v → P v)
    (k : String) : ∀ j w, (t.erase k).find? j = some w → P w := by
  intro j w hw
  rw [find?_erase] at hw
  split at hw
  · cases hw
  · exact ht j w hw

theorem forall_assign {P : α → Prop} {t : Table α} (ht : ∀ k v, t.find? k = some v → P v)
    {k : String} {v : Option α} (hv : ∀ w ∈ v, P w) :
    ∀ j w, (t.assign k v).find? j = some w → P w := by
  cases v with
  | some w => exact forall_insert ht (hv w rfl)
  | none => exact forall_erase ht k

/-- A property that every assignment keeps is kept by the assignments of a table. -/
theorem foldl_entries {β : Type} {P : β → Prop} {step : β → String × α → β} {t : Table α}
    (hstep : ∀ b k v, t.find? k = some v → P b → P (step b (k, v))) {b : β} (hb : P b) :
    P (t.entries.foldl step b) := by
  have hmem : ∀ e ∈ t.entries, ∀ b, P b → P (step b e) := fun e he b hb =>
    hstep b e.1 e.2 (mem_entries_iff.1 he) hb
  generalize t.entries = es at hmem
  induction es generalizing b with
  | nil => exact hb
  | cons e es ih =>
    rw [List.forall_mem_cons] at hmem
    exact ih (hmem.1 b hb) hmem.2

end Table

/-! ## User data -/

theorem clear_undefined (hn : n ≤ 4) : Text.Clear n undefined.toList :=
  Text.clear_of_all hn (by decide)

/-- The entries of a history are clear. -/
structure History.Clear (n : Nat) (h : History) : Prop where
  input : ∀ s ∈ h.input, Text.Clear n s.toList
  reply : ∀ s ∈ h.reply, Text.Clear n s.toList

theorem History.Clear.push {h : History} (hh : h.Clear n) {message reply : String}
    (hm : Text.Clear n message.toList) (hr : Text.Clear n reply.toList) :
    (h.push message reply).Clear n := by
  constructor
  · intro s hs
    rcases List.mem_cons.1 (List.mem_of_mem_take hs) with rfl | hs
    · exact hm
    · exact hh.input s hs
  · intro s hs
    rcases List.mem_cons.1 (List.mem_of_mem_take hs) with rfl | hs
    · exact hr
    · exact hh.reply s hs

theorem History.clear_nth (hn : n ≤ 4) {xs : List String} (h : ∀ s ∈ xs, Text.Clear n s.toList)
    (k : Nat) : Text.Clear n (nth xs k).toList := by
  cases k with
  | zero => exact clear_undefined hn
  | succ k =>
    rw [nth]
    cases hx : xs[k]? with
    | none => exact clear_undefined hn
    | some x => exact h x (List.mem_of_getElem? hx)

/-- The variables and the history of a user are clear. -/
structure UserData.Clear (n : Nat) (u : UserData) : Prop where
  vars : u.vars.Clear n
  history : u.history.Clear n

theorem UserData.clear_default (hn : n ≤ 4) : UserData.Clear n {} := by
  have hundefined : ∀ s ∈ List.replicate historyLength undefined, Text.Clear n s.toList := by
    intro s hs
    rw [List.eq_of_mem_replicate hs]
    exact clear_undefined hn
  refine ⟨Table.clear_empty.insert ?_ ?_, ⟨hundefined, hundefined⟩⟩
  · exact Text.clear_of_all hn (by decide)
  · exact Text.clear_of_all hn (by decide)

theorem UserData.Clear.var (hn : n ≤ 4) {u : UserData} (h : u.Clear n) (name : String) :
    Text.Clear n (u.var name).toList := by
  rw [UserData.var]
  cases hv : u.vars.find? name with
  | none => exact clear_undefined hn
  | some v => exact (h.vars name v hv).2

/-- What a patch stores is clear. -/
structure SessionPatch.Clear (n : Nat) (p : SessionPatch) : Prop where
  vars : ∀ k v, p.vars.find? k = some (some v) → Text.Clear n k.toList ∧ Text.Clear n v.toList
  history : ∀ h ∈ p.history, h.Clear n

theorem SessionPatch.clear_setting {name value : String} (hk : Text.Clear n name.toList)
    (hv : Text.Clear n value.toList) : (SessionPatch.setting name value).Clear n := by
  refine ⟨fun k v h => ?_, fun h hh => by cases hh⟩
  rw [SessionPatch.setting, Table.find?_insert] at h
  split at h
  · rename_i hkey
    cases h
    exact hkey ▸ ⟨hk, hv⟩
  · cases h

theorem SessionPatch.clear_settingAll {values : Table String} (h : values.Clear n) :
    (SessionPatch.settingAll values).Clear n := by
  refine ⟨fun k v hv => ?_, fun h hh => by cases hh⟩
  rw [SessionPatch.settingAll, Table.find?_map] at hv
  obtain ⟨w, hw, he⟩ := Option.map_eq_some_iff.1 hv
  cases he
  exact h k v hw

theorem UserData.Clear.apply {u : UserData} (hu : u.Clear n) {p : SessionPatch} (hp : p.Clear n) :
    (u.apply p).Clear n := by
  constructor
  · refine Table.foldl_entries (fun t k v hkv ht => ?_) hu.vars
    cases v with
    | some w => exact ht.insert (hp.vars k w hkv).1 (hp.vars k w hkv).2
    | none => exact ht.erase k
  · rw [UserData.apply]
    cases hh : p.history with
    | none => exact hu.history
    | some h => exact hp.history h hh

/-! ## Stores -/

/-- The data of all users and their frozen copies are clear. -/
def SessionStore.Clear (n : Nat) : SessionStore → Prop
  | memory users frozen => (∀ v u, users.find? v = some u → u.Clear n) ∧
    ∀ v u, frozen.find? v = some u → u.Clear n
  | forgetful => True

namespace SessionStore

variable {store : SessionStore}

theorem clear_new : SessionStore.new.Clear n :=
  ⟨fun _ _ h => (nomatch h), fun _ _ h => (nomatch h)⟩

theorem Clear.data? (h : store.Clear n) {user : String} {u : UserData}
    (hu : store.data? user = some u) : u.Clear n := by
  cases store with
  | memory users frozen => exact h.1 user u hu
  | forgetful => cases hu

theorem Clear.getD (hn : n ≤ 4) (h : store.Clear n) (user : String) :
    ((store.data? user).getD {}).Clear n := by
  cases hu : store.data? user with
  | none => exact UserData.clear_default hn
  | some u => exact h.data? hu

theorem Clear.set (hn : n ≤ 4) (h : store.Clear n) (user : String) {p : SessionPatch}
    (hp : p.Clear n) : (store.set user p).Clear n := by
  cases store with
  | memory users frozen =>
    have hdata : ((users.find? user).getD {}).Clear n := Clear.getD hn h user
    exact ⟨Table.forall_insert h.1 (hdata.apply hp), h.2⟩
  | forgetful => trivial

theorem Clear.meet (hn : n ≤ 4) (h : store.Clear n) (user : String) :
    (store.meet user).Clear n := by
  unfold SessionStore.meet
  split
  · exact h
  · refine h.set hn user (SessionPatch.clear_setting ?_ ?_)
    · exact Text.clear_of_all hn (by decide)
    · exact Text.clear_of_all hn (by decide)

theorem Clear.reset (h : store.Clear n) (user : String) : (store.reset user).Clear n := by
  cases store with
  | memory users frozen => exact ⟨Table.forall_erase h.1 user, Table.forall_erase h.2 user⟩
  | forgetful => trivial

theorem Clear.resetAll (h : store.Clear n) : store.resetAll.Clear n := by
  cases store with
  | memory users frozen => exact clear_new
  | forgetful => trivial

theorem Clear.freeze (h : store.Clear n) {user : String} {store' : SessionStore}
    (hs : store.freeze user = .ok store') : store'.Clear n := by
  cases store with
  | memory users frozen =>
    rw [SessionStore.freeze] at hs
    cases hu : users.find? user with
    | none =>
      rw [hu] at hs
      cases hs
    | some data =>
      rw [hu] at hs
      cases hs
      exact ⟨h.1, Table.forall_insert h.2 (h.1 user data hu)⟩
  | forgetful =>
    cases hs
    trivial

theorem Clear.thaw (h : store.Clear n) {user : String} {action : ThawAction} {store' : SessionStore}
    (hs : store.thaw user action = .ok store') : store'.Clear n := by
  cases store with
  | memory users frozen =>
    rw [SessionStore.thaw.eq_def] at hs
    dsimp only at hs
    cases hu : frozen.find? user with
    | none =>
      rw [hu] at hs
      cases hs
    | some data =>
      rw [hu] at hs
      have hdata := h.2 user data hu
      cases action with
      | thaw =>
        cases hs
        exact ⟨Table.forall_insert h.1 hdata, Table.forall_erase h.2 user⟩
      | discard =>
        cases hs
        exact ⟨h.1, Table.forall_erase h.2 user⟩
      | keep =>
        cases hs
        exact ⟨Table.forall_insert h.1 hdata, h.2⟩
  | forgetful =>
    cases hs
    trivial

end SessionStore

end Repartee
