import Repartee.Macro.Stock
import Repartee.Proofs.Session.Clear

/-!
# Macros that write no marks

* `Desk.Clear`, `Deed.Clear`: what a macro sees, and what it asks for.
* `Subroutine.Clear`: a macro that makes clear texts and clear changes of clear ones.
* **`Desk.Clear.carryOutAll`**: its changes leave the desk clear.
* `Handler.Clear`, `Handler.Clear.call`, `Handler.Clear.load`: handlers of such macros.
-/

namespace Repartee

variable {n : Nat}

/-! ## Changes -/

/-- The tables of the bot and the sessions are clear. -/
structure Desk.Clear (n : Nat) (d : Desk) : Prop where
  vars : d.vars.Clear n
  globals : d.globals.Clear n
  sessions : d.sessions.Clear n

/-- What a change stores is clear. -/
def Deed.Clear (n : Nat) : Deed → Prop
  | .setVariable name value | .setGlobal name value =>
    Text.Clear n name.toList ∧ ∀ v ∈ value, Text.Clear n v.toList
  | .setUserVars _ values => values.Clear n
  | .clearUser _ | .clearAllUsers | .freeze _ | .thaw _ _ => True

theorem Desk.Clear.carryOut (hn : n ≤ 4) {d : Desk} (hd : d.Clear n) {deed : Deed}
    (h : deed.Clear n) : (d.carryOut deed).Clear n := by
  obtain ⟨hvars, hglobals, hsessions⟩ := hd
  cases deed with
  | setVariable name value => exact ⟨hvars.assign h.1 h.2, hglobals, hsessions⟩
  | setGlobal name value => exact ⟨hvars, hglobals.assign h.1 h.2, hsessions⟩
  | setUserVars user values =>
    exact ⟨hvars, hglobals, hsessions.set hn user (SessionPatch.clear_settingAll h)⟩
  | clearUser user => exact ⟨hvars, hglobals, hsessions.reset user⟩
  | clearAllUsers => exact ⟨hvars, hglobals, hsessions.resetAll⟩
  | freeze user =>
    refine ⟨hvars, hglobals, ?_⟩
    cases hs : d.sessions.freeze user with
    | error e => simpa [Desk.carryOut, hs, Except.toOption] using hsessions
    | ok store => simpa [Desk.carryOut, hs, Except.toOption] using hsessions.freeze hs
  | thaw user action =>
    refine ⟨hvars, hglobals, ?_⟩
    cases hs : d.sessions.thaw user action with
    | error e => simpa [Desk.carryOut, hs, Except.toOption] using hsessions
    | ok store => simpa [Desk.carryOut, hs, Except.toOption] using hsessions.thaw hs

/-- **Clear changes leave a clear desk clear.** -/
theorem Desk.Clear.carryOutAll (hn : n ≤ 4) {deeds : List Deed} {d : Desk} (hd : d.Clear n)
    (h : ∀ deed ∈ deeds, deed.Clear n) : (d.carryOutAll deeds).Clear n := by
  induction deeds generalizing d with
  | nil => exact hd
  | cons deed deeds ih =>
    rw [List.forall_mem_cons] at h
    exact ih (hd.carryOut hn h.1) h.2

/-- A call that asks for clear changes leaves a clear desk clear. -/
theorem Desk.Clear.afterCall (hn : n ≤ 4) {deeds : List Deed} {d : Desk} (hd : d.Clear n)
    (h : ∀ deed ∈ deeds, deed.Clear n) : (d.afterCall deeds).Clear n :=
  { hd.carryOutAll hn h with }

/-! ## Macros -/

/-- A text that the host passes through is clear. -/
def Scope.Clear (n : Nat) : Scope → Prop
  | .text s => Text.Clear n s.toList
  | .number _ => True

/-- What a call hands to a macro is clear. -/
structure Call.Clear (n : Nat) (c : Call) : Prop where
  user : Text.Clear n c.user.toList
  name : Text.Clear n c.name.toList
  args : ∀ a ∈ c.args, Text.Clear n a.toList
  scope : ∀ s ∈ c.scope, s.Clear n

/-- What a macro gives is clear, and so are the changes it asks for. -/
structure Subroutine.Gives (n : Nat) (out : Except MacroError String × List Deed) : Prop where
  text : ∀ s, out.1 = .ok s → Text.Clear n s.toList
  error : ∀ e, out.1 = .error e → Text.Clear n e.message.toList
  deeds : ∀ deed ∈ out.2, deed.Clear n

/-- A macro that gives something clear if it is handed something clear. -/
def Subroutine.Clear (n : Nat) (f : Subroutine) : Prop :=
  ∀ (c : Call) (d : Desk), c.Clear n → d.Clear n → Subroutine.Gives n (f c d)

/-- A macro that gives a clear text and changes nothing. -/
theorem Subroutine.gives_ok {s : String} (hs : Text.Clear n s.toList) :
    Subroutine.Gives n (.ok s, []) := by
  refine ⟨fun t ht => ?_, fun e he => (nomatch he), fun deed hd => absurd hd List.not_mem_nil⟩
  cases ht
  exact hs

theorem Subroutine.clear_const {s : String} (hs : Text.Clear n s.toList) :
    Subroutine.Clear n (.const s) :=
  fun _ _ _ _ => Subroutine.gives_ok hs

/-- All subroutines of a table are clear. -/
def Routines.Clear (n : Nat) (rs : Routines) : Prop :=
  ∀ name f, Table.find? rs name = some f → Subroutine.Clear n f

theorem Routines.Clear.call (hn : n ≤ 4) {rs : Routines} (h : rs.Clear n) :
    Subroutine.Clear n rs.call := by
  intro c d hc hd
  rw [Routines.call]
  cases hf : rs.find? c.name with
  | some f => exact h c.name f hf c d hc hd
  | none =>
    refine ⟨fun s hs => (nomatch hs), fun e he => ?_, fun deed hd => absurd hd List.not_mem_nil⟩
    cases he
    dsimp only
    rw [String.toList_append, String.toList_append]
    exact ((Text.clear_of_all hn (by decide)).append hc.name).append
      (Text.clear_of_all hn (by decide))

/-- All macros of a handler are clear, whatever clear sources it may be given. -/
def Handler.Clear (n : Nat) : Handler → Prop
  | registered => True
  | routines rs => rs.Clear n
  | sources language loaded =>
    (∀ loaded : Table String, loaded.Clear n → Subroutine.Clear n (language.run loaded)) ∧
      loaded.Clear n

namespace Handler.Clear

variable {h : Handler}

theorem call (hn : n ≤ 4) (hh : h.Clear n) {registry : Routines} (hr : registry.Clear n) :
    Subroutine.Clear n (h.call registry) := by
  cases h with
  | registered => exact hr.call hn
  | routines rs => exact Routines.Clear.call hn hh
  | sources language loaded => exact hh.1 loaded hh.2

/-- A handler that takes a clear source stays clear. -/
theorem load (hh : h.Clear n) {name code : String} (hname : Text.Clear n name.toList)
    (hcode : Text.Clear n code.toList) {h' : Handler} (hl : h.load name code = .ok h') :
    h'.Clear n := by
  cases h with
  | registered | routines rs => cases hl
  | sources language loaded =>
    rw [Handler.load] at hl
    split at hl
    · cases hl
    · cases hl
      exact ⟨hh.1, hh.2.insert hname hcode⟩

end Handler.Clear

end Repartee
