import Repartee.Macro.Stock
import Repartee.Script.Basic

/-!
# What macros may do

* `Subroutine.Confined`: a macro that reads and writes the tables of the bot and the session of the
  user who calls it, and nothing else.
* `Subroutine.Spares`: a macro that neither forgets a user nor restores the frozen copy.
* `Script.Confined`, `Script.Spares`: all macros of a script are such.
* `SourceLanguage.confined_session`: macros that keep variables of their user are confined.
-/

namespace Repartee

/-! ## Changes -/

/-- A change to the tables of the bot or to variables of one user. -/
def Deed.IsOwn (user : String) : Deed → Prop
  | .setVariable _ _ | .setGlobal _ _ => True
  | .setUserVars u _ => u = user
  | .clearUser _ | .clearAllUsers | .freeze _ | .thaw _ _ => False

/-- A change that neither forgets a user nor restores the frozen copy. -/
def Deed.Spares (user : String) : Deed → Prop
  | .setVariable _ _ | .setGlobal _ _ | .setUserVars _ _ | .freeze _ => True
  | .clearUser u => u ≠ user
  | .clearAllUsers => False
  | .thaw u action => u = user → action = .discard

theorem Deed.IsOwn.spares {u : String} {deed : Deed} (h : deed.IsOwn u) (user : String) :
    deed.Spares user := by
  cases deed with
  | setVariable | setGlobal | setUserVars => trivial
  | clearUser | clearAllUsers | freeze | thaw => exact absurd h id

/-! ## Macros -/

/-- A macro that reads and writes the tables of the bot and the session of the user who calls it,
and nothing else but the count of calls. -/
structure Subroutine.Confined (f : Subroutine) : Prop where
  reads : ∀ (c : Call) (d e : Desk), d.vars = e.vars → d.globals = e.globals → d.calls = e.calls →
    d.sessions.data? c.user = e.sessions.data? c.user → f c d = f c e
  writes : ∀ (c : Call) (d : Desk), ∀ deed ∈ (f c d).2, deed.IsOwn c.user

/-- A macro that neither forgets a user nor restores the frozen copy, whoever calls it. -/
def Subroutine.Spares (f : Subroutine) (user : String) : Prop :=
  ∀ (c : Call) (d : Desk), ∀ deed ∈ (f c d).2, deed.Spares user

/-- Named subroutines are confined if each of them is. -/
theorem Routines.confined_call {rs : Routines} (h : ∀ name f, rs.find? name = some f → f.Confined) :
    Subroutine.Confined rs.call := by
  constructor
  · intro c d e hvars hglobals hcalls hdata
    unfold Routines.call
    cases hf : rs.find? c.name with
    | none => rfl
    | some f => exact (h _ f hf).reads c d e hvars hglobals hcalls hdata
  · intro c d deed hdeed
    unfold Routines.call at hdeed
    cases hf : rs.find? c.name with
    | none =>
      rw [hf] at hdeed
      exact absurd hdeed List.not_mem_nil
    | some f =>
      rw [hf] at hdeed
      exact (h _ f hf).writes c d deed hdeed

/-- Macros that read and write the variables of their user are confined. -/
theorem SourceLanguage.confined_session (loaded : Table String) :
    Subroutine.Confined (session.run loaded) := by
  constructor
  · intro c d e _ _ _ hdata
    simp only [session, SessionStore.get?, hdata]
  · intro c d deed hdeed
    simp only [session] at hdeed
    split at hdeed
    · exact absurd hdeed List.not_mem_nil
    · rw [List.mem_singleton.1 hdeed]
      rfl
    · exact absurd hdeed List.not_mem_nil

/-! ## Scripts -/

/-- All macros of a script are confined. -/
def Script.Confined (s : Script) : Prop :=
  ∀ language h, s.handlers.find? language = some h → (h.call s.registry).Confined

/-- No macro of a script forgets a user or restores the frozen copy. -/
def Script.Spares (s : Script) (user : String) : Prop :=
  ∀ language h, s.handlers.find? language = some h → (h.call s.registry).Spares user

theorem Script.Confined.spares {s : Script} (hs : s.Confined) (user : String) : s.Spares user :=
  fun language h hh c d deed hdeed => ((hs language h hh).writes c d deed hdeed).spares user

end Repartee
