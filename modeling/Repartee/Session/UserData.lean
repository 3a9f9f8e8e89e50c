import Repartee.Session.History

/-!
# User data

* `UserData`: variables, history and match records of one user.
* `SessionPatch`, `UserData.apply`: a partial update; what it does not mention stays.
-/

namespace Repartee

/-- Everything remembered of one user; the current topic is the variable `topic`. -/
structure UserData where
  vars : Table String := Table.empty.insert "topic" defaultTopic
  history : History := {}
  lastMatch : Option String := none
  initialMatch : Option String := none
  lastTriggers : List TriggerId := []
  deriving DecidableEq, Inhabited

/-- A partial update: variables with a value are set, those without are deleted, and fields that
are `none` are left alone. -/
structure SessionPatch where
  vars : Table (Option String) := ∅
  history : Option History := none
  lastMatch : Option (Option String) := none
  initialMatch : Option (Option String) := none
  lastTriggers : Option (List TriggerId) := none
  deriving DecidableEq, Inhabited

/-- The patch that sets variables. -/
def SessionPatch.settingAll (values : Table String) : SessionPatch := { vars := values.map some }

/-- The patch that sets one variable. -/
def SessionPatch.setting (name value : String) : SessionPatch :=
  { vars := Table.empty.insert name (some value) }

namespace UserData

/-- The value of a variable. -/
def var (u : UserData) (name : String) : String := (u.vars.find? name).getD undefined

/-- The current topic. -/
def topic (u : UserData) : String := (u.vars.find? "topic").getD defaultTopic

/-- Set a variable. -/
def setVar (u : UserData) (name value : String) : UserData :=
  { u with vars := u.vars.insert name value }

/-- Carry out a patch. -/
def apply (u : UserData) (p : SessionPatch) : UserData where
  vars := p.vars.entries.foldl (fun t e => t.assign e.1 e.2) u.vars
  history := p.history.getD u.history
  lastMatch := p.lastMatch.getD u.lastMatch
  initialMatch := p.initialMatch.getD u.initialMatch
  lastTriggers := p.lastTriggers.getD u.lastTriggers

end UserData

end Repartee
