import Repartee.Session.Store

/-!
# Object macros

A reply calls macros by name. Each belongs to a language, and the handler of the language runs it.
A macro sees its call and a desk: the tables of the bot, and the sessions of its users. It gives a
text or fails, and asks for changes, which are carried out in order.

A macro may have a state of its own, or leave something to chance. No two calls are made at the same
count of calls, so that a function of the count, the call and the desk tells what such a macro does
in any run.

* `Call`, `Desk`: what a macro is given.
* `Deed`, `Desk.carryOut`: the changes a macro may ask for.
* `Desk.afterCall`: the desk behind a call.
* `Subroutine`, `Routines`: macros, and macros by name.
* `Handler`: the subroutines of the bot, subroutines of its own, or loaded sources.
-/

namespace Repartee

/-- The language of macros that are registered, not loaded. -/
def nativeLanguage : String := "rust"

/-- A value of the host that is passed through to macros. -/
inductive Scope where
  | text (s : String)
  | number (n : Int)
  deriving DecidableEq, Repr

/-- Why a macro failed. -/
structure MacroError where
  message : String
  deriving DecidableEq, Repr

/-- A call of a macro. -/
structure Call where
  user : String
  name : String
  args : List String
  scope : Option Scope := none
  deriving DecidableEq, Repr

/-- What a macro sees. -/
structure Desk where
  vars : Table String
  globals : Table String
  sessions : SessionStore
  /-- The calls that were made before. -/
  calls : Nat := 0
  deriving DecidableEq

/-- A change that a macro asks for. -/
inductive Deed where
  /-- Set or delete a bot variable. -/
  | setVariable (name : String) (value : Option String)
  /-- Set or delete a global variable. -/
  | setGlobal (name : String) (value : Option String)
  /-- Set variables of a user. -/
  | setUserVars (user : String) (values : Table String)
  /-- Forget a user. -/
  | clearUser (user : String)
  /-- Forget all users. -/
  | clearAllUsers
  | freeze (user : String)
  | thaw (user : String) (action : ThawAction)
  deriving DecidableEq

namespace Desk

/-- Carry out a change; what a store refuses changes nothing. -/
def carryOut (d : Desk) : Deed → Desk
  | .setVariable name value => { d with vars := d.vars.assign name value }
  | .setGlobal name value => { d with globals := d.globals.assign name value }
  | .setUserVars user values => { d with sessions := d.sessions.set user (.settingAll values) }
  | .clearUser user => { d with sessions := d.sessions.reset user }
  | .clearAllUsers => { d with sessions := d.sessions.resetAll }
  | .freeze user => { d with sessions := (d.sessions.freeze user).toOption.getD d.sessions }
  | .thaw user action =>
    { d with sessions := (d.sessions.thaw user action).toOption.getD d.sessions }

/-- Carry out changes in order. -/
def carryOutAll (d : Desk) (deeds : List Deed) : Desk := deeds.foldl carryOut d

/-- The desk behind a call that asks for changes. -/
def afterCall (d : Desk) (deeds : List Deed) : Desk :=
  { d.carryOutAll deeds with calls := d.calls + 1 }

end Desk

/-- A macro: its text or failure, and the changes it asks for. -/
abbrev Subroutine := Call → Desk → Except MacroError String × List Deed

/-! ## Named subroutines -/

/-- Subroutines by name. -/
abbrev Routines := Table Subroutine

namespace Routines

/-- Sources are not accepted. -/
def loadError (name : String) : MacroError :=
  ⟨"'" ++ name ++ "' has source code; rust macros are registered with set_subroutine"⟩

/-- Run the subroutine of the call's name. -/
def call (rs : Routines) : Subroutine := fun c d =>
  match rs.find? c.name with
  | some f => f c d
  | none => (.error ⟨"no subroutine named '" ++ c.name ++ "'"⟩, [])

end Routines

/-! ## Handlers -/

/-- A language of macros that are loaded as source. -/
structure SourceLanguage where
  /-- The error of a macro that can not be loaded, by name and source. -/
  refuse : String → String → Option MacroError
  /-- Run a macro, given the loaded sources. -/
  run : Table String → Subroutine

/-- What runs the macros of a language. -/
inductive Handler where
  /-- The subroutines registered with the bot. -/
  | registered
  /-- Subroutines of the handler's own. -/
  | routines (rs : Routines)
  /-- Sources, with those loaded so far. -/
  | sources (language : SourceLanguage) (loaded : Table String)

namespace Handler

/-- Take the source of a macro. -/
def load : Handler → (name code : String) → Except MacroError Handler
  | registered, name, _ => .error (Routines.loadError name)
  | routines _, name, _ => .error (Routines.loadError name)
  | sources language loaded, name, code =>
    match language.refuse name code with
    | some e => .error e
    | none => .ok (sources language (loaded.insert name code))

/-- Run a macro, given the subroutines registered with the bot. -/
def call (registry : Routines) : Handler → Subroutine
  | registered => registry.call
  | routines rs => rs.call
  | sources language loaded => language.run loaded

end Handler

end Repartee
