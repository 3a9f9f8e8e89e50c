import Repartee.Dice
import Repartee.Document.Json
import Repartee.Script.Load
import Repartee.Session.Store

/-!
# Bots

* `Host`: what a bot runs on.
* `Brain`: a script, the variables of the bot, the sessions of its users, and dice.
* `Brain.new`, `Brain.load`, `Brain.sort`: make a bot, give it content, order its triggers.
* `Brain.setHandler`, `Brain.setSubroutine` and the other settings of a host.
* `Brain.loadJson`, `DocumentError`: load the text of a document, and why it is refused.
* `ReplyError`: why a bot does not answer.
-/

namespace Repartee

/-- What a bot runs on: an engine, and dice for every seed and for none. -/
structure Host where
  engine : Regex.Engine := .unlimited
  dice : Option Nat → Dice := fun _ => .first

/-- A bot. -/
structure Brain where
  script : Script
  vars : Table String := ∅
  globals : Table String := ∅
  sessions : SessionStore := .new
  dice : Dice
  /-- The calls of macros made so far. -/
  calls : Nat := 0

/-- Why the text of a document is refused. -/
inductive DocumentError where
  /-- The text is no document. -/
  | unreadable
  | refused (e : LoadError)
  deriving DecidableEq, Repr

/-- Why a bot does not answer. -/
inductive ReplyError where
  | notSorted
  deriving DecidableEq, Repr

/-- The text of a refusal to answer. -/
def ReplyError.message : ReplyError → String
  | notSorted => "replies are not sorted; call sort_replies() after loading"

namespace Brain

/-- A bot without content. -/
def new (options : Options) (sessions : SessionStore) (host : Host := {}) : Brain where
  script := .new options host.engine
  sessions
  dice := host.dice options.seed

/-! ## Content -/

/-- Take over a document, and tell why it was refused. A strict bot refuses a document with syntax
errors, and one with a macro that can not be loaded; the macros before that one stay loaded. -/
def load (b : Brain) (d : Document) : Option LoadError × Brain :=
  let o := b.script.options
  match (if o.strict then Check.problems o.utf8 o.forceCase d else []).head? with
  | some p => (some (.malformed p), b)
  | none =>
    match b.script.loadObjects d.objects with
    | (some e, script) => (some e, { b with script })
    | (none, script) =>
      (none,
        { b with
          script := script.define d
          globals := Script.defineAll b.globals d.begin.global
          vars := Script.defineAll b.vars d.begin.var })

/-- Take over the document of a text, and tell why it was refused. -/
def loadJson (b : Brain) (text : String) : Option DocumentError × Brain :=
  match Document.read? text with
  | none => (some .unreadable, b)
  | some d =>
    let (e, b) := b.load d
    (e.map .refused, b)

/-- Order the triggers. -/
def sort (b : Brain) : Brain := { b with script := b.script.sort }

/-! ## Macros -/

/-- Register the handler of a language, or drop it. -/
def setHandler (b : Brain) (language : String) (h : Option Handler) : Brain :=
  { b with script.handlers := b.script.handlers.assign language h }

/-- Register a subroutine under a name. -/
def setSubroutine (b : Brain) (name : String) (f : Subroutine) : Brain :=
  { b with
    script.registry := b.script.registry.insert name f
    script.languages := b.script.languages.insert name nativeLanguage }

/-! ## Tables -/

/-- Set or delete a bot variable. -/
def setVariable (b : Brain) (name : String) (value : Option String) : Brain :=
  { b with vars := b.vars.assign name value }

/-- Set or delete a global variable. -/
def setGlobal (b : Brain) (name : String) (value : Option String) : Brain :=
  { b with globals := b.globals.assign name value }

/-- Set or delete a substitution of messages. -/
def setSubstitution (b : Brain) (phrase : String) (replacement : Option String) : Brain :=
  { b with script.subs := b.script.subs.assign phrase replacement }

/-- Set or delete a substitution of persons. -/
def setPerson (b : Brain) (phrase : String) (replacement : Option String) : Brain :=
  { b with script.person := b.script.person.assign phrase replacement }

/-- Set or delete an array. -/
def setArray (b : Brain) (name : String) (items : Option (List String)) : Brain :=
  { b with script.arrays := b.script.arrays.assign name items }

/-! ## Users -/

/-- Change the data of a user. -/
def patchUser (b : Brain) (user : String) (p : SessionPatch) : Brain :=
  { b with sessions := b.sessions.set user p }

/-- The pattern matched last for a user. -/
def lastMatch (b : Brain) (user : String) : Option String :=
  (b.sessions.data? user).bind (·.lastMatch)

/-- The pattern matched first for a user's last message. -/
def initialMatch (b : Brain) (user : String) : Option String :=
  (b.sessions.data? user).bind (·.initialMatch)

/-- The triggers matched for a user's last message. -/
def lastTriggers (b : Brain) (user : String) : List TriggerId :=
  ((b.sessions.data? user).map (·.lastTriggers)).getD []

/-- The patterns of a user's topic in the order they are tried. -/
def userTopicTriggers (b : Brain) (user : String) : Except ReplyError (List String) :=
  match b.script.order with
  | none => .error .notSorted
  | some _ =>
    .ok ((b.script.sortedPatterns ((b.sessions.get? user "topic").getD defaultTopic)).getD [])

end Brain

end Repartee
