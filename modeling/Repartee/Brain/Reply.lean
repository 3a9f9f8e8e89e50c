import Repartee.Brain.Basic
import Repartee.Reply.Resolve

/-!
# Answering a message

* `Reply`: the text of an answer and how it came about.
* `answer`: the text of an answer, by way of the begin block if there is one.
* **`Brain.reply`**: answer a message of a user and remember the exchange.
-/

namespace Repartee

/-- An answer. -/
structure Reply where
  text : String
  /-- The message as it was compared. -/
  message : String
  topicBefore : String
  topicAfter : String
  initialMatch : Option String
  lastMatch : Option String
  stars : List String
  triggers : List TriggerId
  steps : List Step
  deriving DecidableEq, Repr

/-- What a begin reply holds the place of the answer with. -/
def okMark : Text := "\x7bok\x7d".toList

/-- A begin reply with the answer put in its place, if it has a place for it. -/
def fill (normal : Talk Text) (opening : Text) : Talk Text :=
  if (Text.cutAt? okMark opening).isSome then do
    pure (Text.replace okMark (← normal) opening)
  else pure opening

/-- Answer a normalized message. -/
def answer (s : Script) (order : TrialOrder) (a : Speaker) (message : Text) : Talk Text :=
  let normal := resolve s order a (s.depth + 1) 0 .normal message
  if s.topics.contains beginTopic then do
    let opening ← resolve s order a (s.depth + 1) 0 .opening "request".toList
    let text ← fill normal opening
    expand s a (resolve s order a s.depth 1 .normal) [] [] text
  else normal

namespace Brain

/-- The state in which a user is answered. -/
def turn (b : Brain) (user : String) : Turn where
  vars := b.vars
  globals := b.globals
  sessions := b.sessions.meet user
  calls := b.calls
  dice := b.dice

/-- What an exchange leaves in the session of the user, who had some data before it. -/
def exchange (t : Turn) (old : Option UserData) (message text : String) : SessionPatch where
  history := some ((old.getD {}).history.push message text)
  lastMatch := some t.lastMatch
  initialMatch := some t.initialMatch
  lastTriggers := some t.triggers

/-- The bot after an exchange. -/
def afterTurn (b : Brain) (user : String) (t : Turn) (message text : String) : Brain :=
  { b with
    vars := t.vars
    globals := t.globals
    calls := t.calls
    dice := t.dice
    sessions := t.sessions.set user (exchange t (t.sessions.data? user) message text) }

/-- The answer given in a turn, and the bot after it. -/
def conclude (b : Brain) (user : String) (t : Turn) (message text : String) : Reply × Brain :=
  let after := b.afterTurn user t message text
  ({ text
     message
     topicBefore := ((b.sessions.data? user).map (·.topic)).getD defaultTopic
     topicAfter := (after.sessions.get? user "topic").getD defaultTopic
     initialMatch := t.initialMatch
     lastMatch := t.lastMatch
     stars := t.stars.getD []
     triggers := t.triggers
     steps := t.steps },
    after)

/-- Answer a message of a user and remember the exchange, or tell why the bot does not answer. -/
def reply (b : Brain) (user message : String) (scope : Option Scope := none) :
    Except ReplyError Reply × Brain :=
  match b.script.order with
  | none => (.error .notSorted, b)
  | some order =>
    let normal := b.script.normalize false message.toList
    let (text, t) := (answer b.script order ⟨user, scope⟩ normal).run (b.turn user)
    (b.conclude user t (String.ofList normal) (String.ofList text)).map .ok id

end Brain

end Repartee
