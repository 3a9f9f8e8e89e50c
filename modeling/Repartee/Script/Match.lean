import Repartee.Script.Basic

/-!
# The search for a trigger

* `Script.findMatch`: the first trigger that matches a message, and how many were tried. At depth
  zero the triggers that follow a reply come first, those of the whole topic tree; then come the
  ordinary triggers of the topic.
-/

namespace Repartee

/-- A trigger that matched, with what it captured from the message and from the last reply. -/
structure Found where
  id : TriggerId
  stars : List String
  botstars : List String := []
  viaPrevious : Bool := false
  deriving DecidableEq, Repr

namespace Script

/-- What the patterns of a script may refer to, for a user. -/
def scope (s : Script) (vars : Table String) (user : UserData) : Pattern.Scope where
  engine := s.engine
  vars
  arrays := s.arrays
  user
  utf8 := s.options.utf8
  normalizeReply := s.normalize true

/-- What an entry captures from a message. -/
def ordinary? (scope : Pattern.Scope) (message : Text) (e : Entry) : Option Found :=
  (Pattern.stars? scope e.pattern message).map fun stars => { id := e.id, stars }

/-- What an entry captures from the last reply and from a message. -/
def afterReply? (s : Script) (scope : Pattern.Scope) (message lastReply : Text) (e : Entry) :
    Option Found := do
  let previous ← (s.trigger? e.id).bind (·.previous)
  let botstars ← Pattern.stars? scope previous lastReply
  let stars ← Pattern.stars? scope e.pattern message
  pure { id := e.id, stars, botstars, viaPrevious := true }

/-- What is found at the first entry that captures something, and the number of entries tried. -/
def firstFound (captured? : Entry → Option Found) : List Entry → Option Found × Nat
  | [] => (none, 0)
  | e :: es =>
    match captured? e with
    | some f => (some f, 1)
    | none =>
      let (f, n) := firstFound captured? es
      (f, n + 1)

/-- The entries that follow a reply, of a topic and all topics it draws on. -/
def afterReplyEntries (s : Script) (order : TrialOrder) (topic : String) : List Entry :=
  (s.topics.tree s.depth topic).flatMap fun name => (order.previous.find? name).getD []

/-- The first trigger that matches a message, and the number of triggers tried. -/
def findMatch (s : Script) (order : TrialOrder) (vars : Table String) (user : UserData)
    (message : Text) (topic : String) (depth : Nat) : Option Found × Nat :=
  let scope := s.scope vars user
  let (first, m) :=
    if depth = 0 then
      firstFound (s.afterReply? scope message (s.normalize true (user.history.nthReply 1).toList))
        (s.afterReplyEntries order topic)
    else (none, 0)
  match first with
  | some f => (some f, m)
  | none =>
    let (f, n) := firstFound (ordinary? scope message) ((order.ordinary.find? topic).getD [])
    (f, m + n)

end Script

end Repartee
