import Repartee.Condition
import Repartee.Reply.Choice
import Repartee.Reply.Expand
import Repartee.Script.Match

/-!
# Resolving a message

A message is answered by the first trigger that matches it: by its redirect, else by its first
condition that holds, else by one of its replies. Redirects resolve further messages one level
deeper, and the number of levels is limited.

* `Resolve.firstReply`, `Resolve.chosenReply`: the reply of the first condition that holds, or
  another one.
* `Resolve.openingReply`: the tags a begin reply obeys at once.
* **`resolve`**: the reply to a message, by recursion on the levels left.
-/

namespace Repartee

namespace Resolve

/-! ## Conditions -/

/-- A side of a comparison, expanded; an empty one is undefined. -/
def side (expand : Text → Talk Text) (t : Text) : Talk Text := do
  let t ← expand t
  pure (if t = [] then undefined.toList else t)

/-- A condition holds, given how texts are expanded. -/
def holds (expand : Text → Talk Text) (test : Text) : Talk Bool :=
  match Condition.comparison? test with
  | none => pure false
  | some (left, op, right) => do
    let left ← side expand left
    let right ← side expand right
    pure (op.holds left right)

/-- The reply of the first condition that holds. -/
def firstReply (expand : Text → Talk Text) : List String → Talk (Option Text)
  | [] => pure none
  | c :: cs =>
    match Condition.split? c.toList with
    | none => firstReply expand cs
    | some (test, reply) => do
      if ← holds expand test then pure (some reply) else firstReply expand cs

/-- The reply of a trigger: that of its first condition that holds, else one of its replies. -/
def chosenReply (expand : Text → Talk Text) (g : Trigger) : Talk Text := do
  match ← firstReply expand g.conditions with
  | some reply => pure reply
  | none => do pure ((← Choice.pick g.replies).getD "").toList

/-! ## The begin block -/

/-- An assignment in a begin reply: a name and a value on one line. -/
def setTag : Scan (Text × Text) := fun t => do
  let (name, rest) ← Scan.delimited "<set " (· != '\n') 1 "=" t
  let (value, rest) ← Scan.until? (· != '\n') ['>'] 1 rest
  pure ((name, value), rest)

/-- Carry out the topic changes and assignments of a begin reply, and nothing else. -/
def openingReply (user : String) (t : Text) : Talk Text := do
  let t ← Expand.topics user t
  Talk.replacing setTag (fun (name, value) => do
    Talk.setVar user name value
    pure []) Expand.limit t

/-! ## The search -/

/-- A user in a topic that does not exist is moved to the default topic. -/
def leaveUnknownTopic (s : Script) (user : String) : Talk UserData := do
  let data := (← Talk.data? user).getD {}
  if s.topics.contains data.topic then pure data
  else do
    Talk.setVar user "topic".toList defaultTopic.toList
    pure (data.setVar "topic" defaultTopic)

/-- Note a search and its outcome. -/
def record (step : Step) (id : Option TriggerId) : Talk Unit :=
  modify fun t =>
    { t with
      steps := t.steps ++ [step]
      lastMatch := step.matched
      initialMatch := if step.depth = 0 then step.matched else t.initialMatch
      triggers := (if step.depth = 0 then [] else t.triggers) ++ id.toList }

/-- Search for the trigger of a message and note what was found. -/
def search (s : Script) (order : TrialOrder) (depth : Nat) (kind : StepKind) (data : UserData)
    (topic : String) (message : Text) : Talk (Option (Found × Trigger)) := do
  let turn ← get
  let (found, candidates) := s.findMatch order turn.vars data message topic depth
  let matched := found.bind fun f => (s.trigger? f.id).map fun g => (f, g)
  record
    { depth, kind, message := String.ofList message, topic, candidates
      matched := matched.map (·.2.pattern)
      viaPrevious := found.any (·.viaPrevious) }
    (matched.map (·.1.id))
  pure matched

/-- Keep the stars of the first ordinary match. -/
def keepStars (depth : Nat) (kind : StepKind) (stars : List String) : Talk Unit :=
  modify fun t =>
    { t with
      stars := if kind = .normal ∧ depth = 0 ∧ t.stars.isNone then some stars else t.stars }

end Resolve

open Resolve

/-- Answer a message with `levels` levels left, `depth` levels down. -/
def resolve (s : Script) (order : TrialOrder) (a : Speaker) :
    (levels : Nat) → (depth : Nat) → StepKind → Text → Talk Text
  | 0, _, _, _ => pure s.options.notices.deepRecursion.toList
  | levels + 1, depth, kind, message => do
    let data ← leaveUnknownTopic s a.user
    let topic := match kind with
      | .opening => beginTopic
      | .normal => data.topic
    if !s.topics.contains topic then
      pure ("ERR: No default topic '" ++ defaultTopic ++ "' was found!").toList
    else
      let expandWith := expand s a (resolve s order a levels (depth + 1) .normal)
      let opening := kind = .opening ∧ depth = 0
      let notice (text : String) : Talk Text :=
        if opening then pure text.toList else expandWith [] [] text.toList
      match ← search s order depth kind data topic message with
      | none => notice s.options.notices.notMatched
      | some (found, trigger) => do
        keepStars depth kind found.stars
        let expandHere := expandWith found.stars found.botstars
        match trigger.redirect with
        | some redirect => do
          let target ← expandHere redirect.toList
          resolve s order a levels (depth + 1) kind (s.normalize false target)
        | none => do
          let reply ← chosenReply expandHere trigger
          if reply = [] then notice s.options.notices.notFound
          else if opening then openingReply a.user reply
          else expandHere reply

end Repartee
