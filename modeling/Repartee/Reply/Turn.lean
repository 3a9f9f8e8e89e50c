import Repartee.Dice
import Repartee.Script.Basic

/-!
# Turns

The state of the bot while it answers one message: its tables and sessions, its dice, and what was
noted on the way.

* `Step`: one search for a trigger.
* `Turn`, `Talk`: the state and the computations on it.
* `Talk.data?`, `Talk.getVar`, `Talk.setVar`: read and write the session of a user.
* `Talk.roll`, `Talk.replacing`: roll the dice, replace parts of a text with effects.
-/

namespace Repartee

/-- The pass of a reply a search belongs to. -/
inductive StepKind where
  /-- The request to the begin block. -/
  | opening
  | normal
  deriving DecidableEq, Repr

/-- One search for a trigger. -/
structure Step where
  depth : Nat
  kind : StepKind
  /-- The message as it was compared. -/
  message : String
  topic : String
  /-- The number of triggers tried. -/
  candidates : Nat
  /-- The pattern that matched. -/
  matched : Option String
  viaPrevious : Bool
  deriving DecidableEq, Repr

/-- The user who is answered, and what the host passes through to macros. -/
structure Speaker where
  user : String
  scope : Option Scope := none
  deriving DecidableEq, Repr

/-- The state of a bot while it answers. -/
structure Turn extends Desk where
  dice : Dice
  /-- The pattern matched last. -/
  lastMatch : Option String := none
  /-- The pattern matched first. -/
  initialMatch : Option String := none
  /-- The triggers matched. -/
  triggers : List TriggerId := []
  /-- The stars of the first ordinary match. -/
  stars : Option (List String) := none
  steps : List Step := []

/-- A computation on a turn. -/
abbrev Talk := StateM Turn

namespace Talk

/-- The data of a user, if the user is known. -/
def data? (user : String) : Talk (Option UserData) := do
  pure ((← get).sessions.data? user)

/-- Set a variable of a user. -/
def setVar (user : String) (name value : Text) : Talk Unit :=
  modify fun t =>
    { t with
      sessions := t.sessions.set user (.setting (String.ofList name) (String.ofList value)) }

/-- A variable of a user. -/
def getVar (user : String) (name : Text) : Talk Text := do
  pure (((← data? user).map (·.var (String.ofList name))).getD undefined).toList

/-- A random number below `n`. -/
def roll (n : Nat) : Talk Nat := modifyGet fun t =>
  let (i, dice) := t.dice.roll n
  (i, { t with dice })

/-- Replace the first thing the scan finds, again and again, at most `n` times, with effects. -/
def replacing {α : Type} (p : Scan α) (f : α → Talk Text) : (n : Nat) → Text → Talk Text
  | 0, t => pure t
  | n + 1, t =>
    match p.find? t with
    | none => pure t
    | some (before, a, after) => do
      let new ← f a
      replacing p f n (before ++ new ++ after)

end Talk

end Repartee
