import Repartee.Table

/-!
# Documents

The content a bot is loaded with: a begin block, topics of triggers, and object macros.

* `Trigger`, `Topic`, `Begin`, `ObjectMacro`, `Document`.
* `TriggerId`: a topic and a position in it.
* `Topic.merge`: two definitions of one topic; relations are ordered sets, triggers append.
-/

namespace Repartee

/-- The topic every user starts in. -/
def defaultTopic : String := "random"

/-- The topic that holds the triggers of the begin block. -/
def beginTopic : String := "__begin__"

/-- The value that deletes an entry instead of setting it. -/
def undefMark : String := "<undef>"

/-- What is read where nothing was set. -/
def undefined : String := "undefined"

/-- A topic and a position in its list of triggers. -/
structure TriggerId where
  topic : String
  index : Nat
  deriving DecidableEq, Repr

/-- A pattern of the user's side with everything the bot may answer to it. -/
structure Trigger where
  pattern : String := ""
  replies : List String := []
  conditions : List String := []
  redirect : Option String := none
  previous : Option String := none
  deriving DecidableEq, Repr, Inhabited

/-- A named group of triggers that may draw on other topics. -/
structure Topic where
  name : String := ""
  includes : List String := []
  inherits : List String := []
  triggers : List Trigger := []
  deriving DecidableEq, Repr, Inhabited

/-- Variables, substitutions and arrays declared before any topic. -/
structure Begin where
  global : Table String := ∅
  var : Table String := ∅
  sub : Table String := ∅
  person : Table String := ∅
  array : Table (List String) := ∅
  deriving DecidableEq, Inhabited

/-- The source of a macro, for the handler of its language. -/
structure ObjectMacro where
  name : String
  language : String
  code : String := ""
  deriving DecidableEq, Repr, Inhabited

/-- One unit of content. -/
structure Document where
  begin : Begin := {}
  topics : List Topic := []
  objects : List ObjectMacro := []
  deriving DecidableEq, Inhabited

/-- Append a value that is not in the list yet. -/
def appendNew (xs : List String) (x : String) : List String := if x ∈ xs then xs else xs ++ [x]

/-- Append the new ones among some values. -/
def appendAllNew (xs ys : List String) : List String := ys.foldl appendNew xs

/-- A topic extended by another definition of it. -/
def Topic.merge (t u : Topic) : Topic :=
  { t with
    includes := appendAllNew t.includes u.includes
    inherits := appendAllNew t.inherits u.inherits
    triggers := t.triggers ++ u.triggers }

end Repartee
