import Repartee.Pattern.Check
import Repartee.Script.Basic
import Repartee.Text.LeadingInt

/-!
# Loading a document

* `LoadError`, `LoadError.message`: why a strict bot refuses a document.
* `Script.loadObjects`: hand the macros of a document to their handlers.
* `Script.define`: take over substitutions, arrays, topics and the depth limit.
-/

namespace Repartee

/-- Why a document is refused. -/
inductive LoadError where
  | malformed (p : Check.Problem)
  | objectLoad (name language : String) (source : MacroError)
  deriving DecidableEq, Repr

/-- The text of a refusal. -/
def LoadError.message : LoadError → String
  | malformed p => p.message
  | objectLoad name language source =>
    "object '" ++ name ++ "' (" ++ language ++ ") failed to load: " ++ source.message

namespace Script

/-- Hand macros to their handlers. A macro of a language without handler is passed over, and so is
one that is refused, unless the bot is strict. -/
def loadObjects (s : Script) : List ObjectMacro → Option LoadError × Script
  | [] => (none, s)
  | o :: os =>
    match s.handlers.find? o.language with
    | none => loadObjects s os
    | some h =>
      match h.load o.name o.code with
      | .ok h =>
        loadObjects
          { s with
            handlers := s.handlers.insert o.language h
            languages := s.languages.insert o.name o.language } os
      | .error e =>
        if s.options.strict then (some (.objectLoad o.name o.language e), s)
        else loadObjects s os

/-- A value that sets an entry; the deleting mark is none. -/
def definition? (value : String) : Option String := if value = undefMark then none else some value

/-- Define or delete variables. -/
def defineAll (t : Table String) (definitions : Table String) : Table String :=
  definitions.entries.foldl (fun t e => t.assign e.1 (definition? e.2)) t

/-- Define or delete phrases. -/
def substituteAll (s : Substitution) (definitions : Table String) : Substitution :=
  definitions.entries.foldl (fun s e => s.assign e.1 (definition? e.2)) s

/-- Define arrays; one in which every item is the deleting mark is deleted. -/
def arrangeAll (t : Table (List String)) (definitions : Table (List String)) :
    Table (List String) :=
  definitions.entries.foldl
    (fun t e => t.assign e.1 (if e.2.any (· ≠ undefMark) then some e.2 else none)) t

/-- The depth limit that a global variable asks for. -/
def depthOf (options : Options) (value : String) : Nat :=
  match Text.leadingInt? value.toList with
  | some (.ofNat n) => n
  | _ => options.depth

/-- Add a topic, merged into an earlier one of its name. -/
def addTopic (ts : Topics) (t : Topic) : Topics :=
  match ts.find? t.name with
  | some u => ts.insert t.name (u.merge t)
  | none => ts.insert t.name t

/-- Add topics in order. -/
def addTopics (ts : Topics) (us : List Topic) : Topics := us.foldl addTopic ts

/-- Take over the begin block and the topics of a document; the triggers need sorting again. -/
def define (s : Script) (d : Document) : Script :=
  let topics := addTopics s.topics d.topics
  { s with
    depth := match d.begin.global.find? "depth" with
      | some value => depthOf s.options value
      | none => s.depth
    subs := substituteAll s.subs d.begin.sub
    person := substituteAll s.person d.begin.person
    arrays := arrangeAll s.arrays d.begin.array
    topics
    previous := topics.previousIndex
    order := none }

end Script

end Repartee
