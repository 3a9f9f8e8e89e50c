import Repartee.Document.Basic

/-!
# The topic graph

A topic includes other topics, whose triggers rank with its own, and inherits others, whose
triggers come after them. Both relations are walked depth first up to a limit on the number of
steps, so that cycles end.

* `Topics.previousIndex`: for each topic, pattern and previous pattern the last trigger with them.
* `Topics.ordinary`, `Topics.previous`: the triggers a topic draws on, in the order of the walk.
  Each pattern is prefixed with the number of inheritances it was reached through if any topic on
  the walk inherits.
* `Topics.tree`: the names met on the walk.
-/

namespace Repartee

/-- Topics by name. -/
abbrev Topics := Table Topic

/-- A pattern as it is ranked, and its trigger. -/
structure Entry where
  pattern : String
  id : TriggerId
  deriving DecidableEq, Repr

/-! ## Triggers that follow a reply -/

/-- For a pattern and a previous pattern the position of the trigger. -/
abbrev PreviousPairs := List ((String × String) × Nat)

/-- The positions of the triggers with a previous pattern, the last ones first. -/
def Topic.previousPairs (t : Topic) : PreviousPairs :=
  (t.triggers.zipIdx.filterMap fun (g, i) =>
    g.previous.map fun p => ((g.pattern, p), i)).reverse

/-- The triggers with a previous pattern by topic. -/
abbrev PreviousIndex := Table PreviousPairs

/-- The trigger of a topic with a pattern and a previous pattern. -/
def PreviousIndex.find? (x : PreviousIndex) (topic pattern previous : String) : Option TriggerId :=
  (Table.find? x topic).bind fun pairs => (pairs.lookup (pattern, previous)).map fun i => ⟨topic, i⟩

namespace Topics

/-- The index of the triggers with a previous pattern. -/
def previousIndex (ts : Topics) : PreviousIndex := ts.map Topic.previousPairs

/-- The trigger of an identifier. -/
def trigger? (ts : Topics) (id : TriggerId) : Option Trigger :=
  (ts.find? id.topic).bind fun t => t.triggers[id.index]?

/-! ## Walks -/

/-- A pattern with its level in front. -/
def tagged (level : Nat) (pattern : String) : String :=
  "\x7binherits=" ++ toString level ++ "\x7d" ++ pattern

/-- The entries of the topic's own triggers that `keep` chooses. -/
def own (keep : TriggerId → Trigger → Bool) (t : Topic) (name : String) (tag : Bool)
    (level : Nat) : List Entry :=
  t.triggers.zipIdx.filterMap fun (g, i) =>
    if keep ⟨name, i⟩ g then
      some ⟨if tag then tagged level g.pattern else g.pattern, ⟨name, i⟩⟩
    else none

/-- The entries met on walks of fewer than `n` steps from a topic, at a level and with or without
an inheriting topic before it. -/
def collect (ts : Topics) (keep : TriggerId → Trigger → Bool) :
    (n : Nat) → (name : String) → (level : Nat) → (inherited : Bool) → List Entry
  | 0, _, _, _ => []
  | n + 1, name, level, inherited =>
    match ts.find? name with
    | none => []
    | some t =>
      let tag := !t.inherits.isEmpty || inherited
      t.includes.flatMap (fun u => collect ts keep n u level tag) ++
        t.inherits.flatMap (fun u => collect ts keep n u (level + 1) true) ++
        own keep t name tag level

/-- The triggers without a previous pattern that a topic draws on. -/
def ordinary (ts : Topics) (limit : Nat) (name : String) : List Entry :=
  collect ts (fun _ g => g.previous.isNone) (limit + 1) name 0 false

/-- The triggers with a previous pattern that a topic draws on, replaced ones left out. -/
def previous (ts : Topics) (index : PreviousIndex) (limit : Nat) (name : String) : List Entry :=
  collect ts
    (fun id g => g.previous.any fun p => index.find? id.topic g.pattern p == some id)
    (limit + 1) name 0 false

/-- The names met on walks of fewer than `n` steps. -/
def walk (ts : Topics) : (n : Nat) → String → List String
  | 0, _ => []
  | n + 1, name =>
    name :: match ts.find? name with
      | none => []
      | some t => (t.includes ++ t.inherits).flatMap (walk ts n)

/-- A topic and all topics it draws on. -/
def tree (ts : Topics) (limit : Nat) (name : String) : List String := walk ts (limit + 1) name

end Topics

end Repartee
