import Repartee.Pattern.Basic
import Repartee.Topic.Graph

/-!
# The order of triggers

Triggers are tried by descending weight, then ascending level with untagged ones last, then
category, then descending number of words, then descending length; what ties keeps its order.

* `Rank`, `Rank.of`, `Rank.atMost`: the keys of a pattern and their order.
* `Entry.sort`: entries in the order they are tried, their levels removed.
* `TrialOrder`: the ordered entries of every topic.
-/

namespace Repartee

/-- Kinds of patterns in the order they are tried. -/
inductive Category where
  | atomic
  | optional
  | word
  | number
  | wild
  | loneWord
  | loneNumber
  | loneWild
  deriving DecidableEq, Repr

/-- The place of a category. -/
def Category.place : Category → Nat
  | atomic => 0
  | optional => 1
  | word => 2
  | number => 3
  | wild => 4
  | loneWord => 5
  | loneNumber => 6
  | loneWild => 7

/-- What the order of a pattern depends on. -/
structure Rank where
  weight : Nat
  level : Option Nat
  category : Category
  words : Nat
  length : Nat
  deriving DecidableEq, Repr

namespace Rank

/-- The number of words, wildcards and pipes being separators. -/
def wordCount (t : Text) : Nat :=
  ((t.pieces fun c => isBlank c || c == '*' || c == '#' || c == '_' || c == '|').filter
    (!·.isEmpty)).length

/-- The kind of a pattern without tags that has a number of words. -/
def categoryOf (t : Text) (words : Nat) : Category :=
  if '_' ∈ t then if words > 0 then .word else .loneWord
  else if '#' ∈ t then if words > 0 then .number else .loneNumber
  else if '*' ∈ t then if words > 0 then .wild else .loneWild
  else if '[' ∈ t then .optional
  else .atomic

/-- The keys of a pattern. -/
def of (pattern : Text) : Rank :=
  let bare := Metadata.strip pattern
  let words := wordCount bare
  { weight := Metadata.weight pattern
    level := Metadata.level? pattern
    category := categoryOf bare words
    words
    length := Text.bytes bare }

/-- A level comes before another one; untagged patterns come last. -/
def levelBefore : Option Nat → Option Nat → Bool
  | some a, some b => a < b
  | some _, none => true
  | none, _ => false

/-- A pattern with the first keys is tried no later than one with the second. -/
def atMost (a b : Rank) : Bool :=
  if a.weight ≠ b.weight then b.weight < a.weight
  else if a.level ≠ b.level then levelBefore a.level b.level
  else if a.category ≠ b.category then a.category.place < b.category.place
  else if a.words ≠ b.words then b.words < a.words
  else b.length ≤ a.length

end Rank

/-- Entries in the order they are tried. -/
def Entry.sort (es : List Entry) : List Entry :=
  ((es.map fun e => (Rank.of e.pattern.toList, e)).mergeSort fun a b => a.1.atMost b.1).map
    fun (_, e) => { e with pattern := String.ofList (Metadata.stripLevel e.pattern.toList) }

/-- The ordered entries of every topic: its ordinary triggers, and those that follow a reply. -/
structure TrialOrder where
  ordinary : Table (List Entry)
  previous : Table (List Entry)
  deriving DecidableEq

/-- A function of the names of a table's entries. -/
def Table.ofKeys {α β : Type} (t : Table α) (f : String → β) : Table β :=
  ⟨t.entries.map fun e => (e.1, f e.1), List.pairwise_map.2 t.sorted⟩

/-- The order of all topics. -/
def TrialOrder.build (ts : Topics) (index : PreviousIndex) (limit : Nat) : TrialOrder where
  ordinary := ts.ofKeys fun name => Entry.sort (ts.ordinary limit name)
  previous := ts.ofKeys fun name => Entry.sort (ts.previous index limit name)

end Repartee
