import Repartee.Text.Basic
import Repartee.Text.Blank
import Repartee.Text.WordChar

/-!
# Regular expressions

Expressions with ordered alternatives, greedy and lazy repetition, capturing groups and assertions.
The meaning of an expression at a place is the list of its outcomes in order of preference: what
its groups captured, and the place where it ended. Two outcomes that end at the same place can not
be told apart by what follows, so only the preferred one is kept; the list is never longer than the
rest of the text, which bounds the work.

* `Regex.outcomes`: the outcomes at a place, most preferred first, no two with the same end.
* `Regex.fullMatch?`: the captures of the preferred match of a whole text.
* `Regex.groups`: the number of groups, which is the number of captures of every outcome.
-/

namespace Repartee

/-- A condition on a place that takes up no characters. -/
inductive Anchor where
  | start
  | finish
  /-- The start of the text or of a line; with `crlf` a carriage return ends a line too. -/
  | lineStart (crlf : Bool)
  /-- The end of the text or of a line. -/
  | lineEnd (crlf : Bool)
  | wordBoundary
  | noWordBoundary
  | wordStart
  | wordEnd
  /-- No word character before the place. -/
  | startHalf
  /-- No word character behind the place. -/
  | endHalf
  deriving DecidableEq, Repr

/-- A regular expression. -/
inductive Regex where
  | empty
  | one (accepts : Char → Bool)
  | anchor (a : Anchor)
  | seq (r s : Regex)
  | alt (r s : Regex)
  /-- At least `least` characters of a class; greedy ones take more first. -/
  | many (accepts : Char → Bool) (least : Nat) (greedy : Bool)
  /-- At least `least` copies, and as many more as `more` allows; greedy ones take more first. -/
  | copies (r : Regex) (least : Nat) (more : Option Nat) (greedy : Bool)
  | group (r : Regex)

namespace Regex

/-! ## Places -/

/-- A place in a text: the number of characters before it, the last of them, and the text after
it. -/
structure Place where
  pos : Nat
  last : Option Char
  rest : Text
  deriving DecidableEq, Repr

/-- The start of a text. -/
def Place.begin (t : Text) : Place := ⟨0, none, t⟩

/-- A word character stands before a place. -/
def Place.wordBefore (p : Place) : Bool := p.last.any isWordChar

/-- A word character stands behind a place. -/
def Place.wordBehind (p : Place) : Bool := p.rest.head?.any isWordChar

/-- An assertion holds at a place. -/
def Place.satisfies (p : Place) : Anchor → Bool
  | .start => p.last.isNone
  | .finish => p.rest.isEmpty
  | .lineStart crlf => p.last.isNone || p.last == some '\n' ||
      (crlf && p.last == some '\r' && p.rest.head? != some '\n')
  | .lineEnd crlf => p.rest.isEmpty || (crlf && p.rest.head? == some '\r') ||
      (p.rest.head? == some '\n' && !(crlf && p.last == some '\r'))
  | .wordBoundary => p.wordBefore != p.wordBehind
  | .noWordBoundary => p.wordBefore == p.wordBehind
  | .wordStart => !p.wordBefore && p.wordBehind
  | .wordEnd => p.wordBefore && !p.wordBehind
  | .startHalf => !p.wordBefore
  | .endHalf => !p.wordBehind

/-- The part of a text between two places. -/
structure Span where
  start : Place
  stop : Place
  deriving DecidableEq, Repr

/-- The characters of a span. -/
def Span.text (s : Span) : Text := s.start.rest.take (s.stop.pos - s.start.pos)

/-- What the groups captured, `none` for a group that took no part, and where the match ended. -/
structure Outcome where
  captures : List (Option Span)
  stop : Place
  deriving DecidableEq, Repr

/-! ## One outcome for each end -/

/-- A set of positions; the bits of the number tell which are in it. -/
abbrev Marks := Nat

/-- The outcomes with an unmarked end, the first one for each end, and the marks with these ends
added. -/
def fresh (marks : Marks) : List Outcome → List Outcome × Marks
  | [] => ([], marks)
  | o :: os =>
    if marks.testBit o.stop.pos then fresh marks os
    else
      let (rest, marks) := fresh (marks ||| 1 <<< o.stop.pos) os
      (o :: rest, marks)

/-- Of the outcomes with the same end keep the first. -/
def distinct (os : List Outcome) : List Outcome := (fresh 0 os).1

/-- Go on from each outcome in turn, and keep the first outcome for each unmarked end. -/
def goOn (next : Outcome → List Outcome) : Marks → List Outcome → List Outcome
  | _, [] => []
  | marks, o :: os =>
    let (found, marks) := fresh marks (next o)
    found ++ goOn next marks os

/-! ## Repetition -/

/-- The places behind the first characters of a text that a class accepts, the nearest first. -/
def run (accepts : Char → Bool) : (pos : Nat) → (last : Option Char) → Text → List Place
  | pos, last, [] => [⟨pos, last, []⟩]
  | pos, last, c :: cs =>
    ⟨pos, last, c :: cs⟩ :: if accepts c then run accepts (pos + 1) (some c) cs else []

/-- Exactly `n` further copies. -/
def exactly (step : Place → List Outcome) : (n : Nat) → List Outcome → List Outcome
  | 0, os => os
  | n + 1, os => exactly step n (goOn (fun o => step o.stop) 0 os)

/-- At most `n` further copies. -/
def atMost (step : Place → List Outcome) (greedy : Bool) : (n : Nat) → Outcome → List Outcome
  | 0, o => [o]
  | n + 1, o =>
    let longer := goOn (atMost step greedy n) 0 (step o.stop)
    distinct (if greedy then longer ++ [o] else o :: longer)

/-- What a repetition may do behind an outcome: try another copy, or stop. -/
inductive Task where
  | again (o : Outcome)
  | stop (o : Outcome)

/-- The tasks behind an outcome, in the order of preference. -/
def Task.behind (greedy : Bool) (o : Outcome) : List Task :=
  if greedy then [again o, stop o] else [stop o, again o]

/-- Carry out the tasks, at most `n` of them, until none is left. Another copy is tried only once
from each place; the marks tell from which it was. -/
def anyNumber (step : Place → List Outcome) (greedy : Bool) :
    (n : Nat) → Marks → List Task → List Outcome
  | 0, _, _ | _ + 1, _, [] => []
  | n + 1, marks, .stop o :: ts => o :: anyNumber step greedy n marks ts
  | n + 1, marks, .again o :: ts =>
    if marks.testBit o.stop.pos then anyNumber step greedy n marks ts
    else
      anyNumber step greedy n (marks ||| 1 <<< o.stop.pos)
        ((step o.stop).flatMap (Task.behind greedy) ++ ts)

/-! ## Outcomes -/

/-- The number of groups of an expression. -/
def groups : Regex → Nat
  | empty | one _ | anchor _ | many _ _ _ => 0
  | seq r s | alt r s => r.groups + s.groups
  | copies r _ _ _ => r.groups
  | group r => r.groups + 1

/-- The captures of an expression that took no part. -/
def absent (r : Regex) : List (Option Span) := List.replicate r.groups none

/-- The outcomes at a place, the preferred ones first. From a place with `n` characters behind it a
repetition tries another copy from at most `n + 1` places, and each time adds at most `n + 1` pairs
of tasks. -/
def outcomes : Regex → Place → List Outcome
  | empty, p => [⟨[], p⟩]
  | one accepts, p =>
    match p.rest with
    | [] => []
    | c :: cs => if accepts c then [⟨[], ⟨p.pos + 1, some c, cs⟩⟩] else []
  | anchor a, p => if p.satisfies a then [⟨[], p⟩] else []
  | many accepts least greedy, p =>
    let stops := (run accepts p.pos p.last p.rest).drop least
    (if greedy then stops.reverse else stops).map fun q => ⟨[], q⟩
  | seq r s, p =>
    goOn (fun o => (s.outcomes o.stop).map fun q => ⟨o.captures ++ q.captures, q.stop⟩) 0
      (r.outcomes p)
  | alt r s, p =>
    distinct (((r.outcomes p).map fun o => ⟨o.captures ++ s.absent, o.stop⟩) ++
      (s.outcomes p).map fun o => ⟨r.absent ++ o.captures, o.stop⟩)
  | copies r least more greedy, p =>
    let starts := exactly r.outcomes least [⟨r.absent, p⟩]
    match more with
    | some n => goOn (atMost r.outcomes greedy n) 0 starts
    | none =>
      distinct (anyNumber r.outcomes greedy (2 * ((p.rest.length + 2) * (p.rest.length + 2))) 0
        (starts.flatMap (Task.behind greedy)))
  | group r, p => (r.outcomes p).map fun o => ⟨some ⟨p, o.stop⟩ :: o.captures, o.stop⟩

/-- The captures of the preferred match of the whole text. -/
def fullMatch? (r : Regex) (t : Text) : Option (List (Option Text)) :=
  ((r.outcomes (.begin t)).find? fun o => o.stop.rest.isEmpty).map fun o =>
    o.captures.map fun c => c.map Span.text

/-! ## Abbreviations -/

/-- One given character. -/
def char (c : Char) : Regex := one (· == c)

/-- Expressions one after another. -/
def concat (rs : List Regex) : Regex := rs.foldl seq empty

/-- A text as it is written. -/
def literal (t : Text) : Regex := concat (t.map char)

/-- The first alternative and the others, tried in order. -/
def choice (r : Regex) : List Regex → Regex
  | [] => r
  | s :: rs => alt r (choice s rs)

/-- One of some alternatives, tried in order; the empty text if there are none. -/
def oneOf : List Regex → Regex
  | [] => empty
  | r :: rs => choice r rs

/-- One or more characters of a class, as few as possible. -/
def someLazy (accepts : Char → Bool) : Regex := many accepts 1 false

/-- One or more characters of a class, as many as possible. -/
def someGreedy (accepts : Char → Bool) : Regex := many accepts 1 true

/-- Any number of characters of a class, as few as possible. -/
def anyLazy (accepts : Char → Bool) : Regex := many accepts 0 false

/-- Any number of characters of a class, as many as possible. -/
def anyGreedy (accepts : Char → Bool) : Regex := many accepts 0 true

/-- Copies of an expression. -/
def repetition (r : Regex) (least : Nat) (more : Option Nat) (greedy : Bool) : Regex :=
  match r, more with
  | one accepts, none => many accepts least greedy
  | r, more => copies r least more greedy

/-- Any character but a line feed. -/
def isInline (c : Char) : Bool := c != '\n'

end Regex

end Repartee
