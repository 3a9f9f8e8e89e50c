import Repartee.Document.Basic
import Repartee.Regex.Search

/-!
# Syntax checks

What is wrong with a trigger, a condition or a topic name before a document is loaded.

* `Check.pattern`, `Check.condition`, `Check.topicName`.
* `SyntaxFault`, `SyntaxFault.message`.
* `Check.problems`: all faults of a document in the order of its text.
-/

namespace Repartee

/-- A fault in a pattern, a condition or a topic name. -/
inductive SyntaxFault where
  | capitalsInPattern
  | symbolsInPattern
  | pipeAtGroupEnd
  | blankInGroup
  | pipeAtOptionalEnd
  | blankInOptional
  | unmatchedParentheses
  | unmatchedSquare
  | unmatchedCurly
  | unmatchedAngle
  | malformedCondition
  | topicNotLowercase
  | topicNotPlain
  deriving DecidableEq, Repr

/-- The text of a fault. -/
def SyntaxFault.message : SyntaxFault → String
  | capitalsInPattern =>
    "Triggers can't contain uppercase letters, backslashes or dots in UTF-8 mode"
  | symbolsInPattern =>
    "Triggers may only contain lowercase letters, numbers, and these symbols: " ++
      "( | ) [ ] * _ # \x7b \x7d < > = /"
  | pipeAtGroupEnd => "Piped alternations can't begin or end with a |"
  | blankInGroup => "Piped alternations can't include blank entries"
  | pipeAtOptionalEnd => "Piped optionals can't begin or end with a |"
  | blankInOptional => "Piped optionals can't include blank entries"
  | unmatchedParentheses => "Unmatched parenthesis brackets"
  | unmatchedSquare => "Unmatched square brackets"
  | unmatchedCurly => "Unmatched curly brackets"
  | unmatchedAngle => "Unmatched angle brackets"
  | malformedCondition =>
    "Invalid format for condition: should be like 'value symbol value => response'"
  | topicNotLowercase => "Topics should be lowercased and contain only letters and numbers"
  | topicNotPlain => "Topics should contain only letters and numbers in forceCase mode"

namespace Check

/-! ## Patterns -/

/-- A character a pattern may contain outside the UTF-8 mode. -/
def isPlainPatternChar (c : Char) : Bool :=
  ('a' ≤ c && c ≤ 'z') || c.isDigit || "(|)[]*_#@\x7b\x7d<>=/".toList.contains c || isBlank c

/-- A character a pattern may contain in the UTF-8 mode. -/
def isFreePatternChar (c : Char) : Bool := !(('A' ≤ c && c ≤ 'Z') || c == '\\' || c == '.')

/-- One text occurs in another. -/
def occurs (s : String) (t : Text) : Bool := (Text.cutAt? s.toList t).isSome

/-- Two pipes in a row between the brackets `left` and `right`. -/
def blankEntry (left right : Char) : Regex :=
  .concat [.char left, .one (· != right), .someGreedy Regex.isInline, .literal "||".toList,
    .someGreedy Regex.isInline, .char right]

/-- As many opening as closing brackets. -/
def balanced (left right : Char) (t : Text) : Bool := t.count left == t.count right

/-- The first fault of a pattern. -/
def pattern (utf8 : Bool) (t : Text) : Option SyntaxFault :=
  if utf8 && !t.all isFreePatternChar then some .capitalsInPattern
  else if !utf8 && !t.all isPlainPatternChar then some .symbolsInPattern
  else if occurs "(|" t || occurs "|)" t then some .pipeAtGroupEnd
  else if (blankEntry '(' ')').occursIn t then some .blankInGroup
  else if occurs "[|" t || occurs "|]" t then some .pipeAtOptionalEnd
  else if (blankEntry '[' ']').occursIn t then some .blankInOptional
  else if !balanced '(' ')' t then some .unmatchedParentheses
  else if !balanced '[' ']' t then some .unmatchedSquare
  else if !balanced '\x7b' '\x7d' t then some .unmatchedCurly
  else if !balanced '<' '>' t then some .unmatchedAngle
  else none

/-! ## Conditions and topic names -/

/-- Two sides with an operator between them, an arrow, and a reply. -/
def conditionForm : Regex :=
  let blanks := Regex.anyGreedy isBlank
  let operators := ["==", "eq", "!=", "ne", "<>", "<", "<=", ">", ">="]
  .concat [.someLazy Regex.isInline, blanks, .oneOf (operators.map fun s => .literal s.toList),
    blanks, .someLazy Regex.isInline, .literal "=>".toList, .someLazy Regex.isInline]

/-- The fault of a condition. -/
def condition (t : Text) : Option SyntaxFault :=
  if (conditionForm.fullMatch? t).isSome then none else some .malformedCondition

/-- A character a topic name may contain, letters aside. -/
def isTopicChar (c : Char) : Bool := c.isDigit || c == '_' || c == '-' || isBlank c

/-- The fault of a topic name. -/
def topicName (forceCase : Bool) (t : Text) : Option SyntaxFault :=
  if !forceCase && !t.all (fun c => c.isLower || isTopicChar c) then some .topicNotLowercase
  else if !t.all (fun c => c.isAlpha || isTopicChar c) then some .topicNotPlain
  else none

/-! ## Documents -/

/-- A fault with its topic and the text it is in. -/
structure Problem where
  topic : String
  text : String
  fault : SyntaxFault
  deriving DecidableEq, Repr

/-- The text of a problem. -/
def Problem.message (p : Problem) : String :=
  "syntax error in topic '" ++ p.topic ++ "' at \x60" ++ p.text ++ "\x60: " ++ p.fault.message

/-- The faults of a trigger: of its patterns, then of its conditions. -/
def triggerProblems (utf8 : Bool) (topic : String) (g : Trigger) : List Problem :=
  ((g.pattern :: g.previous.toList ++ g.redirect.toList).filterMap fun p =>
      (pattern utf8 p.toList).map fun f => ⟨topic, p, f⟩) ++
    g.conditions.filterMap fun c => (condition c.toList).map fun f => ⟨topic, c, f⟩

/-- The faults of a topic: of its name, then of its triggers. -/
def topicProblems (utf8 forceCase : Bool) (t : Topic) : List Problem :=
  (if t.name = beginTopic then []
    else (topicName forceCase t.name.toList).toList.map fun f => ⟨t.name, t.name, f⟩) ++
    t.triggers.flatMap (triggerProblems utf8 t.name)

/-- All faults of a document. -/
def problems (utf8 forceCase : Bool) (d : Document) : List Problem :=
  d.topics.flatMap (topicProblems utf8 forceCase)

end Check

end Repartee
