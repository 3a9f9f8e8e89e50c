import Repartee.Pattern.Basic
import Repartee.Text.Casing
import Repartee.Regex.Engine
import Repartee.Session.UserData

/-!
# Matching patterns

* `Pattern.Scope`: the state that arrays and references are resolved in.
* `Pattern.compile`: the expression of a list of parts. Of the alternatives of a bracket those that
  name an unknown array are dropped; elsewhere an unknown array is a fault, and so is an expression
  nested too deep.
* `Pattern.matcher`: a plain text for a pattern without structure, else an expression that the
  engine takes.
* `Pattern.Scope.Takes`: the engine takes the expression of a pattern.
* `Pattern.stars?`: what the wildcards and groups of a pattern captured from a message.
-/

namespace Repartee

/-- Only plain letters, digits and spaces; in the other mode all but what would break tags. -/
def stripSpecial (utf8 : Bool) (t : Text) : Text :=
  t.filter fun c => if utf8 then !(c == '<' || c == '>' || c == '\\') else c.isAlphanum || c == ' '

namespace Pattern

/-- What a pattern may refer to. -/
structure Scope where
  /-- What compiles the expressions. -/
  engine : Regex.Engine
  vars : Table String
  arrays : Table (List String)
  user : UserData
  utf8 : Bool
  /-- The form in which an earlier reply is compared. -/
  normalizeReply : Text → Text

/-- Why a pattern can not be matched. -/
inductive Fault where
  | unclosed (bracket : Char)
  | tooManyOptionals
  | missingArray (name : String)
  | tooNested
  | tooLarge
  deriving DecidableEq, Repr

/-- The optionals a pattern may have. -/
def optionalLimit : Nat := 50

/-- The levels to which an expression may be nested as it is written. -/
def nestingLimit : Nat := 250

/-- The text of a reference. -/
def Scope.resolve (s : Scope) : Reference → Text
  | .bot name => Text.lower (stripSpecial s.utf8 ((s.vars.find? name).getD "").toList)
  | .get name => Text.lower (s.user.var name).toList
  | .input n => (s.user.history.nthInput n).toList
  | .reply n => s.normalizeReply (s.user.history.nthReply n).toList

/-! ## Expressions -/

/-- The expression of a wildcard; inside an optional it captures nothing. -/
def wildcard (captured : Bool) (w : Wildcard) : Regex :=
  let r := Regex.someLazy <| match w with
    | .any => Regex.isInline
    | .digits => isDigit
    | .word => fun c => !(isBlank c || isDigit c)
  if captured then .group r else r

/-- The blanks beside an optional, or a word boundary where there are none. -/
def boundary : Regex := .alt (Regex.someGreedy isBlank) (.anchor .wordBoundary)

/-- A literal character, or any other part of an expression and the levels its written form is
nested to. Brackets, repetitions, lists of things side by side and the members of a class are a
level each. -/
inductive Piece where
  | char (c : Char)
  | part (r : Regex) (nesting : Nat)

/-- The expression of a piece. -/
def Piece.regex : Piece → Regex
  | char c => .char c
  | part r _ => r

/-- The levels of a piece. -/
def Piece.nesting : Piece → Nat
  | char _ => 0
  | part _ n => n

/-- Pieces one after another; they are given in reverse. -/
def joinPieces (out : List Piece) : Regex := Regex.concat (out.reverse.map Piece.regex)

/-- The levels of the deepest of some things. -/
def deepest (ns : List Nat) : Nat := ns.foldr max 0

/-- The levels of things side by side; one alone adds none. -/
def beside : List Nat → Nat
  | [] => 0
  | [n] => n
  | ns => deepest ns + 1

/-- The levels of pieces one after another. -/
def nestingOf (out : List Piece) : Nat := beside (out.map Piece.nesting)

/-- The levels of a wildcard in its bracket: a repetition, and a class of two members for `_`. -/
def wildcardNesting : Wildcard → Nat
  | .any | .digits => 2
  | .word => 4

/-- The levels of the blanks beside an optional. -/
def boundaryNesting : Nat := 3

/-- One of some texts. -/
def oneOfTexts (ts : List Text) : Piece :=
  .part (Regex.oneOf (ts.map Regex.literal))
    (beside (ts.map fun t => beside (t.map fun _ => 0)) + 1)

/-- The pieces without the literal spaces in front. -/
def dropSpaces : List Piece → List Piece
  | .char ' ' :: out => dropSpaces out
  | out => out

/-- Nothing or one of some alternatives, each between boundaries. -/
def optional (alternatives : List (List Piece)) : Piece :=
  .part
    (alternatives.foldr
      (fun out rest => .alt (Regex.concat [boundary, joinPieces out, boundary]) rest) boundary)
    (beside (alternatives.map (fun out =>
      beside (boundaryNesting :: out.map Piece.nesting ++ [boundaryNesting])) ++
        [boundaryNesting]) + 1)

/-- One of some alternatives, captured. -/
def group (alternatives : List (List Piece)) : Piece :=
  .part (.group (Regex.oneOf (alternatives.map joinPieces)))
    (beside (alternatives.map nestingOf) + 1)

/-- A run that counts the optionals met, also where it fails. -/
abbrev Compile (α : Type) := ExceptT Fault (StateM Nat) α

/-- Count one more optional. -/
def countOptional : Compile Unit := do
  let n ← modifyGet fun n => (n + 1, n + 1)
  if optionalLimit < n then throw .tooManyOptionals

/-- A run that reports a missing array instead of failing. -/
def Compile.orMissing {α : Type} (run : Compile α) : Compile (Except String α) :=
  tryCatch (Except.ok <$> run) fun
    | .missingArray name => pure (.error name)
    | e => throw e

/-- The alternatives that are left; a fault if arrays were missing and none is. -/
def survivors : List (List Piece) × Option String → Compile (List (List Piece))
  | ([], some name) => throw (.missingArray name)
  | (outs, _) => pure outs

mutual

/-- The pieces of a part, put before `out`. -/
def compileItem (s : Scope) (captured : Bool) (out : List Piece) : Item → Compile (List Piece)
  | .char c => pure (.char c :: out)
  | .wild w => pure (.part (wildcard captured w) (wildcardNesting w) :: out)
  | .array name =>
    match s.arrays.find? name with
    | none | some [] => throw (.missingArray name)
    | some items => pure (oneOfTexts (items.map fun i => Text.lower i.toList) :: out)
  | .reference r => pure ((s.resolve r).reverse.map Piece.char ++ out)
  | .optional alternatives => do
    countOptional
    match ← (compileEach s false alternatives >>= survivors).orMissing with
    | .ok outs => pure (optional outs :: dropSpaces out)
    | .error _ => pure (optional [] :: dropSpaces out)
  | .group alternatives => do
    let outs ← compileEach s captured alternatives >>= survivors
    pure (group outs :: out)
  | .unclosed bracket => throw (.unclosed bracket)

/-- The pieces of a list of parts, put before `out`. -/
def compileItems (s : Scope) (captured : Bool) (out : List Piece) :
    List Item → Compile (List Piece)
  | [] => pure out
  | i :: is => do compileItems s captured (← compileItem s captured out i) is

/-- The pieces of the alternatives without a missing array, and the first missing array. -/
def compileEach (s : Scope) (captured : Bool) :
    List (List Item) → Compile (List (List Piece) × Option String)
  | [] => pure ([], none)
  | is :: rest => do
    let first ← (compileItems s captured [] is).orMissing
    let (outs, missing) ← compileEach s captured rest
    match first with
    | .ok out => pure (out :: outs, missing)
    | .error name => pure (outs, some name)

end

/-- The expression of pieces for a whole message, unless it is nested too deep. Between the anchors
at its ends the pieces are side by side, however few they are. -/
def assemble (out : List Piece) : Except Fault Regex :=
  if nestingLimit ≤ deepest (out.map Piece.nesting) then .error .tooNested else .ok (joinPieces out)

/-- The expression of a list of parts. -/
def compile (s : Scope) (is : List Item) : Except Fault Regex :=
  ((compileItems s true [] is).run 0).1.bind assemble

/-! ## Matching -/

/-- How a pattern is compared with a message. -/
inductive Matcher where
  | exact (t : Text)
  | regex (r : Regex)

/-- The expression of a tidied pattern. -/
def expression (s : Scope) (t : Text) : Except Fault Regex :=
  if t = ['*'] then .ok (.group (.anyLazy Regex.isInline)) else compile s (parse t)

/-- Give an expression for a whole message to the engine, which refuses it if its program is too
large. -/
def submit (e : Regex.Engine) (r : Regex) : Except Fault Matcher :=
  if e.Takes r.whole then .ok (.regex r) else .error .tooLarge

/-- How a pattern is compared in a state. -/
def matcher (s : Scope) (pattern : Text) : Except Fault Matcher :=
  let t := tidy pattern
  if !t.any isSpecial then .ok (.exact t) else (expression s t).bind (submit s.engine)

/-- What a message leaves for the stars; a group that took no part reads as undefined. -/
def Matcher.stars? : Matcher → Text → Option (List String)
  | exact t, message => if t = message then some [] else none
  | regex r, message =>
    (r.fullMatch? message).map fun captures =>
      captures.map fun c => (c.map String.ofList).getD undefined

/-- The stars of a message that a pattern matches. -/
def stars? (s : Scope) (pattern : String) (message : Text) : Option (List String) :=
  match matcher s pattern.toList with
  | .ok m => m.stars? message
  | .error _ => none

section

variable {s : Scope} {pattern : Text} {m : Matcher} {r : Regex}

/-! ## What a pattern is compared with -/

theorem matcher_of_plain (h : (tidy pattern).any isSpecial = false) :
    matcher s pattern = .ok (.exact (tidy pattern)) := by
  rw [matcher]
  simp only [h, Bool.not_false, if_true]

theorem matcher_of_special (h : (tidy pattern).any isSpecial) :
    matcher s pattern = (expression s (tidy pattern)).bind (submit s.engine) := by
  rw [matcher]
  simp only [h, Bool.not_true, Bool.false_eq_true, if_false]

/-- The engine takes an expression or refuses it. -/
theorem submit_cases (e : Regex.Engine) (r : Regex) :
    e.Takes r.whole ∧ submit e r = .ok (.regex r) ∨
      ¬e.Takes r.whole ∧ submit e r = .error .tooLarge := by
  by_cases h : e.Takes r.whole
  · exact .inl ⟨h, if_pos h⟩
  · exact .inr ⟨h, if_neg h⟩

/-- What a pattern with structure is compared with is its expression. -/
theorem expression_of_matcher (hs : (tidy pattern).any isSpecial)
    (h : matcher s pattern = .ok m) :
    ∃ r, expression s (tidy pattern) = .ok r ∧ m = .regex r := by
  rw [matcher_of_special hs] at h
  cases hr : expression s (tidy pattern) with
  | error e =>
    rw [hr] at h
    cases h
  | ok r =>
    rw [hr] at h
    rcases submit_cases s.engine r with ⟨-, ha⟩ | ⟨-, ha⟩
    · exact ⟨r, rfl, (Except.ok.inj (ha.symm.trans h)).symm⟩
    · cases ha.symm.trans h

/-- A fault that is not the engine's is one of the expression. -/
theorem expression_of_fault {e : Fault} (he : e ≠ .tooLarge) (h : matcher s pattern = .error e) :
    expression s (tidy pattern) = .error e := by
  cases hs : (tidy pattern).any isSpecial with
  | false =>
    rw [matcher_of_plain hs] at h
    cases h
  | true =>
    rw [matcher_of_special hs] at h
    cases hr : expression s (tidy pattern) with
    | error e' =>
      rw [hr] at h
      cases h
      rfl
    | ok r =>
      rw [hr] at h
      rcases submit_cases s.engine r with ⟨-, ha⟩ | ⟨-, ha⟩
      · cases ha.symm.trans h
      · exact absurd (Except.error.inj (ha.symm.trans h)).symm he

/-- A fault of an expression is one of compiling. -/
theorem compile_of_expression {t : Text} {e : Fault} (h : expression s t = .error e) :
    compile s (parse t) = .error e := by
  rw [expression] at h
  split at h
  · cases h
  · exact h

/-! ## The engine -/

/-- The engine takes the expression of a pattern, if it is given one. A text without structure is
compared as it is. -/
def Scope.Takes (s : Scope) (pattern : Text) : Prop :=
  (tidy pattern).any isSpecial → ∀ r, expression s (tidy pattern) = .ok r → s.engine.Takes r.whole

/-- Where all expressions are taken, that of a pattern is. -/
theorem Scope.takes_of_forall (h : ∀ r, s.engine.Takes r) : s.Takes pattern :=
  fun _ r _ => h r.whole

/-- A lone wildcard is taken. -/
theorem Scope.takes_any (h : tidy pattern = ['*']) : s.Takes pattern := by
  intro _ r hr
  rw [expression, if_pos h] at hr
  cases hr
  exact s.engine.line_le

/-- A pattern that the engine takes is compared with its expression, if it has one. -/
theorem matcher_of_takes (h : s.Takes pattern) : matcher s pattern =
    if !(tidy pattern).any isSpecial then .ok (.exact (tidy pattern))
    else (expression s (tidy pattern)).map .regex := by
  cases hs : (tidy pattern).any isSpecial with
  | false => exact matcher_of_plain hs
  | true =>
    rw [matcher_of_special hs]
    cases hr : expression s (tidy pattern) with
    | error e => rfl
    | ok r => exact if_pos (h hs r hr)

/-- A pattern that the engine refuses matches nothing. -/
theorem stars?_of_not_takes {pattern : String} (h : ¬s.Takes pattern.toList) (message : Text) :
    stars? s pattern message = none := by
  obtain ⟨hs, hall⟩ := Classical.not_imp.1 h
  obtain ⟨r, hr⟩ := Classical.not_forall.1 hall
  obtain ⟨hr, hlarge⟩ := Classical.not_imp.1 hr
  have hmatcher : matcher s pattern.toList = .error .tooLarge := by
    rw [matcher_of_special hs, hr]
    exact if_neg hlarge
  rw [stars?, hmatcher]

end

end Pattern

end Repartee
