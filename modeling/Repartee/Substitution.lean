import Repartee.Table
import Repartee.Text.Blank
import Repartee.Text.Casing
import Repartee.Regex.Search

/-!
# Substitutions

A table of phrases of one or more words with their replacements. A text is scanned from left to
right; at each word the longest stored phrase wins, compared without punctuation and in lower case.
Replaced text is never scanned again, and everything around a replaced phrase is kept as written.

* `Substitution.insert`, `remove`, `get?`, `ranked`.
* `Substitution.apply`: the text with its phrases replaced.
-/

namespace Repartee

/-- A word with the blanks before it. -/
structure Token where
  gap : Text
  word : Text
  deriving DecidableEq, Repr

/-- The words of a text with their gaps, and the blanks at the end. -/
def Text.tokens : Text → List Token × Text
  | [] => ([], [])
  | c :: cs =>
    match isBlank c, Text.tokens cs with
    | true, ([], tail) => ([], c :: tail)
    | true, (t :: ts, tail) => (⟨c :: t.gap, t.word⟩ :: ts, tail)
    | false, (⟨[], w⟩ :: ts, tail) => (⟨[], c :: w⟩ :: ts, tail)
    | false, (ts, tail) => (⟨[], [c]⟩ :: ts, tail)

/-- Phrases in lower case with their replacements, and a bound on their word counts. -/
structure Substitution where
  phrases : Table String := ∅
  widest : Nat := 0
  deriving DecidableEq, Inhabited

namespace Substitution

/-! ## The stored phrases -/

/-- The form in which a phrase is stored. -/
def stored (phrase : String) : String := String.ofList (Text.lower phrase.toList)

/-- Add or replace a phrase. -/
def insert (s : Substitution) (phrase replacement : String) : Substitution where
  phrases := s.phrases.insert (stored phrase) replacement
  widest := max s.widest (Text.words (stored phrase).toList).length

/-- Drop a phrase; the bound stays. -/
def remove (s : Substitution) (phrase : String) : Substitution :=
  { s with phrases := s.phrases.erase (stored phrase) }

/-- The replacement of a phrase. -/
def get? (s : Substitution) (phrase : String) : Option String := s.phrases.find? (stored phrase)

/-- Set a phrase, or drop it where there is no replacement. -/
def assign (s : Substitution) (phrase : String) : Option String → Substitution
  | some replacement => s.insert phrase replacement
  | none => s.remove phrase

/-- A phrase with more words comes before others, then one with more bytes, then the lesser text. -/
def before (a b : String) : Bool :=
  let m := (Text.words a.toList).length
  let n := (Text.words b.toList).length
  if m ≠ n then n < m
  else if Text.bytes a.toList ≠ Text.bytes b.toList then Text.bytes b.toList < Text.bytes a.toList
  else a ≤ b

/-- Phrases in the order of their priority. -/
def prioritize (phrases : List String) : List String := phrases.mergeSort before

/-- The stored phrases in the order of their priority. -/
def ranked (s : Substitution) : List String := prioritize s.phrases.keys

/-! ## Replacing phrases -/

/-- The form in which a word is looked up. -/
def key (punctuation : Regex) (word : Text) : Text := Text.lower (punctuation.remove word)

/-- The longest stored phrase made of the first of the keys, at most `n` of them, given by one
less than its number of words. -/
def longest? (s : Substitution) (keys : List Text) : (n : Nat) → Option (Nat × String)
  | 0 => none
  | n + 1 =>
    match s.phrases.find? (String.ofList (Text.join [' '] (keys.take (n + 1)))) with
    | some replacement => some (n, replacement)
    | none => longest? s keys n

/-- Replace phrases in words given with their look-up forms, the first `skip` of them being already
replaced. -/
def applyFrom (s : Substitution) : (skip : Nat) → List (Token × Text) → Text
  | _, [] => []
  | k + 1, _ :: ts => applyFrom s k ts
  | 0, t :: ts =>
    match s.longest? (t.2 :: ts.map (·.2)) (min s.widest (ts.length + 1)) with
    | some (n, replacement) => t.1.gap ++ replacement.toList ++ applyFrom s n ts
    | none => t.1.gap ++ t.1.word ++ applyFrom s 0 ts

/-- Replace the stored phrases in a text. -/
def apply (s : Substitution) (punctuation : Regex) (t : Text) : Text :=
  let ts := Text.tokens t
  s.applyFrom 0 (ts.1.map fun x => (x, key punctuation x.word)) ++ ts.2

end Substitution

end Repartee
