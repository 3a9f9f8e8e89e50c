import Repartee.Text.Basic

/-!
# Finding and replacing spans

A `Scan` looks at the front of a text: it gives what it recognised and the rest, or nothing.

* `Scan.delimited`: an opening, the shortest body, a closing.
* `Scan.find?`: the first place where a scan succeeds.
* `Scan.replaceAll`: replace what a scan finds, from left to right, replacements not scanned again.
* `Scan.replaceAgain`: replace the first thing a scan finds, a bounded number of times.
-/

namespace Repartee

/-- A recogniser at the front of a text. -/
abbrev Scan (α : Type) := Text → Option (α × Text)

namespace Scan

variable {α : Type}

/-- The shortest body of at least `least` allowed characters that a closing follows. -/
def until? (allowed : Char → Bool) (closing : Text) : (least : Nat) → Scan Text
  | 0, [] => (Text.startsWithFolded? closing []).map fun rest => ([], rest)
  | _ + 1, [] => none
  | 0, c :: cs =>
    match Text.startsWithFolded? closing (c :: cs) with
    | some rest => some ([], rest)
    | none =>
      if allowed c then (until? allowed closing 0 cs).map fun r => (c :: r.1, r.2) else none
  | n + 1, c :: cs =>
    if allowed c then (until? allowed closing n cs).map fun r => (c :: r.1, r.2) else none

/-- An opening and a closing in any letter case, and the body between them. -/
def delimited (opening : String) (allowed : Char → Bool) (least : Nat) (closing : String) :
    Scan Text :=
  fun t => (Text.startsWithFolded? opening.toList t).bind (until? allowed closing.toList least)

/-- An opening in any letter case. -/
def opening (s : String) : Scan Unit := fun t =>
  (Text.startsWithFolded? s.toList t).map fun rest => ((), rest)

/-- A text as it is written. -/
def exactly (t : Text) : Scan Unit := fun s => (Text.startsWith? t s).map fun rest => ((), rest)

/-- The first of two recognisers that succeeds. -/
def orElse (p q : Scan α) : Scan α := fun t => p t <|> q t

/-- The text before the first place where the scan succeeds, what it recognises there, and the
text after. -/
def find? (p : Scan α) : Text → Option (Text × α × Text)
  | [] => none
  | c :: cs =>
    match p (c :: cs) with
    | some (a, rest) => some ([], a, rest)
    | none => (find? p cs).map fun r => (c :: r.1, r.2)

/-- Replacing with `skip` characters of the text already used up. -/
def replaceFrom (p : Scan α) (f : α → Text) : (skip : Nat) → Text → Text
  | _, [] => []
  | k + 1, _ :: cs => replaceFrom p f k cs
  | 0, c :: cs =>
    match p (c :: cs) with
    | some (a, rest) => f a ++ replaceFrom p f (cs.length - rest.length) cs
    | none => c :: replaceFrom p f 0 cs

/-- Replace what the scan finds, from left to right. -/
def replaceAll (p : Scan α) (f : α → Text) (t : Text) : Text := replaceFrom p f 0 t

/-- Replace the first thing the scan finds, again and again, at most `n` times; replacements are
scanned again. -/
def replaceAgain (p : Scan α) (f : α → Text) : (n : Nat) → Text → Text
  | 0, t => t
  | n + 1, t =>
    match p.find? t with
    | none => t
    | some (before, a, after) => replaceAgain p f n (before ++ f a ++ after)

end Scan

namespace Text

/-- Replace every occurrence of one text by another. -/
def replace (old new : Text) (t : Text) : Text :=
  Scan.replaceAll (Scan.exactly old) (fun _ => new) t

end Text

end Repartee
