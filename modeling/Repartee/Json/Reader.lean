import Repartee.Json.Basic

/-!
# Reading JSON

* `Json.readValue?`: a value at the front of a text.
* **`Json.read?`**: a text that is a value between blanks, and nothing else.
-/

namespace Repartee

namespace Json

/-- A blank between tokens. -/
def isGap (c : Char) : Bool := c == ' ' || c == '\t' || c == '\n' || c == '\r'

/-- Drop blanks between tokens. -/
def skip (t : Text) : Text := t.dropWhile isGap

/-! ## Strings -/

/-- A unit of four hexadecimal digits. -/
def unit? : Text → Option (Nat × Text)
  | a :: b :: c :: d :: rest => (Text.hexadecimal? [a, b, c, d]).map fun n => (n, rest)
  | _ => none

/-- The characters behind the letter of an escape. -/
def shortEscape? : Char → Option Char
  | '"' => some '"'
  | '\\' => some '\\'
  | '/' => some '/'
  | 'b' => some '\x08'
  | 'f' => some '\x0c'
  | 'n' => some '\n'
  | 'r' => some '\r'
  | 't' => some '\t'
  | _ => none

/-- A part of a string: a character, or half of one that is written as two units. -/
inductive Unit where
  | char (c : Char)
  | high (n : Nat)
  | low (n : Nat)
  deriving DecidableEq, Repr

/-- A unit by its number. -/
def Unit.ofNat (n : Nat) : Unit :=
  if 0xD800 ≤ n ∧ n < 0xDC00 then high (n - 0xD800)
  else if 0xDC00 ≤ n ∧ n < 0xE000 then low (n - 0xDC00)
  else char (Char.ofNat n)

/-- Put halves together; none if one is left over. -/
def joinUnits : List Unit → Option Text
  | [] => some []
  | .char c :: us => (joinUnits us).map (c :: ·)
  | .high h :: .low l :: us => (joinUnits us).map (Char.ofNat (0x10000 + h * 0x400 + l) :: ·)
  | _ :: _ => none

/-- The units of a string up to its closing quote. -/
def readUnits? : (n : Nat) → Text → Option (List Unit × Text)
  | 0, _ => none
  | _ + 1, [] => none
  | n + 1, c :: cs =>
    if c = '"' then some ([], cs)
    else if c.toNat < 32 then none
    else if c ≠ '\\' then (readUnits? n cs).map fun r => (.char c :: r.1, r.2)
    else match cs with
      | [] => none
      | 'u' :: cs => (unit? cs).bind fun (u, rest) =>
        (readUnits? n rest).map fun r => (.ofNat u :: r.1, r.2)
      | e :: cs => (shortEscape? e).bind fun c =>
        (readUnits? n cs).map fun r => (.char c :: r.1, r.2)

/-- A string behind its opening quote. -/
def readString? (t : Text) : Option (Option String × Text) :=
  (readUnits? (t.length + 1) t).map fun r => ((joinUnits r.1).map String.ofList, r.2)

/-! ## Numbers -/

/-- Digits, at least one. -/
def digits? (t : Text) : Option (Text × Text) :=
  match t.takeWhile Char.isDigit with
  | [] => none
  | ds => some (ds, t.dropWhile Char.isDigit)

/-- The whole part of a number: a zero, or digits that do not start with one. -/
def whole? : Text → Option (Text × Text)
  | '0' :: cs => if cs.head?.any Char.isDigit then none else some (['0'], cs)
  | t => digits? t

/-- The fraction of a number, if there is one. -/
def fraction? : Text → Option (Text × Text)
  | '.' :: cs => (digits? cs).map fun r => ('.' :: r.1, r.2)
  | t => some ([], t)

/-- The exponent of a number, if there is one. -/
def exponent? : Text → Option (Text × Text)
  | [] => some ([], [])
  | c :: cs =>
    if c = 'e' ∨ c = 'E' then
      match cs with
      | '+' :: ds => (digits? ds).map fun r => (c :: '+' :: r.1, r.2)
      | '-' :: ds => (digits? ds).map fun r => (c :: '-' :: r.1, r.2)
      | ds => (digits? ds).map fun r => (c :: r.1, r.2)
    else some ([], c :: cs)

/-- A number. -/
def readNumber? (t : Text) : Option (Json × Text) := do
  let (minus, t) := match t with
    | '-' :: cs => (['-'], cs)
    | cs => ([], cs)
  let (whole, t) ← whole? t
  let (fraction, t) ← fraction? t
  let (exponent, t) ← exponent? t
  pure (number (minus ++ whole ++ fraction ++ exponent), t)

/-! ## Values -/

mutual

/-- A value at the front of a text without leading blanks. -/
def readValue? : (n : Nat) → Text → Option (Json × Text)
  | 0, _ => none
  | n + 1, t =>
    match t with
    | '"' :: cs => (readString? cs).map fun r => (string r.1, r.2)
    | '[' :: cs =>
      match skip cs with
      | ']' :: rest => some (array [], rest)
      | rest => (readItems? n rest).map fun r => (array r.1, r.2)
    | '\x7b' :: cs =>
      match skip cs with
      | '\x7d' :: rest => some (object [], rest)
      | rest => (readFields? n rest).map fun r => (object r.1, r.2)
    | t =>
      match Text.startsWith? "null".toList t with
      | some rest => some (null, rest)
      | none =>
        match Text.startsWith? "true".toList t with
        | some rest => some (bool true, rest)
        | none =>
          match Text.startsWith? "false".toList t with
          | some rest => some (bool false, rest)
          | none => readNumber? t

/-- Items up to the closing bracket of their array, at least one. -/
def readItems? : (n : Nat) → Text → Option (List Json × Text)
  | 0, _ => none
  | n + 1, t => (readValue? n t).bind fun (v, rest) =>
    match skip rest with
    | ']' :: rest => some ([v], rest)
    | ',' :: rest => (readItems? n (skip rest)).map fun r => (v :: r.1, r.2)
    | _ => none

/-- Fields up to the closing bracket of their object, at least one. -/
def readFields? : (n : Nat) → Text → Option (List (Option String × Json) × Text)
  | 0, _ => none
  | n + 1, t =>
    match t with
    | '"' :: cs => (readString? cs).bind fun (k, rest) =>
      match skip rest with
      | ':' :: rest => (readValue? n (skip rest)).bind fun (v, rest) =>
        match skip rest with
        | '\x7d' :: rest => some ([(k, v)], rest)
        | ',' :: rest => (readFields? n (skip rest)).map fun r => ((k, v) :: r.1, r.2)
        | _ => none
      | _ => none
    | _ => none

end

/-- The value of a text. -/
def read? (t : Text) : Option Json :=
  (readValue? (2 * t.length + 1) (skip t)).bind fun (v, rest) =>
    if skip rest = [] then some v else none

end Json

end Repartee
