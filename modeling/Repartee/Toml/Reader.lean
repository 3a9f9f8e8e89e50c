import Repartee.Text.Numeral
import Repartee.Toml.Basic

/-!
# Reading TOML

* `Toml.readString?`, `Toml.readInteger?`, `Toml.isFloat`, `Toml.readMoment?`: simple values.
* `Toml.readValue?`, `Toml.readStatement?`: values, and the lines of a document.
* **`Toml.read?`**: the table of a text.
-/

namespace Repartee

namespace Toml

/-! ## Blanks, comments and lines -/

/-- A blank within a line. -/
def isGap (c : Char) : Bool := c == ' ' || c == '\t'

/-- Drop blanks within a line. -/
def skip (t : Text) : Text := t.dropWhile isGap

/-- A character that may stand in a comment or a literal string. -/
def isPlain (c : Char) : Bool := c == '\t' || (32 ≤ c.toNat && c.toNat ≠ 127)

/-- The end of a line. -/
def newline? : Text → Option Text
  | '\n' :: cs => some cs
  | '\r' :: '\n' :: cs => some cs
  | _ => none

/-- Drop a comment. -/
def skipComment : Text → Text
  | '#' :: cs => cs.dropWhile isPlain
  | t => t

/-- Drop blanks, comments and line ends, at most `n` of them. -/
def skipLines : (n : Nat) → Text → Text
  | 0, t => t
  | n + 1, t =>
    match newline? (skipComment (skip t)) with
    | some rest => skipLines n rest
    | none => skipComment (skip t)

/-! ## Strings -/

/-- A character by its code point, given by a number of digits. -/
def codePoint? (digits : Nat) (t : Text) : Option (Char × Text) :=
  if t.length < digits then none
  else ((Text.hexadecimal? (t.take digits)).bind scalar?).map fun c => (c, t.drop digits)

/-- The character behind a backslash. -/
def escape? : Text → Option (Char × Text)
  | 'b' :: cs => some ('\x08', cs)
  | 't' :: cs => some ('\t', cs)
  | 'n' :: cs => some ('\n', cs)
  | 'f' :: cs => some ('\x0c', cs)
  | 'r' :: cs => some ('\r', cs)
  | '"' :: cs => some ('"', cs)
  | '\\' :: cs => some ('\\', cs)
  | 'u' :: cs => codePoint? 4 cs
  | 'U' :: cs => codePoint? 8 cs
  | _ => none

/-- The rest of a string on one line. -/
def readLine? (quote : Char) (escapes : Bool) : (n : Nat) → Text → Option (Text × Text)
  | 0, _ => none
  | _ + 1, [] => none
  | n + 1, c :: cs =>
    if c = quote then some ([], cs)
    else if c = '\\' ∧ escapes then
      (escape? cs).bind fun (d, rest) =>
        (readLine? quote escapes n rest).map fun r => (d :: r.1, r.2)
    else if isPlain c then (readLine? quote escapes n cs).map fun r => (c :: r.1, r.2)
    else none

/-- Drop blanks and line ends. -/
def skipBlankLines (t : Text) : Text :=
  t.dropWhile fun c => isGap c || c == '\n' || c == '\r'

/-- The rest of a string that goes over lines; up to two quotes may stand before its end. -/
def readLines? (quote : Char) (escapes : Bool) : (n : Nat) → Text → Option (Text × Text)
  | 0, _ => none
  | _ + 1, [] => none
  | n + 1, c :: cs =>
    if c = quote then
      let more := (cs.takeWhile (· == quote)).length
      if more < 2 then (readLines? quote escapes n cs).map fun r => (c :: r.1, r.2)
      else
        let extra := min (more - 2) 2
        some (List.replicate extra quote, cs.drop (extra + 2))
    else if c = '\\' ∧ escapes then
      match newline? (skip cs) with
      | some rest => readLines? quote escapes n (skipBlankLines rest)
      | none => (escape? cs).bind fun (d, rest) =>
        (readLines? quote escapes n rest).map fun r => (d :: r.1, r.2)
    else
      match newline? (c :: cs) with
      | some rest => (readLines? quote escapes n rest).map fun r => ('\n' :: r.1, r.2)
      | none =>
        if isPlain c then (readLines? quote escapes n cs).map fun r => (c :: r.1, r.2) else none

/-- A string in quotes of either kind. -/
def readString? (t : Text) : Option (Text × Text) :=
  match t with
  | '"' :: '"' :: '"' :: cs => lines '"' true cs
  | '\'' :: '\'' :: '\'' :: cs => lines '\'' false cs
  | '"' :: cs => readLine? '"' true (t.length + 1) cs
  | '\'' :: cs => readLine? '\'' false (t.length + 1) cs
  | _ => none
where
  lines (quote : Char) (escapes : Bool) (cs : Text) : Option (Text × Text) :=
    readLines? quote escapes (t.length + 1) ((newline? cs).getD cs)

/-! ## Numbers, dates and times -/

/-- Digits of a base with single underscores between them. -/
def grouped? (isDigit : Char → Bool) (t : Text) : Option Text :=
  let parts := t.pieces (· == '_')
  if parts.all fun p => !p.isEmpty && p.all isDigit then some parts.flatten else none

/-- The digits of a decimal number, without a leading zero. -/
def decimal? (t : Text) : Option Text :=
  (grouped? Char.isDigit t).filter fun ds => ds.length == 1 || ds.head? != some '0'

/-- The sign in front of a number. -/
def splitSign : Text → Bool × Text
  | '-' :: cs => (true, cs)
  | '+' :: cs => (false, cs)
  | cs => (false, cs)

/-- An integer; it must fit 64 bits. -/
def readInteger? (t : Text) : Option Int :=
  let based (base : Nat) (isDigit : Char → Bool) (t : Text) : Option Int :=
    (grouped? isDigit t).map fun ds => (Text.value base ds : Int)
  let n : Option Int := match t with
    | '0' :: 'x' :: cs => based 16 isHexDigit cs
    | '0' :: 'o' :: cs => based 8 (fun c => '0' ≤ c && c ≤ '7') cs
    | '0' :: 'b' :: cs => based 2 (fun c => c == '0' || c == '1') cs
    | t =>
      let (negative, digits) := splitSign t
      (decimal? digits).map fun ds =>
        if negative then -(Text.value 10 ds : Int) else (Text.value 10 ds : Int)
  n.filter fun n => -(Nat.pow 2 63 : Int) ≤ n && n < Nat.pow 2 63

/-- A text is a float. -/
def isFloat (t : Text) : Bool :=
  let (_, t) := splitSign t
  if t = "inf".toList ∨ t = "nan".toList then true
  else
    let mantissa := t.takeWhile fun c => c != 'e' && c != 'E'
    let exponent := t.dropWhile fun c => c != 'e' && c != 'E'
    let exponentFits := match exponent with
      | [] => true
      | _ :: digits => (grouped? Char.isDigit (splitSign digits).2).isSome
    let mantissaFits := match Text.cut? '.' mantissa with
      | some (whole, fraction) =>
        (decimal? whole).isSome && (grouped? Char.isDigit fraction).isSome
      | none => (decimal? mantissa).isSome && !exponent.isEmpty
    exponentFits && mantissaFits

/-- A number of exactly `n` digits at the front of a text. -/
def fixed? (n : Nat) (t : Text) : Option (Nat × Text) :=
  if t.length < n then none else (Text.natural? (t.take n)).map fun v => (v, t.drop n)

/-- A given character at the front of a text. -/
def expect? (c : Char) : Text → Option Text
  | d :: cs => if c = d then some cs else none
  | [] => none

/-- The days of a month. -/
def daysIn (year month : Nat) : Nat :=
  if month = 2 then
    if (year % 4 = 0 ∧ year % 100 ≠ 0) ∨ year % 400 = 0 then 29 else 28
  else if month = 4 ∨ month = 6 ∨ month = 9 ∨ month = 11 then 30
  else 31

/-- A date at the front of a text. -/
def date? (t : Text) : Option Text := do
  let (year, t) ← fixed? 4 t
  let (month, t) ← fixed? 2 (← expect? '-' t)
  let (day, t) ← fixed? 2 (← expect? '-' t)
  if 1 ≤ month ∧ month ≤ 12 ∧ 1 ≤ day ∧ day ≤ daysIn year month then some t else none

/-- A time of day at the front of a text. -/
def time? (t : Text) : Option Text := do
  let (hour, t) ← fixed? 2 t
  let (minute, t) ← fixed? 2 (← expect? ':' t)
  let (second, t) ← fixed? 2 (← expect? ':' t)
  if hour < 24 ∧ minute < 60 ∧ second ≤ 60 then
    match t with
    | '.' :: c :: cs => if c.isDigit then some (cs.dropWhile Char.isDigit) else none
    | '.' :: [] => none
    | t => some t
  else none

/-- The distance from universal time at the front of a text, if there is one. -/
def offset? (t : Text) : Option Text :=
  match t with
  | 'Z' :: cs | 'z' :: cs => some cs
  | '+' :: cs | '-' :: cs => do
    let (hour, t) ← fixed? 2 cs
    let (minute, t) ← fixed? 2 (← expect? ':' t)
    if hour < 24 ∧ minute < 60 then some t else none
  | t => some t

/-- A date, a time or both at the front of a text. -/
def readMoment? (t : Text) : Option Text :=
  match date? t with
  | some rest =>
    match rest with
    | 'T' :: cs | 't' :: cs => (time? cs).bind offset?
    | ' ' :: cs =>
      match time? cs with
      | some rest => offset? rest
      | none => some rest
    | rest => some rest
  | none => time? t

/-- A character of a number or a bare word. -/
def isWordPart (c : Char) : Bool := c.isAlphanum || c == '_' || c == '+' || c == '-' || c == '.'

/-- A value without brackets or quotes. -/
def readPlain? (t : Text) : Option (Toml × Text) :=
  match readMoment? t with
  | some rest => some (.other, rest)
  | none =>
    let word := t.takeWhile isWordPart
    let rest := t.dropWhile isWordPart
    if word = "true".toList then some (.bool true, rest)
    else if word = "false".toList then some (.bool false, rest)
    else match readInteger? word with
      | some n => some (.integer n, rest)
      | none => if isFloat word then some (.other, rest) else none

/-! ## Keys -/

/-- A character of a bare key. -/
def isKeyChar (c : Char) : Bool := c.isAlphanum || c == '_' || c == '-'

/-- A key without dots. -/
def simpleKey? (t : Text) : Option (String × Text) :=
  match t with
  | '"' :: cs => (readLine? '"' true (t.length + 1) cs).map fun r => (String.ofList r.1, r.2)
  | '\'' :: cs => (readLine? '\'' false (t.length + 1) cs).map fun r => (String.ofList r.1, r.2)
  | t =>
    match t.takeWhile isKeyChar with
    | [] => none
    | key => some (String.ofList key, t.dropWhile isKeyChar)

/-- A key with dots. -/
def key? : (n : Nat) → Text → Option (List String × Text)
  | 0, _ => none
  | n + 1, t => (simpleKey? (skip t)).bind fun (key, rest) =>
    match skip rest with
    | '.' :: rest => (key? n rest).map fun r => (key :: r.1, r.2)
    | rest => some ([key], rest)

/-! ## Values -/

mutual

/-- A value at the front of a text without leading blanks. -/
def readValue? : (n : Nat) → Text → Option (Toml × Text)
  | 0, _ => none
  | n + 1, t =>
    match t with
    | '[' :: cs => (readItems? n (skipLines cs.length cs)).map fun r => (.array r.1, r.2)
    | '\x7b' :: cs =>
      match skip cs with
      | '\x7d' :: rest => some (.table .inline [], rest)
      | rest => (readPairs? n rest).bind fun (pairs, rest) =>
        (inline? pairs).map fun v => (v, rest)
    | t =>
      if t.head? = some '"' ∨ t.head? = some '\'' then
        (readString? t).map fun r => (.text (String.ofList r.1), r.2)
      else readPlain? t

/-- Items up to the closing bracket of their array. -/
def readItems? : (n : Nat) → Text → Option (List Toml × Text)
  | 0, _ => none
  | _ + 1, ']' :: rest => some ([], rest)
  | n + 1, t => (readValue? n t).bind fun (v, rest) =>
    match skipLines rest.length rest with
    | ']' :: rest => some ([v], rest)
    | ',' :: rest => (readItems? n (skipLines rest.length rest)).map fun r => (v :: r.1, r.2)
    | _ => none

/-- Assignments up to the closing brace of their table, at least one. -/
def readPairs? : (n : Nat) → Text → Option (List (List String × Toml) × Text)
  | 0, _ => none
  | n + 1, t => (key? (t.length + 1) t).bind fun (path, rest) =>
    match rest with
    | '=' :: rest => (readValue? n (skip rest)).bind fun (v, rest) =>
      match skip rest with
      | '\x7d' :: rest => some ([(path, v)], rest)
      | ',' :: rest => (readPairs? n (skip rest)).map fun r => ((path, v) :: r.1, r.2)
      | _ => none
    | _ => none

end

/-! ## Documents -/

/-- A header or an assignment at the front of a text. -/
def readStatement? (t : Text) : Option (Statement × Text) :=
  match t with
  | '[' :: '[' :: cs => (key? (t.length + 1) cs).bind fun (path, rest) =>
    match rest with
    | ']' :: ']' :: rest => some (.arrayHeader path, rest)
    | _ => none
  | '[' :: cs => (key? (t.length + 1) cs).bind fun (path, rest) =>
    match rest with
    | ']' :: rest => some (.header path, rest)
    | _ => none
  | t => (key? (t.length + 1) t).bind fun (path, rest) =>
    match rest with
    | '=' :: rest =>
      (readValue? (2 * t.length + 2) (skip rest)).map fun r => (.assign path r.1, r.2)
    | _ => none

/-- The statements of a text, each on a line of its own. -/
def readStatements? : (n : Nat) → Text → Option (List Statement)
  | 0, _ => none
  | n + 1, t =>
    match skipLines t.length t with
    | [] => some []
    | t => (readStatement? t).bind fun (s, rest) =>
      match skipComment (skip rest) with
      | [] => some [s]
      | rest => (newline? rest).bind fun rest => (readStatements? n rest).map (s :: ·)

/-- The table of a text. -/
def read? (text : String) : Option Toml :=
  (readStatements? (text.length + 1) text.toList).bind build?

end Toml

end Repartee
