import Repartee.Text.Numeral

/-!
# JSON

* `Json`: values, with the fields of an object in the order they are written.
* `Json.print`: the text of a value without blanks.
-/

namespace Repartee

/-- A JSON value. A string is `none` if an escape in it stands for half a character; such a string
is well formed but has no text. -/
inductive Json where
  | null
  | bool (b : Bool)
  /-- A number as it is written. -/
  | number (literal : Text)
  | string (s : Option String)
  | array (items : List Json)
  | object (fields : List (Option String × Json))
  deriving Inhabited

namespace Json

/-- A string. -/
def text (s : String) : Json := string (some s)

/-- An integer. -/
def int (n : Int) : Json := number (toString n).toList

/-- An object. -/
def obj (fields : List (String × Json)) : Json := object (fields.map fun f => (some f.1, f.2))

/-- A string, or null. -/
def optionalText (s : Option String) : Json := (s.map text).getD null

/-- Strings. -/
def texts (ss : List String) : Json := array (ss.map text)

/-- The integer that is written without fraction and exponent. -/
def int? : Json → Option Int
  | number ('-' :: digits) => (Text.natural? digits).bind fun n => if n = 0 then none else some (-n)
  | number digits => (Text.natural? digits).map Int.ofNat
  | _ => none

/-! ## Printing -/

/-- The hexadecimal digit of a number below 16. -/
def hexDigit (n : Nat) : Char := "0123456789abcdef".toList[n]?.getD '0'

/-- A character in a string. -/
def escapeChar (c : Char) : Text :=
  if c = '"' then ['\\', '"']
  else if c = '\\' then ['\\', '\\']
  else if c = '\n' then ['\\', 'n']
  else if c = '\r' then ['\\', 'r']
  else if c = '\t' then ['\\', 't']
  else if c = '\x08' then ['\\', 'b']
  else if c = '\x0c' then ['\\', 'f']
  else if c.toNat < 32 then
    ['\\', 'u', '0', '0', hexDigit (c.toNat / 16), hexDigit (c.toNat % 16)]
  else [c]

/-- A string between quotes. -/
def printString (s : String) : Text := '"' :: s.toList.flatMap escapeChar ++ ['"']

mutual

/-- The text of a value. -/
def print : Json → Text
  | null => "null".toList
  | bool true => "true".toList
  | bool false => "false".toList
  | number literal => literal
  | string s => printString (s.getD "")
  | array items => '[' :: printItems items ++ [']']
  | object fields => '\x7b' :: printFields fields ++ ['\x7d']

/-- The items of an array. -/
def printItems : List Json → Text
  | [] => []
  | [v] => print v
  | v :: w :: vs => print v ++ ',' :: printItems (w :: vs)

/-- The fields of an object. -/
def printFields : List (Option String × Json) → Text
  | [] => []
  | [(k, v)] => printString (k.getD "") ++ ':' :: print v
  | (k, v) :: f :: fs => printString (k.getD "") ++ ':' :: print v ++ ',' :: printFields (f :: fs)

end

end Json

end Repartee
