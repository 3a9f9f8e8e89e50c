import Repartee.Pattern.Metadata
import Repartee.Text.Alphanumeric

/-!
# Patterns

What the user's side of a trigger is written in: literal characters, the wildcards `*`, `#` and `_`,
optionals `[a|b]`, groups `(a|b)`, arrays `@name`, and references `<bot name>`, `<get name>`,
`<input>` and `<reply>` to what was said or stored.

* `Item`: the parts of a pattern.
* `Pattern.tidy`: a pattern as it is read, without tags and idle pipes.
* `Pattern.parse`: the parts of a text; never fails, a bracket without its partner is a part.
-/

namespace Repartee

/-- A wildcard of a pattern. -/
inductive Wildcard where
  /-- `*`: any characters. -/
  | any
  /-- `#`: digits. -/
  | digits
  /-- `_`: neither blanks nor digits. -/
  | word
  deriving DecidableEq, Repr

/-- Text that a pattern takes over from the state of the bot or the user. -/
inductive Reference where
  | bot (name : String)
  | get (name : String)
  | input (n : Nat)
  | reply (n : Nat)
  deriving DecidableEq, Repr

/-- A part of a pattern. -/
inductive Item where
  | char (c : Char)
  | wild (w : Wildcard)
  | array (name : String)
  | reference (r : Reference)
  /-- One of the alternatives or nothing. -/
  | optional (alternatives : List (List Item))
  /-- One of the alternatives, captured. -/
  | group (alternatives : List (List Item))
  /-- An opening bracket without its partner. -/
  | unclosed (bracket : Char)

namespace Pattern

/-! ## Preparation -/

/-- One pipe for each run of pipes. -/
def mergePipes (t : Text) : Text :=
  t.foldr (fun c rest => if c = '|' ∧ rest.head? = some '|' then rest else c :: rest) []

/-- No pipes after an opening bracket. -/
def dropLeadingPipes (t : Text) : Text :=
  t.foldr (fun c rest => if c = '(' ∨ c = '[' then c :: rest.dropWhile (· == '|') else c :: rest) []

/-- No pipe before a closing bracket. -/
def dropTrailingPipes (t : Text) : Text :=
  t.foldr (fun c rest =>
    if c = '|' ∧ (rest.head? = some ')' ∨ rest.head? = some ']') then rest else c :: rest) []

/-- A pattern as it is read. -/
def tidy (t : Text) : Text := dropTrailingPipes (dropLeadingPipes (mergePipes (Metadata.strip t)))

/-- The characters that give a pattern structure. -/
def isSpecial (c : Char) : Bool :=
  c == '*' || c == '#' || c == '_' || c == '[' || c == '(' || c == '<' || c == '@'

/-! ## Brackets and alternatives -/

/-- What stands before and after the parenthesis that closes the current group, `depth` further
ones being open. -/
def closeGroup? : (depth : Nat) → Text → Option (Text × Text)
  | _, [] => none
  | 0, c :: cs =>
    if c = ')' then some ([], cs)
    else (closeGroup? (if c = '(' then 1 else 0) cs).map fun r => (c :: r.1, r.2)
  | d + 1, c :: cs =>
    (closeGroup? (if c = ')' then d else if c = '(' then d + 2 else d + 1) cs).map
      fun r => (c :: r.1, r.2)

/-- Cut at the pipes outside brackets; `depth` counts the brackets open, and the closing ones in
excess negatively. -/
def splitAt : (depth : Int) → Text → List Text
  | _, [] => [[]]
  | d, c :: cs =>
    if c = '|' ∧ d = 0 then [] :: splitAt d cs
    else
      let e := if c = '(' ∨ c = '[' then d + 1 else if c = ')' ∨ c = ']' then d - 1 else d
      match splitAt e cs with
      | [] => [[c]]
      | w :: ws => (c :: w) :: ws

/-- The alternatives of a bracket, trimmed, blank ones left out. -/
def alternatives (t : Text) : List Text := ((splitAt 0 t).map Text.trim).filter (!·.isEmpty)

/-! ## References -/

/-- The place a history reference gives: the latest, or a digit from 1 to 9. -/
def historyIndex? : Text → Option Nat
  | [] => some 1
  | [c] => if '1' ≤ c ∧ c ≤ '9' then some (c.toNat - '0'.toNat) else none
  | _ => none

/-- The reference written between angle brackets, if it is one. -/
def reference? (tag : Text) : Option Reference :=
  let (kind, arg) := match Text.cut? ' ' tag with
    | some (kind, arg) => (kind.map Char.toLower, Text.trim arg)
    | none => (tag.map Char.toLower, [])
  if kind = "bot".toList then some (.bot (String.ofList arg))
  else if kind = "get".toList then some (.get (String.ofList arg))
  else if arg ≠ [] then none
  else match Text.startsWith? "input".toList kind with
    | some index => (historyIndex? index).map .input
    | none => (Text.startsWith? "reply".toList kind).bind fun index =>
      (historyIndex? index).map .reply

/-! ## Reading -/

/-- A character of an array name. -/
def isNameChar (c : Char) : Bool := isAlphanumeric c || c == '_'

/-- The parts of a text of at most `n` characters. -/
def parseUpTo : (n : Nat) → Text → List Item
  | 0, _ => []
  | _ + 1, [] => []
  | n + 1, c :: cs =>
    match c with
    | '*' => .wild .any :: parseUpTo n cs
    | '#' => .wild .digits :: parseUpTo n cs
    | '_' => .wild .word :: parseUpTo n cs
    | '[' =>
      match Text.cut? ']' cs with
      | none => [.unclosed '[']
      | some (inner, rest) =>
        .optional ((alternatives inner).map (parseUpTo n)) :: parseUpTo n (Text.trimLeft rest)
    | '(' =>
      match closeGroup? 0 cs with
      | none => [.unclosed '(']
      | some (inner, rest) =>
        .group ((alternatives inner).map (parseUpTo n)) :: parseUpTo n rest
    | '@' =>
      match cs.takeWhile isNameChar with
      | [] => .char '@' :: parseUpTo n cs
      | name => .array (String.ofList name) :: parseUpTo n (cs.dropWhile isNameChar)
    | '<' =>
      match Text.cut? '>' cs with
      | none => .char '<' :: parseUpTo n cs
      | some (tag, rest) =>
        match reference? tag with
        | some r => .reference r :: parseUpTo n rest
        | none => .char '<' :: parseUpTo n cs
    | c => .char c :: parseUpTo n cs

/-- The parts of a text. -/
def parse (t : Text) : List Item := parseUpTo t.length t

end Pattern

end Repartee
