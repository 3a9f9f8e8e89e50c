import Repartee.Regex.Basic
import Repartee.Text.Category
import Repartee.Text.Folding
import Repartee.Text.Alphanumeric
import Repartee.Text.Numeral

/-!
# Reading regular expressions

The usual notation: alternatives, repetition, groups with flags, character classes with ranges,
nesting and set operations, and escapes. There is no looking around and no reference back.

* `Regex.read?`: the expression of a text, if the text is well formed.
-/

namespace Repartee

namespace Regex

/-! ## Flags -/

/-- How the part of an expression under a set of flags is read. -/
structure Flags where
  ignoreCase : Bool := false
  multiLine : Bool := false
  dotAll : Bool := false
  swapGreed : Bool := false
  verbose : Bool := false
  crlf : Bool := false
  unicode : Bool := true
  deriving DecidableEq, Repr

/-- Switch one flag. -/
def Flags.switch? (f : Flags) (on : Bool) : Char → Option Flags
  | 'i' => some { f with ignoreCase := on }
  | 'm' => some { f with multiLine := on }
  | 's' => some { f with dotAll := on }
  | 'U' => some { f with swapGreed := on }
  | 'x' => some { f with verbose := on }
  | 'R' => some { f with crlf := on }
  | 'u' => some { f with unicode := on }
  | _ => none

/-- The flags of a group, whether a colon ends them, and what follows; each flag may be given once,
and the minus sign needs a flag behind it. -/
def Flags.read? (f : Flags) (on : Bool) (seen : List Char) :
    Text → Option (Flags × Bool × Text)
  | [] => none
  | c :: cs =>
    if c = ':' ∨ c = ')' then
      if seen.head? = some '-' ∨ (seen = [] ∧ c = ')') then none else some (f, c == ':', cs)
    else if c ∈ seen then none
    else if c = '-' then f.read? false ('-' :: seen) cs
    else (f.switch? on c).bind fun g => g.read? on (c :: seen) cs

/-! ## Character classes -/

/-- A class of characters. -/
abbrev Class := Char → Bool

/-- A class, its complement where asked. -/
def negateIf (negated : Bool) (p : Class) : Class := fun c => p c != negated

/-- A class under flags; without the Unicode flag only the case of ASCII letters is ignored. -/
def Flags.fold (f : Flags) (p : Class) : Class :=
  if !f.ignoreCase then p
  else if f.unicode then foldClass p
  else fun c => p c || p c.toLower || p c.toUpper

/-- A class, its complement where asked, which needs the Unicode flag. -/
def Flags.negate? (f : Flags) (negated : Bool) (p : Class) : Option Class :=
  if negated && !f.unicode then none else some (negateIf negated p)

/-- The classes written with a letter behind a backslash. -/
def letterClass? (f : Flags) : Char → Option Class
  | 'd' => some digit
  | 'D' => f.negate? true digit
  | 's' => some blank
  | 'S' => f.negate? true blank
  | 'w' => some word
  | 'W' => f.negate? true word
  | _ => none
where
  digit c := if f.unicode then isDigit c else c.isDigit
  blank c := isBlank c && (f.unicode || c.toNat < 128)
  word c := if f.unicode then isWordChar c else c.isAlphanum || c == '_'

/-- The classes written between brackets and colons. -/
def asciiClass? : String → Option Class
  | "alnum" => some Char.isAlphanum
  | "alpha" => some Char.isAlpha
  | "ascii" => some (·.toNat < 128)
  | "blank" => some fun c => c == ' ' || c == '\t'
  | "cntrl" => some fun c => c.toNat < 32 || c.toNat == 127
  | "digit" => some Char.isDigit
  | "graph" => some fun c => 33 ≤ c.toNat && c.toNat ≤ 126
  | "lower" => some Char.isLower
  | "print" => some fun c => 32 ≤ c.toNat && c.toNat ≤ 126
  | "punct" => some fun c => 33 ≤ c.toNat && c.toNat ≤ 126 && !c.isAlphanum
  | "space" => some fun c => c == ' ' || (9 ≤ c.toNat && c.toNat ≤ 13)
  | "upper" => some Char.isUpper
  | "word" => some fun c => c.isAlphanum || c == '_'
  | "xdigit" => some isHexDigit
  | _ => none

/-- The long names of the general categories and their groups. -/
def categoryNames : List (String × String) :=
  [("letter", "L"), ("uppercaseletter", "Lu"), ("lowercaseletter", "Ll"),
    ("titlecaseletter", "Lt"), ("modifierletter", "Lm"), ("otherletter", "Lo"), ("mark", "M"),
    ("combiningmark", "M"), ("nonspacingmark", "Mn"), ("spacingmark", "Mc"),
    ("enclosingmark", "Me"), ("number", "N"), ("decimalnumber", "Nd"), ("digit", "Nd"),
    ("letternumber", "Nl"), ("othernumber", "No"), ("punctuation", "P"), ("punct", "P"),
    ("connectorpunctuation", "Pc"), ("dashpunctuation", "Pd"), ("openpunctuation", "Ps"),
    ("closepunctuation", "Pe"), ("initialpunctuation", "Pi"), ("finalpunctuation", "Pf"),
    ("otherpunctuation", "Po"), ("symbol", "S"), ("mathsymbol", "Sm"), ("currencysymbol", "Sc"),
    ("modifiersymbol", "Sk"), ("othersymbol", "So"), ("separator", "Z"), ("spaceseparator", "Zs"),
    ("lineseparator", "Zl"), ("paragraphseparator", "Zp"), ("other", "C"), ("control", "Cc"),
    ("cntrl", "Cc"), ("format", "Cf"), ("privateuse", "Co")]

/-- The class of a property by its name, spelled loosely. -/
def propertyClass? (name : Text) : Option Class :=
  let loose := String.ofList <|
    (name.filter fun c => !(isBlank c || c == '-' || c == '_')).map Char.toLower
  let short := generalCategories.map (·.1) ++ ["L", "M", "N", "P", "S", "Z", "C"]
  match short.find? fun k => String.ofList (k.toList.map Char.toLower) == loose with
  | some k => some (inCategory k)
  | none =>
    match categoryNames.lookup loose with
    | some k => some (inCategory k)
    | none =>
      match loose with
      | "any" => some fun _ => true
      | "ascii" => some (·.toNat < 128)
      | "whitespace" | "space" => some isBlank
      | "alphabetic" | "alpha" =>
        some fun c => isAlphanumeric c && !inCategory "Nd" c && !inCategory "No" c
      | "uppercase" => some (inCategory "Lu")
      | "lowercase" => some (inCategory "Ll")
      | _ => none

/-! ## Escapes -/

/-- What an escape stands for. -/
inductive Escape where
  | char (c : Char)
  | oneOf (p : Class)
  | anchor (a : Anchor)

/-- A code point in hexadecimal, `digits` of them or any number between braces. -/
def hexEscape? (digits : Nat) (t : Text) : Option (Escape × Text) :=
  match t with
  | '\x7b' :: cs => (Text.cut? '\x7d' cs).bind fun (body, rest) =>
    ((Text.hexadecimal? body).bind scalar?).map fun c => (.char c, rest)
  | t =>
    if t.length < digits then none
    else ((Text.hexadecimal? (t.take digits)).bind scalar?).map fun c => (.char c, t.drop digits)

/-- A property in braces or of one letter. -/
def propertyEscape? (negated : Bool) (t : Text) : Option (Escape × Text) :=
  match t with
  | '\x7b' :: cs => (Text.cut? '\x7d' cs).bind fun (body, rest) =>
    let (flip, body) := match body with
      | '^' :: body => (true, body)
      | body => (false, body)
    let (flip, body) := match Text.cutAt? "!=".toList body with
      | some (_, value) => (!flip, value)
      | none => match Text.cut? '=' body with
        | some (_, value) => (flip, value)
        | none => match Text.cut? ':' body with
          | some (_, value) => (flip, value)
          | none => (flip, body)
    (propertyClass? body).map fun p => (.oneOf (negateIf (negated != flip) p), rest)
  | c :: rest => (propertyClass? [c]).map fun p => (.oneOf (negateIf negated p), rest)
  | [] => none

/-- A word boundary, of a kind that may be named between braces. -/
def boundary? : Text → Option (Escape × Text)
  | '\x7b' :: cs =>
    if cs.head?.any fun c => c.isAlpha || c == '-' then
      (Text.cut? '\x7d' cs).bind fun (name, rest) =>
        ([("start", Anchor.wordStart), ("end", .wordEnd), ("start-half", .startHalf),
          ("end-half", .endHalf)].lookup (String.ofList name)).map fun a => (.anchor a, rest)
    else some (.anchor .wordBoundary, '\x7b' :: cs)
  | cs => some (.anchor .wordBoundary, cs)

/-- What follows a backslash. -/
def escape? (f : Flags) : Text → Option (Escape × Text)
  | [] => none
  | c :: cs =>
    match letterClass? f c with
    | some p => some (.oneOf p, cs)
    | none =>
      match c with
      | 'x' => hexEscape? 2 cs
      | 'u' => hexEscape? 4 cs
      | 'U' => hexEscape? 8 cs
      | 'p' => if f.unicode then propertyEscape? false cs else none
      | 'P' => if f.unicode then propertyEscape? true cs else none
      | 'a' => some (.char '\x07', cs)
      | 'f' => some (.char '\x0c', cs)
      | 't' => some (.char '\t', cs)
      | 'n' => some (.char '\n', cs)
      | 'r' => some (.char '\r', cs)
      | 'v' => some (.char '\x0b', cs)
      | 'A' => some (.anchor .start, cs)
      | 'z' => some (.anchor .finish, cs)
      | 'b' => boundary? cs
      | '<' => some (.anchor .wordStart, cs)
      | '>' => some (.anchor .wordEnd, cs)
      | 'B' => if f.unicode then some (.anchor .noWordBoundary, cs) else none
      | c =>
        if c.toNat < 128 ∧ !c.isAlphanum then some (.char c, cs) else none

/-! ## Bracketed classes -/

/-- A set operation between the parts of a class. -/
inductive SetOp where
  | inter
  | diff
  | symDiff

/-- The operation on classes. -/
def SetOp.apply : SetOp → Class → Class → Class
  | inter, p, q => fun c => p c && q c
  | diff, p, q => fun c => p c && !q c
  | symDiff, p, q => fun c => p c != q c

/-- The class read so far: what stands before the last operation, and the union after it. -/
structure ClassState where
  left : Option (Class × SetOp) := none
  union : Class := fun _ => false

/-- Add characters to the union. -/
def ClassState.add (s : ClassState) (p : Class) : ClassState :=
  { s with union := fun c => s.union c || p c }

/-- The class of a state. -/
def ClassState.close (s : ClassState) : Class :=
  match s.left with
  | some (l, op) => op.apply l s.union
  | none => s.union

/-- Go on behind a set operation. -/
def ClassState.operate (f : Flags) (s : ClassState) (op : SetOp) : ClassState :=
  { left := some (f.fold s.close, op) }

/-- A named class between colons, behind its bracket. -/
def namedClass? (f : Flags) : Text → Option (Class × Text)
  | ':' :: cs =>
    let (negated, cs) := match cs with
      | '^' :: cs => (true, cs)
      | cs => (false, cs)
    (Text.cutAt? ":]".toList cs).bind fun (name, rest) =>
      ((asciiClass? (String.ofList name)).bind (f.negate? negated)).map fun p => (p, rest)
  | _ => none

/-- One character or escape in a class. -/
def classAtom? (f : Flags) : Text → Option (Escape × Text)
  | [] => none
  | '\\' :: cs => match escape? f cs with
    | some (.anchor _, _) => none
    | r => r
  | c :: cs => some (.char c, cs)

/-- A character, an escape or a range in a class. -/
def classRange? (f : Flags) (t : Text) : Option (Class × Text) :=
  match classAtom? f t with
  | none | some (.anchor _, _) => none
  | some (.oneOf p, rest) =>
    match rest with
    | '-' :: ']' :: _ | '-' :: '-' :: _ => some (p, rest)
    | '-' :: _ => none
    | _ => some (p, rest)
  | some (.char a, rest) =>
    match rest with
    | '-' :: ']' :: _ | '-' :: '-' :: _ => some ((· == a), rest)
    | '-' :: more =>
      match classAtom? f more with
      | some (.char b, rest) =>
        if a ≤ b then some (fun c => a ≤ c && c ≤ b, rest) else none
      | _ => none
    | _ => some ((· == a), rest)

mutual

/-- A class behind its opening bracket. -/
def readClass? (f : Flags) : (n : Nat) → Text → Option (Class × Text)
  | 0, _ => none
  | n + 1, t =>
    let (negated, t) := match t with
      | '^' :: cs => (true, cs)
      | cs => (false, cs)
    let dashes := t.takeWhile (· == '-')
    let t := t.dropWhile (· == '-')
    let s : ClassState := if dashes = [] then {} else { union := (· == '-') }
    let (s, t) := match t with
      | ']' :: cs => if dashes = [] then (s.add (· == ']'), cs) else (s, t)
      | _ => (s, t)
    (readClassItems? f n s t).bind fun r => (f.negate? negated (f.fold r.1)).map fun p => (p, r.2)

/-- The items of a class up to its closing bracket. -/
def readClassItems? (f : Flags) : (n : Nat) → ClassState → Text → Option (Class × Text)
  | 0, _, _ => none
  | n + 1, s, t =>
    match t with
    | [] => none
    | ']' :: cs => some (s.close, cs)
    | '&' :: '&' :: cs => readClassItems? f n (s.operate f .inter) cs
    | '-' :: '-' :: cs => readClassItems? f n (s.operate f .diff) cs
    | '~' :: '~' :: cs => readClassItems? f n (s.operate f .symDiff) cs
    | '[' :: cs =>
      match namedClass? f cs with
      | some (p, rest) => readClassItems? f n (s.add p) rest
      | none => (readClass? f n cs).bind fun r => readClassItems? f n (s.add r.1) r.2
    | t =>
      if f.verbose ∧ t.head?.any isBlank then readClassItems? f n s t.tail
      else (classRange? f t).bind fun r => readClassItems? f n (s.add r.1) r.2

end

/-! ## Repetition -/

/-- The counts between braces: a number, a least number, or both bounds. -/
def counts? (body : Text) : Option (Nat × Option Nat) :=
  let number? (t : Text) := (Text.natural? (Text.trim t)).filter (· < Nat.pow 2 32)
  match Text.cut? ',' body with
  | none => (number? body).map fun n => (n, some 0)
  | some (least, most) => (number? least).bind fun m =>
    if most = [] then some (m, none)
    else (number? most).bind fun n => if m ≤ n then some (m, some (n - m)) else none

/-- A repetition operator at the front of a text: the least number of copies and how many more. -/
def repetition? : Text → Option (Option (Nat × Option Nat) × Text)
  | '*' :: cs => some (some (0, none), cs)
  | '+' :: cs => some (some (1, none), cs)
  | '?' :: cs => some (some (0, some 1), cs)
  | '\x7b' :: cs =>
    match Text.cut? '\x7d' cs with
    | some (body, rest) => some (counts? body, rest)
    | none => some (none, [])
  | _ => none

/-! ## Groups -/

/-- What stands behind the opening of a group. -/
inductive GroupHead where
  /-- Flags for the rest of the enclosing group. -/
  | setFlags (f : Flags)
  | enter (f : Flags) (captured : Bool)

/-- A name may stand between angle brackets. -/
def isGroupName (t : Text) : Bool :=
  match t with
  | [] => false
  | c :: cs =>
    (c == '_' || inCategory "L" c) &&
      cs.all fun c => isAlphanumeric c || c == '_' || c == '.' || c == '[' || c == ']'

/-- Read the start of a group. -/
def groupHead? (f : Flags) : Text → Option (GroupHead × Text)
  | '?' :: 'P' :: '<' :: cs => named cs
  | '?' :: '<' :: cs => named cs
  | '?' :: cs => (f.read? true [] cs).map fun (g, colon, rest) =>
    (if colon then .enter g false else .setFlags g, rest)
  | cs => some (.enter f true, cs)
where
  named (cs : Text) : Option (GroupHead × Text) :=
    (Text.cut? '>' cs).bind fun (name, rest) =>
      if isGroupName name then some (.enter f true, rest) else none

/-! ## Expressions -/

/-- An expression read so far in reverse; what can not be repeated is `none`. -/
abbrev Parts := List (Option Regex)

/-- The alternatives read so far, the last one still in parts. -/
def closeGroup (finished : List Regex) (parts : Parts) : Regex :=
  oneOf (concat (parts.reverse.filterMap id) :: finished).reverse

/-- One character under flags. -/
def Flags.char (f : Flags) (c : Char) : Regex := .one (f.fold (· == c))

/-- The dot under flags. -/
def Flags.dot (f : Flags) : Regex :=
  .one fun c => f.dotAll || (c != '\n' && !(f.crlf && c == '\r'))

/-- Read alternatives up to the end of the text, or of the group if `nested`. -/
def readFrom? : (n : Nat) → Flags → (nested : Bool) → List Regex → Parts → Text →
    Option (Regex × Text)
  | 0, _, _, _, _, _ => none
  | n + 1, f, nested, finished, parts, t =>
    match t with
    | [] => if nested then none else some (closeGroup finished parts, [])
    | c :: cs =>
      if f.verbose ∧ isBlank c then readFrom? n f nested finished parts cs
      else if f.verbose ∧ c = '#' then
        readFrom? n f nested finished parts (cs.dropWhile (· != '\n'))
      else match repetition? (c :: cs) with
        | some (some (least, more), rest) =>
          match parts with
          | some r :: parts =>
            let (lazy, rest) := match rest with
              | '?' :: rest => (true, rest)
              | rest => (false, rest)
            readFrom? n f nested finished
              (some (r.repetition least more (lazy == f.swapGreed)) :: parts) rest
          | _ => none
        | some (none, _) => none
        | none =>
          match c with
          | ')' => if nested then some (closeGroup finished parts, cs) else none
          | '|' =>
            readFrom? n f nested (concat (parts.reverse.filterMap id) :: finished) [] cs
          | '(' =>
            match groupHead? f cs with
            | none => none
            | some (.setFlags g, rest) => readFrom? n g nested finished (none :: parts) rest
            | some (.enter g captured, rest) =>
              (readFrom? n g true [] [] rest).bind fun (r, rest) =>
                readFrom? n f nested finished
                  (some (if captured then .group r else r) :: parts) rest
          | '[' => (readClass? f (cs.length + 1) cs).bind fun (p, rest) =>
            readFrom? n f nested finished (some (.one p) :: parts) rest
          | '\\' => (escape? f cs).bind fun (e, rest) =>
            readFrom? n f nested finished (some (match e with
              | .char c => f.char c
              | .oneOf p => .one (f.fold p)
              | .anchor a => .anchor a) :: parts) rest
          | '.' =>
            if f.unicode then readFrom? n f nested finished (some f.dot :: parts) cs else none
          | '^' => readFrom? n f nested finished
            (some (.anchor (if f.multiLine then .lineStart f.crlf else .start)) :: parts) cs
          | '$' => readFrom? n f nested finished
            (some (.anchor (if f.multiLine then .lineEnd f.crlf else .finish)) :: parts) cs
          | c => readFrom? n f nested finished (some (f.char c) :: parts) cs

/-- The expression written in a text. -/
def read? (t : Text) : Option Regex := (readFrom? (t.length + 1) {} false [] [] t).map (·.1)

end Regex

end Repartee
