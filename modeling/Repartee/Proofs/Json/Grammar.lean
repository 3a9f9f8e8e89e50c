import Repartee.Json.Basic

/-!
# The grammar of JSON

Which texts a value may be written as. Between tokens there may be any blanks, and in a string any
character may be escaped.

* `Json.Spells`: how the characters of a string may be written.
* `Json.Body`: what may stand between quotes, with halves of characters that belong to no string.
* `Json.Number`: how numbers are written.
* **`Json.Written`**: how values are written.
-/

namespace Repartee

namespace Json

/-- Blanks between tokens. -/
def Gaps (t : Text) : Prop := ∀ c ∈ t, c = ' ' ∨ c = '\t' ∨ c = '\n' ∨ c = '\r'

/-! ## Strings -/

/-- A character that may stand in a string as it is. -/
structure Plain (c : Char) : Prop where
  control : 32 ≤ c.toNat
  quote : c ≠ '"'
  backslash : c ≠ '\\'

/-- The letters of short escapes, with the characters they stand for. -/
def shortEscapes : List (Char × Char) :=
  [('"', '"'), ('\\', '\\'), ('/', '/'), ('b', '\x08'), ('f', '\x0c'), ('n', '\n'), ('r', '\r'),
    ('t', '\t')]

/-- Four hexadecimal digits for a number. -/
structure HexDigits (n : Nat) (t : Text) : Prop where
  length : t.length = 4
  digits : ∀ c ∈ t, isHexDigit c = true
  value : Text.value 16 t = n

/-- A text between quotes stands for some characters. A character beyond the first `0x10000` is
escaped as two halves. -/
inductive Spells : (chars : Text) → Text → Prop
  | nil : Spells [] []
  | plain {c : Char} {cs t : Text} : Plain c → Spells cs t → Spells (c :: cs) (c :: t)
  | short {e c : Char} {cs t : Text} :
    (e, c) ∈ shortEscapes → Spells cs t → Spells (c :: cs) ('\\' :: e :: t)
  | unit {c : Char} {ds cs t : Text} :
    HexDigits c.toNat ds → Spells cs t → Spells (c :: cs) ('\\' :: 'u' :: (ds ++ t))
  | pair {c : Char} {high low : Nat} {ds es cs t : Text} :
    high < 0x400 → low < 0x400 → c.toNat = 0x10000 + high * 0x400 + low →
      HexDigits (0xD800 + high) ds → HexDigits (0xDC00 + low) es → Spells cs t →
        Spells (c :: cs) ('\\' :: 'u' :: (ds ++ '\\' :: 'u' :: (es ++ t)))

/-- A text may stand between quotes. -/
inductive Body : Text → Prop
  | nil : Body []
  | plain {c : Char} {t : Text} : Plain c → Body t → Body (c :: t)
  | short {e c : Char} {t : Text} : (e, c) ∈ shortEscapes → Body t → Body ('\\' :: e :: t)
  | unit {n : Nat} {ds t : Text} : HexDigits n ds → Body t → Body ('\\' :: 'u' :: (ds ++ t))

/-- A text in quotes is a string; without characters if halves of them are left alone. -/
inductive Quoted : Option String → Text → Prop
  | string {s : String} {t : Text} : Spells s.toList t → Quoted (some s) ('"' :: (t ++ ['"']))
  | broken {t : Text} : Body t → (∀ cs, ¬Spells cs t) → Quoted none ('"' :: (t ++ ['"']))

/-! ## Numbers -/

/-- Digits, at least one. -/
structure Digits (t : Text) : Prop where
  nonempty : t ≠ []
  digits : ∀ c ∈ t, c.isDigit = true

/-- A whole number without needless zeros. -/
inductive Whole : Text → Prop
  | zero : Whole ['0']
  | digits {c : Char} {ds : Text} : c ≠ '0' → Digits (c :: ds) → Whole (c :: ds)

/-- A fraction, or none. -/
inductive Fraction : Text → Prop
  | none : Fraction []
  | digits {ds : Text} : Digits ds → Fraction ('.' :: ds)

/-- An exponent, or none. -/
inductive Exponent : Text → Prop
  | none : Exponent []
  | digits {e : Char} {sign ds : Text} :
    e = 'e' ∨ e = 'E' → sign = [] ∨ sign = ['+'] ∨ sign = ['-'] → Digits ds →
      Exponent (e :: (sign ++ ds))

/-- A number. -/
inductive Number : Text → Prop
  | intro {sign whole fraction exponent : Text} :
    sign = [] ∨ sign = ['-'] → Whole whole → Fraction fraction → Exponent exponent →
      Number (sign ++ whole ++ fraction ++ exponent)

/-! ## Values -/

mutual

/-- A text is a value. -/
inductive Written : Json → Text → Prop
  | null : Written null "null".toList
  | true : Written (bool true) "true".toList
  | false : Written (bool false) "false".toList
  | number {t : Text} : Number t → Written (number t) t
  | string {s : Option String} {t : Text} : Quoted s t → Written (string s) t
  | noItems {g : Text} : Gaps g → Written (array []) ('[' :: (g ++ [']']))
  | array {vs : List Json} {t : Text} : WrittenItems vs t → Written (array vs) ('[' :: (t ++ [']']))
  | noFields {g : Text} : Gaps g → Written (object []) ('\x7b' :: (g ++ ['\x7d']))
  | object {fs : List (Option String × Json)} {t : Text} :
    WrittenFields fs t → Written (object fs) ('\x7b' :: (t ++ ['\x7d']))

/-- A text is the items of an array, with the blanks around them. -/
inductive WrittenItems : List Json → Text → Prop
  | one {v : Json} {g t g' : Text} :
    Gaps g → Written v t → Gaps g' → WrittenItems [v] (g ++ (t ++ g'))
  | cons {v : Json} {vs : List Json} {g t g' u : Text} :
    Gaps g → Written v t → Gaps g' → WrittenItems vs u →
      WrittenItems (v :: vs) (g ++ (t ++ (g' ++ ',' :: u)))

/-- A text is the fields of an object, with the blanks around them. -/
inductive WrittenFields : List (Option String × Json) → Text → Prop
  | one {k : Option String} {v : Json} {g q g₁ g₂ t g' : Text} :
    Gaps g → Quoted k q → Gaps g₁ → Gaps g₂ → Written v t → Gaps g' →
      WrittenFields [(k, v)] (g ++ (q ++ (g₁ ++ ':' :: (g₂ ++ (t ++ g')))))
  | cons {k : Option String} {v : Json} {fs : List (Option String × Json)}
    {g q g₁ g₂ t g' u : Text} :
    Gaps g → Quoted k q → Gaps g₁ → Gaps g₂ → Written v t → Gaps g' → WrittenFields fs u →
      WrittenFields ((k, v) :: fs) (g ++ (q ++ (g₁ ++ ':' :: (g₂ ++ (t ++ (g' ++ ',' :: u))))))

end

end Json

end Repartee
