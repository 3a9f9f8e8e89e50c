import Repartee.Json.Record
import Repartee.Options.Basic
import Repartee.Toml.Reader

/-!
# Reading options

Options come as a TOML text or as a JSON value. Missing settings keep their defaults and unknown
ones are passed over.

* `Setting`: a value of either format, as far as options look at it.
* `Options.ofSetting?`: the options of a value.
* **`Options.ofToml?`**, **`Options.ofJson?`**.
-/

namespace Repartee

/-- A value of a configuration. -/
inductive Setting where
  | text (s : String)
  | integer (n : Int)
  | bool (b : Bool)
  | null
  | other
  | list (items : List Setting)
  | group (entries : List (String × Setting))

namespace Setting

/-! ## Formats -/

mutual

/-- The setting of a TOML value. -/
def ofToml : Toml → Setting
  | .text s => text s
  | .integer n => integer n
  | .bool b => bool b
  | .other => other
  | .array items => list (ofTomls items)
  | .table _ entries => group (ofTomlEntries entries)
  | .tables items => list (ofTomlTables items)

/-- The settings of TOML values. -/
def ofTomls : List Toml → List Setting
  | [] => []
  | v :: vs => ofToml v :: ofTomls vs

/-- The settings of TOML entries. -/
def ofTomlEntries : List (String × Toml) → List (String × Setting)
  | [] => []
  | (k, v) :: es => (k, ofToml v) :: ofTomlEntries es

/-- The settings of TOML tables. -/
def ofTomlTables : List (List (String × Toml)) → List Setting
  | [] => []
  | es :: rest => group (ofTomlEntries es) :: ofTomlTables rest

end

mutual

/-- The setting of a JSON value. -/
def ofJson : Json → Setting
  | .null => null
  | .bool b => bool b
  | .number literal =>
    match (Json.number literal).int? with
    | some n => integer n
    | none => other
  | .string (some s) => text s
  | .string none => other
  | .array items => list (ofJsons items)
  | .object fields => group (ofFields fields)

/-- The settings of JSON values. -/
def ofJsons : List Json → List Setting
  | [] => []
  | v :: vs => ofJson v :: ofJsons vs

/-- The settings of JSON fields. -/
def ofFields : List (Option String × Json) → List (String × Setting)
  | [] => []
  | (k, v) :: fs => (k.getD "", ofJson v) :: ofFields fs

end

/-! ## Decoding -/

/-- The settings of some names: by name from a group, in order from a list. -/
def fields? (names : List String) : Setting → Option (List (Option Setting))
  | group entries => some (names.map fun k => entries.lookup k)
  | list items =>
    if items.length ≤ names.length then
      some (items.map some ++ List.replicate (names.length - items.length) none)
    else none
  | _ => none

/-- A text, or the default of a missing setting. -/
def text? (default : String) : Option Setting → Option String
  | none => some default
  | some (text s) => some s
  | _ => none

/-- A truth value, or the default of a missing setting. -/
def bool? (default : Bool) : Option Setting → Option Bool
  | none => some default
  | some (bool b) => some b
  | _ => none

/-- A number below `2 ^ 64`. -/
def word? : Setting → Option Nat
  | integer n => if 0 ≤ n ∧ n < Nat.pow 2 64 then some n.toNat else none
  | _ => none

end Setting

/-- The notices of a setting. -/
def Notices.ofSetting? (s : Setting) : Option Notices := do
  match ← s.fields?
      ["reply_not_matched", "reply_not_found", "object_not_found", "deep_recursion"] with
  | [notMatched, notFound, objectNotFound, deepRecursion] =>
    let d : Notices := {}
    pure
      { notMatched := ← Setting.text? d.notMatched notMatched
        notFound := ← Setting.text? d.notFound notFound
        objectNotFound := ← Setting.text? d.objectNotFound objectNotFound
        deepRecursion := ← Setting.text? d.deepRecursion deepRecursion }
  | _ => none

namespace Options

/-- The options of a setting. -/
def ofSetting? (s : Setting) : Option Options := do
  match ← s.fields? ["depth", "strict", "utf8", "force_case", "unicode_punctuation", "seed",
    "errors"] with
  | [depth, strict, utf8, forceCase, punctuation, seed, notices] =>
    let d : Options := {}
    pure
      { depth := ← match depth with
          | none => some d.depth
          | some s => s.word?
        strict := ← Setting.bool? d.strict strict
        utf8 := ← Setting.bool? d.utf8 utf8
        forceCase := ← Setting.bool? d.forceCase forceCase
        punctuation := ← Setting.text? d.punctuation punctuation
        seed := ← match seed with
          | none | some .null => some none
          | some s => s.word?.map some
        notices := ← match notices with
          | none => some d.notices
          | some s => Notices.ofSetting? s }
  | _ => none

/-- The options of a TOML text. -/
def ofToml? (text : String) : Option Options :=
  (Toml.read? text).bind fun t => ofSetting? (.ofToml t)

/-- The options of a JSON value. -/
def ofJson? (j : Json) : Option Options := ofSetting? (.ofJson j)

end Options

end Repartee
