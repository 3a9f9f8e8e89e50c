import Repartee.Json.Reader
import Repartee.Table

/-!
# Records in JSON

A record is an object with known fields. Any field may be missing, unknown fields are passed over,
and a known one must not come twice, under whatever of its names. An array gives the fields in
their order, the last ones maybe missing.

* `Json.record?`: the values of the known fields.
* `Json.field?`: decode a field, with a default for a missing one.
* `Json.string?`, `Json.list?`, `Json.table?`, `Json.nullable?`: decode values.
-/

namespace Repartee

namespace Json

/-- The value of a field with some names; `none` if it comes twice. -/
def unique? (names : List String) (fields : List (String × Json)) : Option (Option Json) :=
  match fields.filter fun f => names.contains f.1 with
  | [] => some none
  | [f] => some (some f.2)
  | _ => none

/-- The values of the known fields of a record; each field is given by its names. -/
def record? (names : List (List String)) : Json → Option (List (Option Json))
  | object fields => do
    let fields ← fields.mapM fun f => f.1.map fun k => (k, f.2)
    names.mapM fun ns => unique? ns fields
  | array items =>
    if items.length ≤ names.length then
      some (items.map some ++ List.replicate (names.length - items.length) none)
    else none
  | _ => none

/-- Decode a field; a missing one has a default. -/
def field? {α : Type} (decode : Json → Option α) (default : α) : Option Json → Option α
  | none => some default
  | some j => decode j

/-- A string. -/
def string? : Json → Option String
  | string s => s
  | _ => none

/-- A truth value. -/
def bool? : Json → Option Bool
  | bool b => some b
  | _ => none

/-- The items of an array. -/
def list? {α : Type} (decode : Json → Option α) : Json → Option (List α)
  | array items => items.mapM decode
  | _ => none

/-- The entries of an object; of a repeated name the last one counts. -/
def table? {α : Type} (decode : Json → Option α) : Json → Option (Table α)
  | object fields => do
    let entries ← fields.mapM fun f => do pure ((← f.1), (← decode f.2))
    pure (Table.ofList entries)
  | _ => none

/-- A value or null. -/
def nullable? {α : Type} (decode : Json → Option α) : Json → Option (Option α)
  | null => some none
  | j => (decode j).map some

/-- A table as an object. -/
def ofTable {α : Type} (encode : α → Json) (t : Table α) : Json :=
  obj (t.entries.map fun e => (e.1, encode e.2))

end Json

end Repartee
