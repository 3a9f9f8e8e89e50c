import Repartee.Text.Basic

/-!
# TOML

* `Toml`: values and tables, with a note of how a table came about.
* `Toml.Statement`: a header or an assignment.
* **`Toml.build?`**: the table that statements make up; nothing may be defined twice.
-/

namespace Repartee

/-- How a table came about. -/
inductive Toml.Origin where
  /-- Between braces; it can not be extended. -/
  | inline
  /-- By its own header. -/
  | header
  /-- As the parent of another header's table. -/
  | implied
  /-- By a dotted key. -/
  | dotted
  deriving DecidableEq, Repr

/-- A TOML value. -/
inductive Toml where
  | text (s : String)
  | integer (n : Int)
  | bool (b : Bool)
  /-- A float, a date or a time. -/
  | other
  | array (items : List Toml)
  | table (origin : Toml.Origin) (entries : List (String × Toml))
  /-- Tables collected under headers in double brackets. -/
  | tables (items : List (List (String × Toml)))
  deriving Inhabited

namespace Toml

/-- The entries of a table. -/
abbrev Entries := List (String × Toml)

/-- A part of a document. -/
inductive Statement where
  | header (path : List String)
  | arrayHeader (path : List String)
  | assign (path : List String) (value : Toml)

/-- Replace the value of a key. -/
def replace (key : String) (value : Toml) (es : Entries) : Entries :=
  es.map fun e => if e.1 = key then (key, value) else e

/-- Change the table at a path, making the tables on the way. A dotted key must not pass through
a table with a header. -/
def modifyAt (dotted : Bool) (f : Origin → Entries → Option Entries) :
    List String → Origin → Entries → Option Entries
  | [], origin, es => f origin es
  | key :: path, _, es =>
    match es.lookup key with
    | none =>
      let origin := if dotted then .dotted else .implied
      (modifyAt dotted f path origin []).map fun child => es ++ [(key, .table origin child)]
    | some (.table .inline _) => none
    | some (.table origin child) =>
      if dotted ∧ origin = .header then none
      else (modifyAt dotted f path origin child).map fun child =>
        replace key (.table origin child) es
    | some (.tables items) =>
      match items.reverse with
      | [] => none
      | last :: earlier => (modifyAt dotted f path .header last).map fun child =>
        replace key (.tables (child :: earlier).reverse) es
    | some _ => none

/-- Assign a value to a dotted key. -/
def assign (path : List String) (value : Toml) (origin : Origin) (es : Entries) : Option Entries :=
  match path.reverse with
  | [] => none
  | key :: before =>
    modifyAt true
      (fun origin es =>
        if (origin == .dotted) == before.isEmpty then none
        else if (es.lookup key).isSome then none
        else some (es ++ [(key, value)]))
      before.reverse origin es

/-- Carry out assignments up to the next header. -/
def assignAll : Entries → List Statement → Option (Entries × List Statement)
  | es, .assign path value :: rest =>
    (assign path value .header es).bind fun es => assignAll es rest
  | es, rest => some (es, rest)

/-- Take out the table that a header goes on with. -/
def claim? (key : String) (es : Entries) : Option Entries :=
  match es.lookup key with
  | none => some []
  | some (.table .implied child) => some child
  | some _ => none

/-- Put a table in the place of an earlier one, or behind all others. -/
def put (key : String) (value : Toml) (es : Entries) : Entries :=
  if (es.lookup key).isSome then replace key value es else es ++ [(key, value)]

/-- Define a table with its assignments. -/
def define (rest : List Statement) (key : String) (es : Entries) : Option Entries := do
  let child ← claim? key es
  let (child, _) ← assignAll child rest
  pure (put key (.table .header child) es)

/-- Append a table with its assignments to an array of tables. -/
def append (rest : List Statement) (key : String) (es : Entries) : Option Entries := do
  let items ← match es.lookup key with
    | none => some []
    | some (.tables items) => some items
    | some _ => none
  let (child, _) ← assignAll [] rest
  pure (put key (.tables (items ++ [child])) es)

/-- Carry out the statements from the first header on. -/
def buildFrom : Entries → List Statement → Option Entries
  | es, [] => some es
  | es, .assign _ _ :: rest => buildFrom es rest
  | es, .header path :: rest => (under path (define rest) es).bind fun es => buildFrom es rest
  | es, .arrayHeader path :: rest => (under path (append rest) es).bind fun es => buildFrom es rest
where
  under (path : List String) (f : String → Entries → Option Entries) (es : Entries) :
      Option Entries :=
    match path.reverse with
    | [] => none
    | key :: before => modifyAt false (fun _ es => f key es) before.reverse .header es

/-- The table that statements make up. -/
def build? (statements : List Statement) : Option Toml := do
  let (es, rest) ← assignAll [] statements
  pure (.table .header (← buildFrom es rest))

/-- The table between braces that assignments make up. -/
def inline? (assignments : List (List String × Toml)) : Option Toml :=
  (assignments.foldlM (fun es (path, value) => assign path value .header es) []).map
    (.table .inline)

end Toml

end Repartee
