import Repartee.Document.Basic
import Repartee.Json.Record

/-!
# Documents in JSON

* `Document.toJson`: every field, in a fixed order.
* `Document.ofJson?`: a document in which fields may be missing, and `trigger`, `reply` and
  `condition` may stand for `pattern`, `replies` and `conditions`.
* **`Document.read?`**: the document of a text.
-/

namespace Repartee

/-! ## Writing -/

/-- A trigger as a record. -/
def Trigger.toJson (g : Trigger) : Json :=
  .obj [("pattern", .text g.pattern), ("replies", .texts g.replies),
    ("conditions", .texts g.conditions), ("redirect", .optionalText g.redirect),
    ("previous", .optionalText g.previous)]

/-- A topic as a record. -/
def Topic.toJson (t : Topic) : Json :=
  .obj [("name", .text t.name), ("includes", .texts t.includes), ("inherits", .texts t.inherits),
    ("triggers", .array (t.triggers.map Trigger.toJson))]

/-- A begin block as a record. -/
def Begin.toJson (b : Begin) : Json :=
  .obj [("global", .ofTable .text b.global), ("var", .ofTable .text b.var),
    ("sub", .ofTable .text b.sub), ("person", .ofTable .text b.person),
    ("array", .ofTable .texts b.array)]

/-- A macro as a record. -/
def ObjectMacro.toJson (o : ObjectMacro) : Json :=
  .obj [("name", .text o.name), ("language", .text o.language), ("code", .text o.code)]

/-- A document as a record. -/
def Document.toJson (d : Document) : Json :=
  .obj [("begin", d.begin.toJson), ("topics", .array (d.topics.map Topic.toJson)),
    ("objects", .array (d.objects.map ObjectMacro.toJson))]

/-! ## Reading -/

/-- Decode a trigger. -/
def Trigger.ofJson? (j : Json) : Option Trigger := do
  let fields ← j.record? [["pattern", "trigger"], ["replies", "reply"], ["conditions", "condition"],
    ["redirect"], ["previous"]]
  match fields with
  | [pattern, replies, conditions, redirect, previous] =>
    pure
      { pattern := ← Json.field? Json.string? "" pattern
        replies := ← Json.field? (Json.list? Json.string?) [] replies
        conditions := ← Json.field? (Json.list? Json.string?) [] conditions
        redirect := ← Json.field? (Json.nullable? Json.string?) none redirect
        previous := ← Json.field? (Json.nullable? Json.string?) none previous }
  | _ => none

/-- Decode a topic. -/
def Topic.ofJson? (j : Json) : Option Topic := do
  match ← j.record? [["name"], ["includes"], ["inherits"], ["triggers"]] with
  | [name, includes, inherits, triggers] =>
    pure
      { name := ← Json.field? Json.string? "" name
        includes := ← Json.field? (Json.list? Json.string?) [] includes
        inherits := ← Json.field? (Json.list? Json.string?) [] inherits
        triggers := ← Json.field? (Json.list? Trigger.ofJson?) [] triggers }
  | _ => none

/-- Decode a begin block. -/
def Begin.ofJson? (j : Json) : Option Begin := do
  match ← j.record? [["global"], ["var"], ["sub"], ["person"], ["array"]] with
  | [global, var, sub, person, array] =>
    pure
      { global := ← Json.field? (Json.table? Json.string?) ∅ global
        var := ← Json.field? (Json.table? Json.string?) ∅ var
        sub := ← Json.field? (Json.table? Json.string?) ∅ sub
        person := ← Json.field? (Json.table? Json.string?) ∅ person
        array := ← Json.field? (Json.table? (Json.list? Json.string?)) ∅ array }
  | _ => none

/-- Decode a macro; it must have a name and a language. -/
def ObjectMacro.ofJson? (j : Json) : Option ObjectMacro := do
  match ← j.record? [["name"], ["language"], ["code"]] with
  | [some name, some language, code] =>
    pure
      { name := ← name.string?
        language := ← language.string?
        code := ← Json.field? Json.string? "" code }
  | _ => none

namespace Document

/-- Decode a document. -/
def ofJson? (j : Json) : Option Document := do
  match ← j.record? [["begin"], ["topics"], ["objects"]] with
  | [begin, topics, objects] =>
    pure
      { begin := ← Json.field? Begin.ofJson? {} begin
        topics := ← Json.field? (Json.list? Topic.ofJson?) [] topics
        objects := ← Json.field? (Json.list? ObjectMacro.ofJson?) [] objects }
  | _ => none

/-- The document of a text. -/
def read? (text : String) : Option Document := (Json.read? text.toList).bind ofJson?

end Document

end Repartee
