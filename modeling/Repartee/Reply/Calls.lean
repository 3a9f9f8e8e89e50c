import Repartee.Macro.Words
import Repartee.Reply.Turn

/-!
# Macro calls in a reply

A call is cut into words before anything in it is expanded. Each argument is put between marks, so
that a value with spaces that is expanded into an argument stays in one piece.

* `Call.wrap`: mark the calls of a reply and their arguments.
* `Call.runAll`: run the marked calls and put their texts in their place.
-/

namespace Repartee

namespace Call

/-! ## Marks -/

/-- The start of a marked call. -/
def callOpen : Text := "\x02call\x03".toList

/-- The end of a marked call. -/
def callClose : Text := "\x02/call\x03".toList

/-- The start of a marked argument. -/
def argOpen : Text := "\x02arg\x03".toList

/-- The end of a marked argument. -/
def argClose : Text := "\x02/arg\x03".toList

/-- The marked form of the words of a call. -/
def mark : List Text → Text
  | [] => callOpen ++ callClose
  | name :: args =>
    callOpen ++ name ++ args.flatMap (fun a => ' ' :: argOpen ++ a ++ argClose) ++ callClose

/-- Mark every call. -/
def wrap (t : Text) : Text :=
  (Scan.delimited "<call>" (fun _ => true) 0 "</call>").replaceAll
    (fun body => mark (callWords body)) t

/-! ## Running -/

/-- The pieces of a text between occurrences of a separator. -/
def piecesAt (sep : Text) : (n : Nat) → Text → List Text
  | 0, t => [t]
  | n + 1, t =>
    match Text.cutAt? sep t with
    | none => [t]
    | some (piece, rest) => piece :: piecesAt sep n rest

/-- The name and the arguments of a marked call. -/
def read (body : Text) : Text × List Text :=
  match piecesAt argOpen body.length body with
  | [] => ([], [])
  | name :: args =>
    (Text.trim name, args.map fun a => ((Text.cutAt? argClose a).map (·.1)).getD a)

/-- The first marked call of a text. -/
def marked : Scan Text := fun t =>
  (Text.startsWith? callOpen t).bind (Text.cutAt? callClose)

/-- Calls of one text that are run. -/
def limit : Nat := 50

/-- Run a macro. -/
def run (s : Script) (a : Speaker) (name : String) (args : List String) : Talk Text :=
  match s.languages.find? name with
  | none => pure s.options.notices.objectNotFound.toList
  | some language =>
    match s.handlers.find? language with
    | none => pure "[ERR: No Object Handler]".toList
    | some h => modifyGet fun t =>
      let (result, deeds) := h.call s.registry ⟨a.user, name, args, a.scope⟩ t.toDesk
      let text := match result with
        | .ok text => text
        | .error e => "[ERR: Error when executing " ++ language ++ " object: " ++ e.message ++ "]"
      (text.toList, { t with toDesk := t.afterCall deeds })

/-- Marks without their partner as they were written. -/
def unmark (t : Text) : Text :=
  Text.replace argClose [] <| Text.replace argOpen [] <|
    Text.replace callClose "</call>".toList <| Text.replace callOpen "<call>".toList t

/-- Run the marked calls of a text. -/
def runAll (s : Script) (a : Speaker) (t : Text) : Talk Text :=
  unmark <$> Talk.replacing marked
    (fun body =>
      let (name, args) := read body
      run s a (String.ofList name) (args.map String.ofList))
    limit t

end Call

end Repartee
