import Repartee.Reply.Calls
import Repartee.Reply.Shorthand
import Repartee.Reply.Variables
import Repartee.Text.Casing

/-!
# Expanding a reply

A reply goes through a fixed sequence of passes, each seeing the text the one before it left.
Every loop is bounded; what is left over stays as it is written.

* `Expand.prepare`: the passes that change nothing, before any choice is made.
* `Expand.choose`, `Expand.formats`, `Variables.resolve`, `Expand.topics`, `Expand.redirects`,
  `Call.runAll`: the other passes.
* `expand`: all of them. Inline redirects are answered by a given function.
-/

namespace Repartee

/-- What answers an inline redirect. -/
abbrev Redirect := Text → Talk Text

namespace Expand

/-- Tags of one kind that are replaced in one text. -/
def limit : Nat := 50

/-! ## Choices -/

/-- A random choice; its body holds the choices. -/
def randomTag : Scan Text :=
  Scan.delimited "\x7brandom\x7d" (fun _ => true) 0 "\x7b/random\x7d"

/-- The choices are separated by pipes, or else by spaces. -/
def choices (body : Text) : List Text :=
  if '|' ∈ body then body.pieces (· == '|') else body.pieces (· == ' ')

/-- Make the choices of a text, at most `n` of them. -/
def choose : (n : Nat) → Text → Talk Text :=
  Talk.replacing randomTag fun body => do
    let i ← Talk.roll (choices body).length
    pure ((choices body)[i]?.getD [])

/-! ## Formats -/

/-- A block that changes what is in it. -/
inductive Format where
  | person
  | casing (c : Casing)
  deriving DecidableEq, Repr

/-- The formats in the order they are applied, with their names. -/
def allFormats : List (String × Format) :=
  [("person", .person), ("formal", .casing .formal), ("sentence", .casing .sentence),
    ("uppercase", .casing .upper), ("lowercase", .casing .lower)]

/-- A block of a name. -/
def block (name : String) : Scan Text :=
  Scan.delimited ("\x7b" ++ name ++ "\x7d") (fun _ => true) 0 ("\x7b/" ++ name ++ "\x7d")

/-- Change what is in a block. -/
def Format.apply (s : Script) : Format → Text → Text
  | .person, t => s.person.apply s.punctuation t
  | .casing c, t => c.apply t

/-- Carry out the format blocks of a text. -/
def formats (s : Script) (t : Text) : Text :=
  allFormats.foldl (fun t (name, format) => (block name).replaceAgain (format.apply s) limit t) t

/-! ## Topics and redirects -/

/-- A change of topic; its body is the new topic. -/
def topicTag : Scan Text := Scan.delimited "\x7btopic=" (· != '\n') 1 "\x7d"

/-- Carry out the topic changes of a text. -/
def topics (user : String) (t : Text) : Talk Text :=
  Talk.replacing topicTag (fun name => do
    Talk.setVar user "topic".toList name
    pure []) limit t

/-- An inline redirect; its body is the message to answer. -/
def redirectTag : Scan Text := Scan.delimited "\x7b@" (· != '\x7d') 0 "\x7d"

/-- Answer the inline redirects of a text. -/
def redirects (s : Script) (a : Speaker) (redirect : Redirect) (t : Text) : Talk Text :=
  Talk.replacing redirectTag (fun body => do
    let target ← Call.runAll s a (Text.trim body)
    redirect (s.normalize false target)) limit t

/-! ## The first passes -/

/-- Put arrays, marked calls, stars, history and user in place. -/
def prepare (s : Script) (a : Speaker) (h : History) (stars botstars : List String) (t : Text) :
    Text :=
  Shorthand.unescape <| Shorthand.user a.user <| Shorthand.history h <|
    Shorthand.stars stars botstars <| Metadata.stripWeight <| Shorthand.tags <|
      Call.wrap <| Shorthand.arrays s t

end Expand

/-- Expand a reply. -/
def expand (s : Script) (a : Speaker) (redirect : Redirect) (stars botstars : List String)
    (t : Text) : Talk Text := do
  let data ← Talk.data? a.user
  let t := Expand.prepare s a (data.getD {}).history stars botstars t
  let t ← Expand.choose s.depth t
  let t ← Variables.resolve a.user (Expand.formats s t)
  let t ← Expand.topics a.user t
  let t ← Expand.redirects s a redirect t
  Call.runAll s a t

end Repartee
