import Repartee.Macro.Basic
import Repartee.Text.Seek

/-!
# Ready-made macros

* `Subroutine.showArgs`, `reverse`, `user`, `name`, `const`, `fail`: of the call alone.
* `Subroutine.readVar`, `readGlobal`, `writeVar`, `scope`: of the desk and the scope.
* `SourceLanguage.template`: sources are texts with a place for the arguments.
* `SourceLanguage.session`: read and write the user's variables.
-/

namespace Repartee

/-- What is answered where there is no value. -/
def noValue : String := "none"

namespace Subroutine

/-- A macro that depends on its call alone and changes nothing. -/
def pureText (f : Call → String) : Subroutine := fun c _ => (.ok (f c), [])

/-- The number of arguments, then each in brackets. -/
def showArgs : Subroutine := pureText fun c =>
  toString c.args.length ++ String.join (c.args.map fun a => "[" ++ a ++ "]")

/-- The arguments with one space between them, read backwards. -/
def reverse : Subroutine := pureText fun c =>
  String.ofList (String.intercalate " " c.args).toList.reverse

/-- The user. -/
def user : Subroutine := pureText (·.user)

/-- The name of the macro. -/
def name : Subroutine := pureText (·.name)

/-- A fixed text. -/
def const (s : String) : Subroutine := pureText fun _ => s

/-- A failure. -/
def fail (message : String) : Subroutine := fun _ _ => (.error ⟨message⟩, [])

/-- The bot variable named by the first argument. -/
def readVar : Subroutine := fun c d =>
  (.ok ((c.args.head?.bind d.vars.find?).getD noValue), [])

/-- The global variable named by the first argument. -/
def readGlobal : Subroutine := fun c d =>
  (.ok ((c.args.head?.bind d.globals.find?).getD noValue), [])

/-- Set the bot variable named by the first argument to the second, or delete it. -/
def writeVar : Subroutine := fun c _ =>
  match c.args with
  | [] => (.ok "", [])
  | name :: rest => (.ok "", [.setVariable name rest.head?])

/-- The scope, if it is a text. -/
def scope : Subroutine := pureText fun c =>
  match c.scope with
  | some (.text s) => s
  | _ => noValue

end Subroutine

namespace SourceLanguage

/-- Texts in which the arguments, with commas between them, replace a mark. -/
def template : SourceLanguage where
  refuse _ code := if code = "" then some ⟨"empty source"⟩ else none
  run loaded c _ :=
    match loaded.find? c.name with
    | none => (.error ⟨"not loaded"⟩, [])
    | some code =>
      if code = "fail" then (.error ⟨"boom"⟩, [])
      else (.ok (String.ofList (Text.replace "\x7bargs\x7d".toList
        (String.intercalate "," c.args).toList code.toList)), [])

/-- One argument reads a variable of the user, two set it. -/
def session : SourceLanguage where
  refuse _ _ := none
  run _ c d :=
    match c.args with
    | [name] => (.ok ((d.sessions.get? c.user name).getD noValue), [])
    | [name, value] => (.ok "ok", [.setUserVars c.user (Table.empty.insert name value)])
    | _ => (.error ⟨"bad args"⟩, [])

end SourceLanguage

end Repartee
