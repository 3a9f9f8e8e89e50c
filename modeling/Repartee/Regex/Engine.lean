import Repartee.Regex.Basic

/-!
# Engines

What searches with an expression compiles it into a program first, and refuses an expression whose
program is too large. How large a program becomes is the engine's own affair.

* `Regex.whole`: an expression between the anchors of a whole text.
* `Regex.Engine`, `Regex.Engine.Takes`: an engine, and the expressions it takes.
* `Regex.Engine.unlimited`: an engine that takes every expression.
-/

namespace Repartee

namespace Regex

/-- An expression between the anchors of a whole text. -/
def whole (r : Regex) : Regex := concat [.anchor .start, r, .anchor .finish]

/-- What compiles expressions. -/
structure Engine where
  /-- The bytes of the program of an expression. -/
  size : Regex → Nat
  /-- The bytes a program may have. -/
  limit : Nat
  /-- The program of any text of one line, captured, is small enough. -/
  line_le : size (whole (.group (.anyLazy isInline))) ≤ limit

namespace Engine

/-- The program of an expression is small enough. -/
def Takes (e : Engine) (r : Regex) : Prop := e.size r ≤ e.limit

instance (e : Engine) (r : Regex) : Decidable (e.Takes r) := inferInstanceAs (Decidable (_ ≤ _))

/-- An engine whose programs take no room. -/
def unlimited : Engine where
  size _ := 0
  limit := 0
  line_le := Nat.le_refl 0

theorem unlimited_takes (r : Regex) : unlimited.Takes r := Nat.le_refl 0

end Engine

end Regex

end Repartee
