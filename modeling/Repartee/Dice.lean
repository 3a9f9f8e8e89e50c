/-!
# Dice

* `Dice`: an endless sequence of numbers and how many of them are used up.
* `Dice.roll`: a number below a bound.
* `Dice.first`: the sequence of zeros.
-/

namespace Repartee

/-- An endless sequence of rolls. -/
structure Dice where
  rolls : Nat → Nat
  used : Nat := 0

namespace Dice

/-- The next number below `n`. -/
def roll (d : Dice) (n : Nat) : Nat × Dice := (d.rolls d.used % n, { d with used := d.used + 1 })

/-- The sequence that always gives zero. -/
def first : Dice where
  rolls _ := 0

end Dice

end Repartee
