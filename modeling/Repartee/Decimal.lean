/-!
# Numbers of double precision

Values are rounded to 53 binary digits, a tie to the even neighbour, and written with the fewest
decimal digits that read back to the same value, never with an exponent.

* `Double.ofRatio`: the value nearest to a quotient.
* `Double.shortest`: the fewest digits; a tie between two of them goes up.
* `Double.text`: whole values below `2 ^ 63` exactly, all others by their fewest digits.
-/

namespace Repartee

/-- The number `± mantissa * 2 ^ exponent`. -/
structure Double where
  negative : Bool
  mantissa : Nat
  exponent : Int
  deriving DecidableEq, Repr

namespace Double

/-- The quotient rounded to the nearest whole number, a tie to the even one. -/
def roundDiv (num den : Nat) : Nat :=
  let q := num / den
  let r := num % den
  if 2 * r < den then q
  else if den < 2 * r then q + 1
  else q + q % 2

/-- `num / den * 2 ^ -e` as a fraction. -/
def scaled (num den : Nat) (e : Int) : Nat × Nat :=
  if 0 ≤ e then (num, den * Nat.pow 2 e.toNat) else (num * Nat.pow 2 (-e).toNat, den)

/-- The value nearest to a quotient of numbers below `2 ^ 512`. -/
def ofRatio (negative : Bool) (num den : Nat) : Double :=
  if num = 0 then ⟨false, 0, 0⟩
  else
    let e : Int := (num.log2 : Int) - den.log2 - 52
    let (a, b) := scaled num den e
    let e := if a / b < Nat.pow 2 52 then e - 1 else e
    let (a, b) := scaled num den e
    let m := roundDiv a b
    if m = Nat.pow 2 53 then ⟨negative, Nat.pow 2 52, e + 1⟩ else ⟨negative, m, e⟩

/-- The value nearest to an integer. -/
def ofInt (n : Int) : Double := ofRatio (n < 0) n.natAbs 1

/-- The magnitude as a fraction. -/
def fraction (d : Double) : Nat × Nat :=
  if 0 ≤ d.exponent then (d.mantissa * Nat.pow 2 d.exponent.toNat, 1)
  else (d.mantissa, Nat.pow 2 (-d.exponent).toNat)

/-! ## Arithmetic -/

/-- The sign as a factor. -/
def sign (d : Double) : Int := if d.negative then -1 else 1

/-- The value nearest to a quotient of an integer. -/
def ofQuotient (num : Int) (den : Nat) : Double := ofRatio (num < 0) num.natAbs den

/-- The sum, rounded. -/
def add (x y : Double) : Double :=
  let (a, b) := x.fraction
  let (c, d) := y.fraction
  ofQuotient (x.sign * a * d + y.sign * c * b) (b * d)

/-- The difference, rounded. -/
def sub (x y : Double) : Double := x.add { y with negative := !y.negative }

/-- The product, rounded. -/
def mul (x y : Double) : Double :=
  let (a, b) := x.fraction
  let (c, d) := y.fraction
  ofQuotient (x.sign * y.sign * a * c) (b * d)

/-- The quotient by a value other than zero, rounded. -/
def div (x y : Double) : Double :=
  let (a, b) := x.fraction
  let (c, d) := y.fraction
  ofQuotient (x.sign * y.sign * a * d) (b * c)

/-! ## Writing -/

/-- Compare two fractions. -/
def fractionLt (x y : Nat × Nat) : Bool := x.1 * y.2 < y.1 * x.2

/-- `n * 10 ^ k` as a fraction. -/
def decimal (n : Nat) (k : Int) : Nat × Nat :=
  if 0 ≤ k then (n * Nat.pow 10 k.toNat, 1) else (n, Nat.pow 10 (-k).toNat)

/-- The quarter steps `4 * mantissa - 2` (or one less far at the foot of a binary order) and
`4 * mantissa + 2` around a value, between which decimals read back to it. -/
def interval (d : Double) : (Nat × Nat) × (Nat × Nat) :=
  let scale (m : Nat) : Nat × Nat :=
    (Double.mk false m (d.exponent - 2)).fraction
  (scale (4 * d.mantissa - if d.mantissa = Nat.pow 2 52 then 1 else 2), scale (4 * d.mantissa + 2))

/-- A decimal reads back to the value; the ends of the interval do if the mantissa is even. -/
def readsBack (d : Double) (x : Nat × Nat) : Bool :=
  let (low, high) := d.interval
  if d.mantissa % 2 = 0 then !fractionLt x low && !fractionLt high x
  else fractionLt low x && fractionLt x high

/-- The place of the first digit of a fraction, found within `n` steps from `k` down. -/
def firstPlace (x : Nat × Nat) : (n : Nat) → (k : Int) → Int
  | 0, k => k
  | n + 1, k => if fractionLt x (decimal 1 k) then firstPlace x n (k - 1) else k

/-- The neighbour on the grid of `10 ^ k` that reads back, the nearer one if both do. -/
def onGrid? (d : Double) (k : Int) : Option Nat :=
  let x := d.fraction
  let unit := decimal 1 k
  let low := x.1 * unit.2 / (x.2 * unit.1)
  let rest := x.1 * unit.2 % (x.2 * unit.1)
  match d.readsBack (decimal low k), d.readsBack (decimal (low + 1) k) with
  | true, true => if 2 * rest < x.2 * unit.1 then some low else some (low + 1)
  | true, false => some low
  | false, true => some (low + 1)
  | false, false => none

/-- The first of `n` grids, from that of `10 ^ k` down, on which the value has a decimal. -/
def coarsestGrid (d : Double) : (n : Nat) → (k : Int) → Nat × Int
  | 0, k => (0, k)
  | n + 1, k =>
    match d.onGrid? k with
    | some m => (m, k)
    | none => coarsestGrid d n (k - 1)

/-- The fewest digits that read back, and the place of the last one. The search starts one place
before the first digit, for a value just below a power of ten that reads back to it. -/
def shortest (d : Double) : Nat × Int := d.coarsestGrid 19 (firstPlace d.fraction 330 160 + 1)

/-- Digits with the last one at a place, without exponent. -/
def positional (digits : Nat) (place : Int) : String :=
  if 0 ≤ place then toString (digits * Nat.pow 10 place.toNat)
  else
    let n := (-place).toNat
    let fraction := (toString (digits % Nat.pow 10 n)).toList
    toString (digits / Nat.pow 10 n) ++ "." ++
      String.ofList (List.replicate (n - fraction.length) '0' ++ fraction)

/-- The text of a value. -/
def text (d : Double) : String :=
  let (a, b) := d.fraction
  let magnitude :=
    if a % b = 0 ∧ a / b < Nat.pow 2 63 then toString (a / b)
    else
      let (digits, place) := d.shortest
      positional digits place
  if d.negative ∧ magnitude ≠ "0" then "-" ++ magnitude else magnitude

end Double

end Repartee
