/-!
# Shortest decimal digits

Among the decimal numbers that lie nearer to a binary number than to its neighbours, the one on the
coarsest grid of powers of ten has the fewest digits. On each grid only the two points next to the
number can be the ones looked for.
-/

namespace Transclude.Decimal

/-- How two equally near grid points are told apart. -/
inductive Tie where
  | up
  | even
  deriving DecidableEq, Repr

/-- A positive number with the interval of numbers that read back as it, in a common unit
`2 ^ unit`; the ends belong to the interval when `closed` holds. -/
structure Interval where
  low : Nat
  value : Nat
  high : Nat
  unit : Int
  closed : Bool
  deriving DecidableEq, Repr

/-- The numbers that read back as `significand · 2 ^ exponent`. The neighbour below a power of two is
only half as far away as the one above. -/
def Interval.around (significand : Nat) (exponent : Int) : Interval where
  low := 4 * significand - if significand = Nat.pow 2 52 ∧ -1074 < exponent then 1 else 2
  value := 4 * significand
  high := 4 * significand + 2
  unit := exponent - 2
  closed := significand % 2 = 0

/-- The quotient of a number in the interval's unit and a power of ten, as numerator and
denominator. -/
def Interval.scale (i : Interval) (n : Nat) (power : Int) : Nat × Nat :=
  let num := if 0 ≤ i.unit then n * Nat.pow 2 i.unit.toNat else n
  let den := if 0 ≤ i.unit then 1 else Nat.pow 2 (-i.unit).toNat
  if 0 ≤ power then (num, den * Nat.pow 10 power.toNat) else (num * Nat.pow 10 (-power).toNat, den)

/-- Whether the point `point · 10 ^ power` reads back as the number. -/
def Interval.holds (i : Interval) (point : Nat) (power : Int) : Bool :=
  let (low, den) := i.scale i.low power
  let (high, _) := i.scale i.high power
  if i.closed then low ≤ point * den && point * den ≤ high
  else low < point * den && point * den < high

/-- The point of a grid that reads back as the number, if there is one; of two the nearer, and of
two equally near ones the one that the tie rule names. -/
def Interval.pick? (i : Interval) (tie : Tie) (power : Int) : Option Nat :=
  let (num, den) := i.scale i.value power
  let below := num / den
  match i.holds below power, i.holds (below + 1) power with
  | false, false => none
  | true, false => some below
  | false, true => some (below + 1)
  | true, true =>
    let rest := num % den
    if 2 * rest < den then some below
    else if den < 2 * rest then some (below + 1)
    else match tie with
      | .up => some (below + 1)
      | .even => some (below + below % 2)

/-- Tries the grids from `10 ^ power` downwards, each ten times as fine as the one before. -/
def Interval.search (i : Interval) (tie : Tie) : Nat → Int → Nat × Int
  | 0, power => (0, power)
  | tries + 1, power =>
    match i.pick? tie power with
    | some point => (point, power)
    | none => i.search tie tries (power - 1)

/-- A power of ten above every number of the interval. -/
def Interval.topPower (i : Interval) : Int :=
  ((i.high.log2 : Int) + 1 + i.unit) * 30103 / 100000 + 1

/-- The shortest decimal `point · 10 ^ power` that reads back as `significand · 2 ^ exponent`.
Seventeen digits are always enough, and the first grid tried is at most three powers of ten above the
one of the first digit. -/
def shortest (tie : Tie) (significand : Nat) (exponent : Int) : Nat × Int :=
  let i := Interval.around significand exponent
  i.search tie 21 i.topPower

end Transclude.Decimal
