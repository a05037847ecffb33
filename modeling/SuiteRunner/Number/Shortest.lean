import SuiteRunner.Number.Binary64

/-!
The fewest decimal digits that read back as a given floating-point number. The search goes from coarse decimal
grids to fine ones and stops at the first that has a point in the interval of numbers that round to the given
one; of two such points the nearer is taken, and of two equally near the even one.
-/

namespace SuiteRunner

/-- A decimal number: `digits` times ten to the power `exponent`. -/
structure Decimal where
  digits : Nat
  exponent : Int
  deriving DecidableEq, Repr

namespace Shortest

/-- The numbers that round to one floating-point number, as multiples of a common unit: the number itself and
the two ends, which belong to the interval if `closed`. -/
structure Interval where
  low : Nat
  value : Nat
  high : Nat
  closed : Bool
  unit : Int

/-- The interval of the positive number with this mantissa and exponent, in quarters of its last place. Below a
power of two the neighbours are twice as dense. -/
def interval (mantissa : Nat) (exponent : Int) : Interval where
  low := 4 * mantissa - (if mantissa = Nat.pow 2 52 ∧ Binary64.minExponent < exponent then 1 else 2)
  value := 4 * mantissa
  high := 4 * mantissa + 2
  closed := mantissa % 2 = 0
  unit := exponent - 2

/-- The point of the grid of this decimal exponent that stands for the number, if one lies in the interval. -/
def hit? (i : Interval) (exponent : Int) : Option Nat :=
  let (up, down) := powerOfTwo i.unit
  let (coarse, fine) := (Nat.pow 10 exponent.toNat, Nat.pow 10 (-exponent).toNat)
  let scale := up * fine
  let step := down * coarse
  let inside := fun (point : Nat) =>
    if i.closed then i.low * scale ≤ point * step && point * step ≤ i.high * scale
    else i.low * scale < point * step && point * step < i.high * scale
  let below := i.value * scale / step
  let toBelow := i.value * scale - below * step
  let toAbove := (below + 1) * step - i.value * scale
  match inside below, inside (below + 1) with
  | false, false => none
  | true, false => some below
  | false, true => some (below + 1)
  | true, true =>
    if toBelow < toAbove then some below
    else if toAbove < toBelow then some (below + 1)
    else some (below + below % 2)

/-- Tries the grids from the given exponent downwards, so many of them. -/
def search (i : Interval) : Nat → Int → Decimal
  | 0, exponent => ⟨i.value, exponent⟩
  | grids + 1, exponent =>
    match hit? i exponent with
    | some digits => ⟨digits, exponent⟩
    | none => search i grids (exponent - 1)

/-- The shortest decimal of the positive number with this mantissa and exponent. The search starts above the
number and ends at the latest where the number itself lies on the grid. -/
def decimal (mantissa : Nat) (exponent : Int) : Decimal :=
  let start : Int := max 0 (((mantissa.log2 : Int) + 1 + exponent) / 3 + 1)
  let last : Int := min 0 (exponent - 2)
  search (interval mantissa exponent) ((start - last).toNat + 1) start

end Shortest

end SuiteRunner
