/-!
Binary floating-point numbers of 64 bits as exact values, and the one nearest to a quotient of two integers.
-/

namespace SuiteRunner

/-- A finite number is its mantissa times the power of two of its exponent. -/
inductive Binary64 where
  | finite (negative : Bool) (mantissa : Nat) (exponent : Int)
  | infinite (negative : Bool)
  | nan
  deriving DecidableEq, Repr

/-- The quotient rounded to the nearest integer, and to the even one from halfway. -/
def roundHalfEven (num den : Nat) : Nat :=
  let quotient := num / den
  let twice := 2 * (num % den)
  if twice < den then quotient
  else if den < twice then quotient + 1
  else quotient + quotient % 2

/-- Two to an integer power, as numerator and denominator. -/
def powerOfTwo (exponent : Int) : Nat × Nat :=
  (Nat.pow 2 exponent.toNat, Nat.pow 2 (-exponent).toNat)

namespace Binary64

/-- The least exponent of a finite number. -/
def minExponent : Int := -1074

/-- The greatest exponent of a finite number with a full mantissa. -/
def maxExponent : Int := 971

/-- The exponent for which the quotient has a mantissa of 53 bits, or the least exponent if that is greater. -/
def exponentOf (num den : Nat) : Int :=
  let guess : Int := (num.log2 : Int) - (den.log2 : Int) - 52
  let (up, down) := powerOfTwo (guess + 52)
  max minExponent (if num * down < den * up then guess - 1 else guess)

/-- The number nearest to the quotient, halves going to the even mantissa; infinite from halfway between the
greatest finite number and the power of two above it. -/
def ofRatio (negative : Bool) (num den : Nat) : Binary64 :=
  if num = 0 then .finite negative 0 0
  else
    let exponent := exponentOf num den
    let (up, down) := powerOfTwo exponent
    let mantissa := roundHalfEven (num * down) (den * up)
    if mantissa < Nat.pow 2 53 then
      if maxExponent < exponent then .infinite negative else .finite negative mantissa exponent
    else if maxExponent ≤ exponent then .infinite negative
    else .finite negative (Nat.pow 2 52) (exponent + 1)

/-- A finite number as so many times the least positive number. -/
def multiple (negative : Bool) (mantissa : Nat) (exponent : Int) : Int :=
  let magnitude : Int := (mantissa * Nat.pow 2 (exponent - minExponent).toNat : Nat)
  if negative then -magnitude else magnitude

/-- The number with the opposite sign. -/
def neg : Binary64 → Binary64
  | finite negative mantissa exponent => finite (! negative) mantissa exponent
  | infinite negative => infinite (! negative)
  | nan => nan

/-- The number nearest to the sum. A sum of zero is negative only if both numbers are. -/
def add : Binary64 → Binary64 → Binary64
  | finite n m e, finite n' m' e' =>
    let sum := multiple n m e + multiple n' m' e'
    let negative := if sum = 0 then n && n' else decide (sum < 0)
    ofRatio negative sum.natAbs (Nat.pow 2 (-minExponent).toNat)
  | nan, _ => nan
  | _, nan => nan
  | infinite n, infinite n' => if n = n' then infinite n else nan
  | infinite n, _ => infinite n
  | _, infinite n => infinite n

/-- The number nearest to the product. -/
def mul : Binary64 → Binary64 → Binary64
  | finite n m e, finite n' m' e' =>
    let product := (multiple n m e * multiple n' m' e').natAbs
    ofRatio (n != n') product (Nat.pow 2 (2 * (-minExponent).toNat))
  | nan, _ => nan
  | _, nan => nan
  | infinite n, infinite n' => infinite (n != n')
  | infinite n, finite n' m _ => if m = 0 then nan else infinite (n != n')
  | finite n m _, infinite n' => if m = 0 then nan else infinite (n != n')

/-- The integer that the number is, if it is one. -/
def toInt? : Binary64 → Option Int
  | .finite negative mantissa exponent =>
    let (up, down) := powerOfTwo exponent
    if mantissa * up % down = 0 then
      let magnitude : Int := (mantissa * up / down : Nat)
      some (if negative then -magnitude else magnitude)
    else none
  | _ => none

end Binary64

end SuiteRunner
