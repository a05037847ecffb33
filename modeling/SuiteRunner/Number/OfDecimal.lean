import SuiteRunner.Number.Shortest

/-!
Reading a decimal number as the nearest floating-point number.
-/

namespace SuiteRunner

/-- Beyond ten to this power, or its inverse, there are no finite floating-point numbers but zero. -/
def decimalRange : Nat := 400

/-- The floating-point number nearest to the decimal. Decimals far out of range are not computed. -/
def Binary64.ofDecimal (negative : Bool) (d : Decimal) : Binary64 :=
  let magnitude : Int := (Nat.toDigits 10 d.digits).length + d.exponent
  if d.digits = 0 ∨ magnitude < -decimalRange then .finite negative 0 0
  else if decimalRange < magnitude then .infinite negative
  else .ofRatio negative (d.digits * Nat.pow 10 d.exponent.toNat) (Nat.pow 10 (-d.exponent).toNat)

end SuiteRunner
