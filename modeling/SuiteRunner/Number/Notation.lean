import SuiteRunner.Text.Basic
import SuiteRunner.Number.Shortest

/-!
How a floating-point number is written: with its shortest digits, positionally from 0.0001 to below ten to the
sixteenth, else with an exponent of at least two digits.
-/

namespace SuiteRunner

/-- The exponent of scientific notation: a sign and at least two digits. -/
def exponentText (exponent : Int) : Text :=
  (if exponent < 0 then '-' else '+') :: Text.ofNatPadded 2 exponent.natAbs

/-- Digits with a decimal point after so many of them; there may be more places than digits, or fewer than
none. -/
def positional (digits : Text) (point : Int) : Text :=
  if point ≤ 0 then '0' :: '.' :: List.replicate (-point).toNat '0' ++ digits
  else if digits.length ≤ point.toNat then
    digits ++ List.replicate (point.toNat - digits.length) '0' ++ ['.', '0']
  else digits.take point.toNat ++ '.' :: digits.drop point.toNat

/-- One digit before the point, and an exponent. -/
def scientific (digits : Text) (point : Int) : Text :=
  let fraction := if digits.length ≤ 1 then [] else '.' :: digits.drop 1
  digits.take 1 ++ fraction ++ 'e' :: exponentText (point - 1)

/-- The text of a positive decimal. -/
def Decimal.text (d : Decimal) : Text :=
  let digits := Text.ofNat d.digits
  let point : Int := digits.length + d.exponent
  if -4 < point ∧ point ≤ 16 then positional digits point else scientific digits point

/-- The text of a floating-point number. -/
def Binary64.text : Binary64 → Text
  | .finite negative mantissa exponent =>
    let magnitude := if mantissa = 0 then "0.0".toList else (Shortest.decimal mantissa exponent).text
    if negative then '-' :: magnitude else magnitude
  | .infinite negative => if negative then "-inf".toList else "inf".toList
  | .nan => "nan".toList

end SuiteRunner
