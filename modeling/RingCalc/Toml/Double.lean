import RingCalc.Toml.Decimal

/-!
# Doubles

A floating-point number of double precision is a significand of at most 53 binary digits times a
power of two whose exponent is at least -1074, and it is less than `2 ^ 1024`.  A decimal fraction is
read as the nearest one, and a tie goes to the even significand.  The rounding is exact for fractions
of any size: it is done on natural numbers, and fractions that are far off are told by their number
of digits alone.
-/

namespace RingCalc.Toml

/-! ## Quotients -/

/-- The natural number nearest to a quotient; of two that are equally near, the even one. -/
def roundedQuotient (numerator denominator : Nat) : Nat :=
  let quotient := numerator / denominator
  let twice := 2 * (numerator % denominator)
  if denominator < twice || (denominator == twice && quotient % 2 == 1) then quotient + 1
  else quotient

/-- The exponent of the greatest power of two that is not above a quotient of positive numbers. -/
def binaryExponent (numerator denominator : Nat) : Int :=
  let guess := (numerator.log2 : Int) - denominator.log2
  if numerator * Nat.pow 2 (-guess).toNat < denominator * Nat.pow 2 guess.toNat then guess - 1
  else guess

/-! ## Doubles -/

/-- The number `significand * 2 ^ exponent`, or its negative. -/
structure Double where
  negative : Bool
  significand : Nat
  exponent : Int
  deriving DecidableEq, Repr

namespace Double

/-- The least exponent of a double. -/
def minExponent : Int := -1074

/-- The bound that all doubles are below. -/
def bound : Nat := Nat.pow 2 1024

/-- The integer that a double is equal to, if there is one. -/
def integer? (double : Double) : Option Int :=
  let numerator := double.significand * Nat.pow 2 double.exponent.toNat
  let denominator := Nat.pow 2 (-double.exponent).toNat
  if numerator % denominator = 0 then
    let size : Int := numerator / denominator
    some (if double.negative then -size else size)
  else none

end Double

/-- The nearest double, or nothing if the fraction is too large for one. -/
def Decimal.nearest? (fraction : Decimal) : Option Double :=
  -- The bounds on the magnitude keep the powers below as small as the coefficient is long.
  if fraction.coefficient = 0 || fraction.magnitude < -400 then
    some ⟨fraction.negative, 0, Double.minExponent⟩
  else if 400 < fraction.magnitude then none
  else
    let exponent :=
      max (binaryExponent fraction.numerator fraction.denominator - 52) Double.minExponent
    let significand :=
      roundedQuotient (fraction.numerator * Nat.pow 2 (-exponent).toNat)
        (fraction.denominator * Nat.pow 2 exponent.toNat)
    if significand * Nat.pow 2 exponent.toNat < Double.bound then
      some ⟨fraction.negative, significand, exponent⟩
    else none

end RingCalc.Toml
