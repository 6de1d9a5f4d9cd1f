/-!
# Decimal fractions

A decimal fraction is a coefficient times a power of ten, and so a quotient of two natural numbers.
-/

namespace RingCalc.Toml

/-- The fraction `coefficient * 10 ^ exponent`, or its negative. -/
structure Decimal where
  negative : Bool
  coefficient : Nat
  exponent : Int
  deriving DecidableEq, Repr

namespace Decimal

def digitCount (fraction : Decimal) : Nat := (Nat.toDigits 10 fraction.coefficient).length

/-- The exponent of the least power of ten that is above the fraction. -/
def magnitude (fraction : Decimal) : Int := fraction.digitCount + fraction.exponent

/-- The numerator of the fraction as a quotient, without its sign. -/
def numerator (fraction : Decimal) : Nat :=
  fraction.coefficient * Nat.pow 10 fraction.exponent.toNat

/-- The denominator of the fraction as a quotient. -/
def denominator (fraction : Decimal) : Nat := Nat.pow 10 (-fraction.exponent).toNat

end Decimal

end RingCalc.Toml
