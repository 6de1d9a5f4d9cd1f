/-!
# Binary operators

The four operators of an expression.  Multiplication and division bind tighter than addition and
subtraction; there are two levels of precedence and no others.
-/

namespace RingCalc

inductive Operator where
  | add
  | sub
  | mul
  | div
  deriving DecidableEq, Repr, Inhabited

namespace Operator

def precedence : Operator → Nat
  | .add | .sub => 0
  | .mul | .div => 1

/-- The character that stands for an operator. -/
def sign : Operator → Char
  | .add => '+'
  | .sub => '-'
  | .mul => '*'
  | .div => '/'

theorem precedence_le_one (op : Operator) : op.precedence ≤ 1 := by
  cases op <;> decide

end Operator

end RingCalc
