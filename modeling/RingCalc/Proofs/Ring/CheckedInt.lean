import Mathlib.Algebra.Order.Field.Rat
import Mathlib.Data.Int.CharZero
import Mathlib.Tactic.FieldSimp
import RingCalc.Expr.Evaluator
import RingCalc.Ring.CheckedInt

/-!
# Checked integers and exact arithmetic

Where the exact result of an operation on checked integers is an integer, the operation is the check
of that integer.  Only division has other results: none by zero, and a fraction where the divisor
does not divide.
-/

namespace RingCalc

namespace CheckedInt

/-! ## Division -/

theorem div_of_zero (left : CheckedInt) {right : CheckedInt} (zero : right.val = 0) :
    left.div right = .error .divisionByZero :=
  if_pos zero

theorem div_of_mul_eq {left right : CheckedInt} {quotient : Int} (nonzero : right.val ≠ 0)
    (product : quotient * right.val = left.val) : left.div right = ofInt quotient := by
  have divides : left.val.tmod right.val = 0 := by rw [← product, Int.mul_tmod_left]
  have cancels : left.val.tdiv right.val = quotient := by
    rw [← product, Int.mul_tdiv_cancel _ nonzero]
  rw [div, if_neg nonzero, if_neg (not_not_intro divides), cancels]

theorem div_of_not_dvd {left right : CheckedInt} (nonzero : right.val ≠ 0)
    (remains : ¬ right.val ∣ left.val) : left.div right = .error .notInRing := by
  have remainder : left.val.tmod right.val ≠ 0 := fun divided =>
    remains (Int.dvd_of_tmod_eq_zero divided)
  rw [div, if_neg nonzero, if_pos remainder]

end CheckedInt

/-! ## Rational results -/

/-- The exact result of an operator on rational numbers; there is no quotient by zero. -/
def Operator.rational? : Operator → ℚ → ℚ → Option ℚ
  | .add, left, right => some (left + right)
  | .sub, left, right => some (left - right)
  | .mul, left, right => some (left * right)
  | .div, left, right => if right = 0 then none else some (left / right)

namespace CheckedInt

variable {σ : Type} {op : Operator} {left right : CheckedInt}

theorem rational?_div_of_ne_zero (left : CheckedInt) {right : CheckedInt}
    (nonzero : right.val ≠ 0) :
    Operator.div.rational? left.val right.val = some ((left.val : ℚ) / right.val) :=
  if_neg (Int.cast_ne_zero.mpr nonzero)

theorem rational?_div_of_zero (left : CheckedInt) {right : CheckedInt} (zero : right.val = 0) :
    Operator.div.rational? left.val right.val = none :=
  if_pos (Int.cast_eq_zero.mpr zero)

/-- An operation with an integer for its exact result is the check of that integer. -/
theorem apply_of_rational? {result : Int}
    (exact : op.rational? left.val right.val = some (result : ℚ)) :
    (ring σ).apply op left right = Action.steady (ofInt result) := by
  cases op with
  | add =>
    have sum : left.val + right.val = result := by
      exact_mod_cast Option.some.inj exact
    rw [← sum]
    rfl
  | sub =>
    have difference : left.val - right.val = result := by
      exact_mod_cast Option.some.inj exact
    rw [← difference]
    rfl
  | mul =>
    have product : left.val * right.val = result := by
      exact_mod_cast Option.some.inj exact
    rw [← product]
    rfl
  | div =>
    by_cases zero : right.val = 0
    · rw [rational?_div_of_zero left zero] at exact
      cases exact
    · rw [rational?_div_of_ne_zero left zero] at exact
      have nonzero : (right.val : ℚ) ≠ 0 := Int.cast_ne_zero.mpr zero
      have quotient := Option.some.inj exact
      rw [div_eq_iff nonzero] at quotient
      have product : result * right.val = left.val := by exact_mod_cast quotient.symm
      rw [← div_of_mul_eq zero product]
      rfl

/-- An operation without an integer for its exact result is a division, by zero or with a
remainder. -/
theorem apply_of_not_integer
    (inexact : ∀ result : Int, op.rational? left.val right.val ≠ some (result : ℚ)) :
    op = .div ∧
      (right.val = 0 ∧ (ring σ).apply op left right = Action.steady (.error .divisionByZero) ∨
        right.val ≠ 0 ∧ (ring σ).apply op left right = Action.steady (.error .notInRing)) := by
  cases op with
  | add => exact absurd (congrArg some (Int.cast_add left.val right.val).symm) (inexact _)
  | sub => exact absurd (congrArg some (Int.cast_sub left.val right.val).symm) (inexact _)
  | mul => exact absurd (congrArg some (Int.cast_mul left.val right.val).symm) (inexact _)
  | div =>
    refine ⟨rfl, ?_⟩
    by_cases zero : right.val = 0
    · refine .inl ⟨zero, ?_⟩
      rw [← div_of_zero left zero]
      rfl
    · have remains : ¬ right.val ∣ left.val := by
        rintro ⟨quotient, product⟩
        apply inexact quotient
        have nonzero : (right.val : ℚ) ≠ 0 := Int.cast_ne_zero.mpr zero
        rw [rational?_div_of_ne_zero left zero, product]
        push_cast
        field_simp
      refine .inr ⟨zero, ?_⟩
      rw [← div_of_not_dvd zero remains]
      rfl

end CheckedInt

end RingCalc
