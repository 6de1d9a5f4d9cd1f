import Mathlib.Algebra.Order.Ring.Int
import RingCalc.Proofs.Ring.CheckedInt

/-!
# Exact operations on checked integers

Sums, differences and products are exact where they fit and overflow where they do not.  A division
has four cases, of which each pair of operands meets one: there is an exact quotient, the divisor is
zero, the divisor does not divide, or the smallest integer is divided by `-1`.  So multiplication
and division undo each other wherever the first of the two succeeds.

Two guards stand before an element: the check of the operation, and the bounds of the type.  The
second never has anything to refuse.  For division that includes the way by magnitudes, where the
quotient of the absolute values gets its sign afterwards.
-/

namespace RingCalc.CheckedInt

variable {left right : CheckedInt}

/-! ## Sums, differences and products -/

/-- The outcome of an operation whose exact result is an integer: this integer where it fits, a
plain overflow where it does not. -/
structure Checks (outcome : Except RingError CheckedInt) (exact : Int) : Prop where
  succeeds_iff : (∃ element, outcome = .ok element) ↔ minVal ≤ exact ∧ exact ≤ maxVal
  val_eq : ∀ element, outcome = .ok element → element.val = exact
  fails_iff : ∀ error,
    outcome = .error error ↔ error = .overflow ∧ ¬ (minVal ≤ exact ∧ exact ≤ maxVal)

theorem not_fits_iff {value : Int} :
    ¬ (minVal ≤ value ∧ value ≤ maxVal) ↔ value < minVal ∨ maxVal < value := by
  omega

theorem checks_ofInt (value : Int) : Checks (ofInt value) value where
  succeeds_iff := by
    constructor
    · rintro ⟨element, found⟩
      rw [← ofInt_eq_ok_iff.mp found]
      exact ⟨element.min_le, element.le_max⟩
    · rintro ⟨least, most⟩
      exact ⟨⟨value, least, most⟩, ofInt_eq_ok_iff.mpr rfl⟩
  val_eq element found := ofInt_eq_ok_iff.mp found
  fails_iff error := by rw [ofInt_eq_error_iff, not_fits_iff]

/-! ## Division -/

/-- The cases of a division. -/
inductive Division (left right : CheckedInt) : Except RingError CheckedInt → Prop where
  | exact {quotient : CheckedInt} (nonzero : right.val ≠ 0)
      (product : quotient.val * right.val = left.val) : Division left right (.ok quotient)
  | byZero (zero : right.val = 0) : Division left right (.error .divisionByZero)
  | remainder (nonzero : right.val ≠ 0) (remains : ¬ right.val ∣ left.val) :
      Division left right (.error .notInRing)
  | overflow (least : left.val = minVal) (minusOne : right.val = -1) :
      Division left right (.error .overflow)

/-- A quotient is no larger than its dividend, so there is one way for it to leave the range. -/
theorem eq_minVal_of_quotient {quotient : Int} (product : quotient * right.val = left.val)
    (nonzero : right.val ≠ 0) (outside : quotient < minVal ∨ maxVal < quotient) :
    left.val = minVal ∧ right.val = -1 := by
  have size : quotient.natAbs ≤ left.val.natAbs := by
    rw [← product, Int.natAbs_mul]
    exact Nat.le_mul_of_pos_right _ (Int.natAbs_pos.mpr nonzero)
  have least := left.min_le
  have most := left.le_max
  simp only [minVal, maxVal] at least most outside ⊢
  -- The one integer outside the range whose magnitude a dividend can have.
  have quotientEq : quotient = 9223372036854775808 := by omega
  subst quotientEq
  omega

theorem division_div (left right : CheckedInt) : Division left right (left.div right) := by
  by_cases zero : right.val = 0
  · rw [div_of_zero left zero]
    exact .byZero zero
  · by_cases divides : right.val ∣ left.val
    · obtain ⟨quotient, split⟩ := divides
      have product : quotient * right.val = left.val := by rw [split, Int.mul_comm]
      rw [div_of_mul_eq zero product]
      cases checked : ofInt quotient with
      | ok element =>
        have same := ofInt_eq_ok_iff.mp checked
        exact .exact zero (same.symm ▸ product)
      | error error =>
        obtain ⟨rfl, outside⟩ := ofInt_eq_error_iff.mp checked
        obtain ⟨least, minusOne⟩ := eq_minVal_of_quotient product zero outside
        exact .overflow least minusOne
    · rw [div_of_not_dvd zero divides]
      exact .remainder zero divides

theorem Division.div_eq {outcome : Except RingError CheckedInt}
    (division : Division left right outcome) : left.div right = outcome := by
  cases division with
  | exact nonzero product =>
    rw [div_of_mul_eq nonzero product]
    exact ofInt_eq_ok_iff.mpr rfl
  | byZero zero => exact div_of_zero left zero
  | remainder nonzero remains => exact div_of_not_dvd nonzero remains
  | overflow least minusOne =>
    have nonzero : right.val ≠ 0 := by omega
    have product : -minVal * right.val = left.val := by rw [least, minusOne]; rfl
    rw [div_of_mul_eq nonzero product]
    exact ofInt_eq_error_iff.mpr ⟨rfl, .inr (by decide)⟩

theorem div_eq_iff {outcome : Except RingError CheckedInt} :
    left.div right = outcome ↔ Division left right outcome := by
  constructor
  · rintro rfl
    exact division_div left right
  · exact Division.div_eq

/-- Every pair of operands meets one case of a division, and only one. -/
theorem existsUnique_division (left right : CheckedInt) : ∃! outcome, Division left right outcome :=
  ⟨left.div right, division_div left right, fun _ division => division.div_eq.symm⟩

theorem div_of_mul {product : CheckedInt} (multiplied : left.mul right = .ok product)
    (nonzero : right.val ≠ 0) : product.div right = .ok left :=
  Division.div_eq (.exact nonzero (ofInt_eq_ok_iff.mp multiplied).symm)

theorem mul_of_div {quotient : CheckedInt} (divided : left.div right = .ok quotient) :
    quotient.mul right = .ok left := by
  cases div_eq_iff.mp divided with
  | exact nonzero product => exact ofInt_eq_ok_iff.mpr product.symm

/-! ## Two guards -/

/-- The check of an integer in two steps: the guard of an operation, then the bounds of the type. -/
def guarded (value : Int) : Except (RingError ⊕ RangeFault) CheckedInt :=
  if value < minVal ∨ maxVal < value then .error (.inl .overflow)
  else (ofInt? value).mapError .inr

/-- The quotient of the absolute values, with its sign put back. -/
def signedQuotient (left right : Int) : Int :=
  if left < 0 ↔ right < 0 then (left.natAbs / right.natAbs : Nat)
  else -(left.natAbs / right.natAbs : Nat)

def guardedDiv (left right : CheckedInt) : Except (RingError ⊕ RangeFault) CheckedInt :=
  if right.val = 0 then .error (.inl .divisionByZero)
  else if left.val.natAbs / right.val.natAbs * right.val.natAbs ≠ left.val.natAbs then
    .error (.inl .notInRing)
  else guarded (signedQuotient left.val right.val)

/-- An operation as a computation on integers, with both guards behind it. -/
def guardedApply : Operator → CheckedInt → CheckedInt → Except (RingError ⊕ RangeFault) CheckedInt
  | .add, left, right => guarded (left.val + right.val)
  | .sub, left, right => guarded (left.val - right.val)
  | .mul, left, right => guarded (left.val * right.val)
  | .div, left, right => guardedDiv left right

/-- What passes the guard of an operation lies within the bounds of the type. -/
theorem guarded_eq (value : Int) : guarded value = (ofInt value).mapError .inl := by
  rw [guarded]
  split
  next outside => rw [ofInt_eq_error_iff.mpr ⟨rfl, outside⟩]; rfl
  next inside =>
    rw [← not_fits_iff, not_not] at inside
    have found := ofInt?_val ⟨value, inside.1, inside.2⟩
    simp only [ofInt, found]
    rfl

theorem signedQuotient_of_mul {quotient right : Int} (nonzero : right ≠ 0) :
    signedQuotient (quotient * right) right = quotient := by
  have magnitude : (quotient * right).natAbs / right.natAbs = quotient.natAbs := by
    rw [Int.natAbs_mul, Nat.mul_div_cancel _ (Int.natAbs_pos.mpr nonzero)]
  rw [signedQuotient, magnitude]
  obtain negative | rfl | positive := Int.lt_trichotomy quotient 0
  · -- A negative quotient: the signs of dividend and divisor differ.
    have signs : ¬ (quotient * right < 0 ↔ right < 0) := by
      rw [mul_neg_iff]
      omega
    rw [if_neg signs]
    omega
  · simp
  · have signs : quotient * right < 0 ↔ right < 0 := by
      rw [mul_neg_iff]
      omega
    rw [if_pos signs]
    omega

theorem guardedDiv_eq (left right : CheckedInt) :
    guardedDiv left right = (left.div right).mapError .inl := by
  rw [guardedDiv]
  by_cases zero : right.val = 0
  · rw [if_pos zero, div_of_zero left zero]
    rfl
  · rw [if_neg zero]
    by_cases divides : right.val ∣ left.val
    · have whole := Nat.div_mul_cancel (Int.natAbs_dvd_natAbs.mpr divides)
      obtain ⟨quotient, split⟩ := divides
      have product : quotient * right.val = left.val := by rw [split, Int.mul_comm]
      have signed : signedQuotient left.val right.val = quotient := by
        rw [← product, signedQuotient_of_mul zero]
      rw [if_neg (not_not_intro whole), signed, guarded_eq, div_of_mul_eq zero product]
    · have remains : left.val.natAbs / right.val.natAbs * right.val.natAbs ≠ left.val.natAbs := by
        intro whole
        exact divides (Int.natAbs_dvd_natAbs.mp (Dvd.intro_left _ whole))
      rw [if_pos remains, div_of_not_dvd zero divides]
      rfl

theorem guardedApply_eq {σ : Type} (op : Operator) (left right : CheckedInt) (memory : σ) :
    guardedApply op left right = ((ring σ).apply op left right memory).1.mapError .inl := by
  cases op with
  | div => exact guardedDiv_eq left right
  | _ => exact guarded_eq _

theorem mapError_inl_ne_inr {ε ε' β : Type} (outcome : Except ε β) (fault : ε') :
    outcome.mapError .inl ≠ .error (.inr fault : ε ⊕ ε') := by
  cases outcome <;> simp [Except.mapError]

/-! ## All operations -/

/-- Operations are exact.  Division has four cases that exclude each other, and it undoes a
multiplication as a multiplication undoes it.  The bounds of the type never refuse a result. -/
theorem operations_exact (left right : CheckedInt) :
    Checks (left.add right) (left.val + right.val) ∧
    Checks (left.sub right) (left.val - right.val) ∧
    Checks (left.mul right) (left.val * right.val) ∧
    (∀ outcome, left.div right = outcome ↔ Division left right outcome) ∧
    (∃! outcome, Division left right outcome) ∧
    (∀ product, left.mul right = .ok product → right.val ≠ 0 → product.div right = .ok left) ∧
    (∀ quotient, left.div right = .ok quotient → quotient.mul right = .ok left) ∧
    ∀ {σ : Type} (memory : σ),
      (∀ op, guardedApply op left right = ((ring σ).apply op left right memory).1.mapError .inl) ∧
      (∀ value, guarded value = ((ring σ).ofInt value memory).1.mapError .inl) ∧
      (∀ op fault, guardedApply op left right ≠ .error (.inr fault)) ∧
      ∀ value fault, guarded value ≠ .error (.inr fault) := by
  refine ⟨checks_ofInt _, checks_ofInt _, checks_ofInt _, fun _ => div_eq_iff,
    existsUnique_division left right, fun _ => div_of_mul, fun _ => mul_of_div, ?_⟩
  intro σ memory
  refine ⟨fun op => guardedApply_eq op left right memory, guarded_eq, ?_, ?_⟩
  · intro op fault
    rw [guardedApply_eq op left right memory]
    exact mapError_inl_ne_inr _ fault
  · intro value fault
    rw [guarded_eq]
    exact mapError_inl_ne_inr _ fault

/-- The smallest integer is `-2 ^ 62` doubled, and dividing it by two gives that back; `-2 ^ 62` can
be halved, too, and its half doubled. -/
theorem operations_exact_smallest :
    (⟨-4611686018427387904, by decide, by decide⟩ : CheckedInt).mul ⟨2, by decide, by decide⟩ =
        .ok ⟨-9223372036854775808, by decide, by decide⟩ ∧
      (⟨-9223372036854775808, by decide, by decide⟩ : CheckedInt).div ⟨2, by decide, by decide⟩ =
        .ok ⟨-4611686018427387904, by decide, by decide⟩ ∧
      (⟨-2305843009213693952, by decide, by decide⟩ : CheckedInt).mul ⟨2, by decide, by decide⟩ =
        .ok ⟨-4611686018427387904, by decide, by decide⟩ := by
  obtain ⟨-, -, -, -, -, divides, multiplies, -⟩ := operations_exact
    ⟨-4611686018427387904, by decide, by decide⟩ ⟨2, by decide, by decide⟩
  have doubled : (⟨-4611686018427387904, by decide, by decide⟩ : CheckedInt).mul
      ⟨2, by decide, by decide⟩ = .ok ⟨-9223372036854775808, by decide, by decide⟩ := rfl
  have halved : (⟨-4611686018427387904, by decide, by decide⟩ : CheckedInt).div
      ⟨2, by decide, by decide⟩ = .ok ⟨-2305843009213693952, by decide, by decide⟩ := by decide
  exact ⟨doubled, divides _ doubled (by decide), multiplies _ halved⟩

end RingCalc.CheckedInt
