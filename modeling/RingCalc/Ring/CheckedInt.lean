import RingCalc.Ring.Basic

/-!
# Checked 64-bit integers

The integers from `-2^63` to `2^63 - 1`, with operations that give the exact result or fail.  Sums,
differences and products fail when they leave the range.  A quotient must be exact: a zero divisor,
then a remainder, then a quotient outside the range make a division fail.
-/

namespace RingCalc

/-- The smallest checked integer, `-2 ^ 63`. -/
def CheckedInt.minVal : Int := -9223372036854775808

/-- The largest checked integer, `2 ^ 63 - 1`. -/
def CheckedInt.maxVal : Int := 9223372036854775807

/-- An integer that fits into 64 bits with a sign. -/
structure CheckedInt where
  val : Int
  min_le : CheckedInt.minVal ≤ val
  le_max : val ≤ CheckedInt.maxVal
  deriving DecidableEq, Repr

namespace CheckedInt

theorem ext {first second : CheckedInt} (same : first.val = second.val) : first = second := by
  cases first; cases second; cases same; rfl

/-! ## From integers -/

/-- On which side an integer misses the range. -/
inductive RangeFault where
  | aboveMax
  | belowMin
  deriving DecidableEq, Repr

/-- The checked integer of a given value, or the side on which the value misses the range. -/
def ofInt? (value : Int) : Except RangeFault CheckedInt :=
  if above : maxVal < value then .error .aboveMax
  else if below : value < minVal then .error .belowMin
  else .ok ⟨value, Int.not_lt.mp below, Int.not_lt.mp above⟩

/-- The checked integer of a given value; outside the range it is an overflow. -/
def ofInt (value : Int) : Except RingError CheckedInt :=
  match ofInt? value with
  | .ok element => .ok element
  | .error _ => .error .overflow

instance : OfNat CheckedInt 0 := ⟨0, by decide, by decide⟩

instance : Inhabited CheckedInt := ⟨0⟩

instance : ToString CheckedInt := ⟨fun element => toString element.val⟩

theorem ofInt?_val (element : CheckedInt) : ofInt? element.val = .ok element := by
  rw [ofInt?, dif_neg (Int.not_lt.mpr element.le_max), dif_neg (Int.not_lt.mpr element.min_le)]

theorem val_of_ofInt? {value : Int} {element : CheckedInt} (found : ofInt? value = .ok element) :
    element.val = value := by
  unfold ofInt? at found
  split at found
  · cases found
  · split at found <;> cases found
    rfl

theorem ofInt_eq_ok_iff {value : Int} {element : CheckedInt} :
    ofInt value = .ok element ↔ element.val = value := by
  constructor
  · intro found
    unfold ofInt at found
    split at found <;> cases found
    exact val_of_ofInt? ‹_›
  · rintro rfl
    rw [ofInt, ofInt?_val]

theorem ofInt_eq_error_iff {value : Int} {error : RingError} :
    ofInt value = .error error ↔ error = .overflow ∧ (value < minVal ∨ maxVal < value) := by
  simp only [ofInt, ofInt?]
  by_cases above : maxVal < value
  · simp [above, eq_comm]
  · by_cases below : value < minVal
    · simp [above, below, eq_comm]
    · simp [above, below]

/-! ## Operations -/

def add (left right : CheckedInt) : Except RingError CheckedInt := ofInt (left.val + right.val)

def sub (left right : CheckedInt) : Except RingError CheckedInt := ofInt (left.val - right.val)

def mul (left right : CheckedInt) : Except RingError CheckedInt := ofInt (left.val * right.val)

def div (left right : CheckedInt) : Except RingError CheckedInt :=
  if right.val = 0 then .error .divisionByZero
  else if left.val.tmod right.val ≠ 0 then .error .notInRing
  else ofInt (left.val.tdiv right.val)

/-- The ring of checked integers; it works over any memory and leaves it alone. -/
def ring (σ : Type) : Ring σ CheckedInt where
  zero := Action.steady (.ok 0)
  ofInt value := Action.steady (ofInt value)
  add left right := Action.steady (left.add right)
  sub left right := Action.steady (left.sub right)
  mul left right := Action.steady (left.mul right)
  div left right := Action.steady (left.div right)

theorem ring_stateless (σ : Type) : (ring σ).Stateless where
  zero := ⟨_, rfl⟩
  ofInt _ := ⟨_, rfl⟩
  add _ _ := ⟨_, rfl⟩
  sub _ _ := ⟨_, rfl⟩
  mul _ _ := ⟨_, rfl⟩
  div _ _ := ⟨_, rfl⟩

end CheckedInt

end RingCalc
