/-!
# Rings with partial operations

A ring supplies the arithmetic of an expression.  Each of its operations yields an element or fails,
and it may keep a memory that its operations read and change; what an operation did to the memory
stays done when the operation fails.  A ring whose operations leave the memory alone is stateless.
-/

namespace RingCalc

/-! ## Failures -/

/-- The family a ring error belongs to. -/
inductive RingErrorKind where
  /-- A failure without a family of its own. -/
  | general
  /-- The result is outside the representable range. -/
  | overflow
  | divisionByZero
  /-- The result exists, but not in this ring. -/
  | notInRing
  deriving DecidableEq, Repr, Inhabited

/-- Why an operation has no result. -/
structure RingError where
  kind : RingErrorKind
  message : String
  deriving DecidableEq, Repr, Inhabited

/-- Whether the family counts as overflow; division by zero does. -/
def RingErrorKind.isOverflow : RingErrorKind → Bool
  | .overflow | .divisionByZero => true
  | .general | .notInRing => false

namespace RingError

def overflow : RingError := ⟨.overflow, "Overflow"⟩

def divisionByZero : RingError := ⟨.divisionByZero, "Division by zero"⟩

def notInRing : RingError := ⟨.notInRing, "Result not in ring"⟩

end RingError

/-! ## Actions and rings -/

/-- An action over a memory: a result or an error, and the memory afterwards in either case. -/
abbrev Action (σ α : Type) : Type := σ → Except RingError α × σ

/-- The action that gives a fixed result and leaves the memory alone. -/
def Action.steady {σ α : Type} (result : Except RingError α) : Action σ α :=
  fun memory => (result, memory)

/-- The operations of a ring with memory `σ` and elements `α`. -/
structure Ring (σ α : Type) where
  zero : Action σ α
  /-- The element that stands for an integer literal. -/
  ofInt : Int → Action σ α
  add : α → α → Action σ α
  sub : α → α → Action σ α
  mul : α → α → Action σ α
  div : α → α → Action σ α

/-- A ring whose operations leave the memory alone. -/
structure Ring.Stateless {σ α : Type} (ring : Ring σ α) : Prop where
  zero : ∃ result, ring.zero = Action.steady result
  ofInt : ∀ value, ∃ result, ring.ofInt value = Action.steady result
  add : ∀ left right, ∃ result, ring.add left right = Action.steady result
  sub : ∀ left right, ∃ result, ring.sub left right = Action.steady result
  mul : ∀ left right, ∃ result, ring.mul left right = Action.steady result
  div : ∀ left right, ∃ result, ring.div left right = Action.steady result

end RingCalc
