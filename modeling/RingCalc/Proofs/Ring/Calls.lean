import RingCalc.Expr.Evaluator

/-!
# Calls of a ring

What a ring is asked for, as data.  A recorded ring does what the ring does and keeps, beside the
memory of the ring, the list of calls made so far, failed ones included.  A computation over an
arbitrary ring is a computation over its recorded ring, so a statement about all rings speaks about
the calls too.
-/

namespace RingCalc

/-- A call of an operation of a ring, with its arguments. -/
inductive RingCall (α : Type) where
  | zero
  | ofInt (value : Int)
  | add (left right : α)
  | sub (left right : α)
  | mul (left right : α)
  | div (left right : α)
  deriving DecidableEq, Repr

/-- The call that an operator stands for. -/
def Operator.call {α : Type} : Operator → α → α → RingCall α
  | .add => .add
  | .sub => .sub
  | .mul => .mul
  | .div => .div

namespace Ring

variable {σ α : Type}

def perform (ring : Ring σ α) : RingCall α → Action σ α
  | .zero => ring.zero
  | .ofInt value => ring.ofInt value
  | .add left right => ring.add left right
  | .sub left right => ring.sub left right
  | .mul left right => ring.mul left right
  | .div left right => ring.div left right

/-- Answers a call and notes it down. -/
def record (ring : Ring σ α) (call : RingCall α) : Action (σ × List (RingCall α)) α :=
  fun (memory, calls) =>
    let (result, memory) := ring.perform call memory
    (result, (memory, calls ++ [call]))

/-- The ring that notes down its calls. -/
def recorded (ring : Ring σ α) : Ring (σ × List (RingCall α)) α where
  zero := ring.record .zero
  ofInt value := ring.record (.ofInt value)
  add left right := ring.record (.add left right)
  sub left right := ring.record (.sub left right)
  mul left right := ring.record (.mul left right)
  div left right := ring.record (.div left right)

theorem perform_operator (ring : Ring σ α) (op : Operator) (left right : α) :
    ring.perform (op.call left right) = ring.apply op left right := by
  cases op <;> rfl

theorem apply_recorded (ring : Ring σ α) (op : Operator) (left right : α) :
    ring.recorded.apply op left right = ring.record (op.call left right) := by
  cases op <;> rfl

end Ring

end RingCalc
