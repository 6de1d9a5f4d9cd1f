import RingCalc.Expr.Basic
import RingCalc.Halt

/-!
# Evaluation

A tree is evaluated by a machine with two stacks: the tasks still to do, the next one first, and the
values found so far, the latest first.  Left operands come before right operands and operands before
their operation; the first failure ends the run.  The depth of the tree costs stack, not recursion.
-/

namespace RingCalc

/-! ## Errors -/

inductive EvalError where
  | ring (error : RingError)
  /-- Something stands in the tree that is no expression. -/
  | unknownType (typeName : String)
  deriving DecidableEq, Repr

def EvalError.message : EvalError → String
  | .ring error => error.message
  | .unknownType typeName => "Unknown expression type: " ++ typeName

def EvalError.describe (error : EvalError) : String :=
  "Error evaluating expression: " ++ error.message

/-! ## Operations -/

variable {σ α : Type}

def Ring.apply (ring : Ring σ α) : Operator → α → α → Action σ α
  | .add => ring.add
  | .sub => ring.sub
  | .mul => ring.mul
  | .div => ring.div

/-- The additive inverse of an element: zero less the element. -/
def Ring.negate (ring : Ring σ α) (element : α) : Action σ α := fun memory =>
  match ring.zero memory with
  | (.ok zero, memory) => ring.sub zero element memory
  | (.error error, memory) => (.error error, memory)

/-! ## The machine -/

inductive Task (α : Type) where
  | visit (expr : Expr α)
  /-- Negate the latest value. -/
  | negate
  /-- Apply an operator to the two latest values. -/
  | apply (op : Operator)
  deriving DecidableEq, Repr

/-- The number of tasks that the evaluation of a tree goes through. -/
def Expr.workload : Expr α → Nat
  | .leaf _ | .foreign _ => 1
  | .group inner => inner.workload + 1
  | .negate operand => operand.workload + 2
  | .binary _ left right => left.workload + right.workload + 2

/-- The number of tasks that a task goes through. -/
def Task.workload : Task α → Nat
  | .visit expr => expr.workload
  | .negate | .apply _ => 1

/-- The number of tasks that a stack of tasks goes through. -/
def Task.totalWorkload : List (Task α) → Nat
  | [] => 0
  | task :: rest => task.workload + Task.totalWorkload rest

def Task.run (ring : Ring σ α) (tasks : List (Task α)) (values : List α) (memory : σ) :
    Except (Halt EvalError) (List α) × σ :=
  match tasks, values with
  | [], values => (.ok values, memory)
  | .visit (.leaf element) :: rest, values => Task.run ring rest (element :: values) memory
  | .visit (.group inner) :: rest, values => Task.run ring (.visit inner :: rest) values memory
  | .visit (.negate operand) :: rest, values =>
    Task.run ring (.visit operand :: .negate :: rest) values memory
  -- The left operand comes first, so its value lies below that of the right one.
  | .visit (.binary op left right) :: rest, values =>
    Task.run ring (.visit left :: .visit right :: .apply op :: rest) values memory
  | .visit (.foreign typeName) :: _, _ => (.error (.refused (.unknownType typeName)), memory)
  | .negate :: rest, value :: values =>
    match ring.negate value memory with
    | (.ok result, memory) => Task.run ring rest (result :: values) memory
    | (.error error, memory) => (.error (.refused (.ring error)), memory)
  | .apply op :: rest, right :: left :: values =>
    match ring.apply op left right memory with
    | (.ok result, memory) => Task.run ring rest (result :: values) memory
    | (.error error, memory) => (.error (.refused (.ring error)), memory)
  | .negate :: _, [] => (.error (.defect (.valueStack 0)), memory)
  | .apply _ :: _, values => (.error (.defect (.valueStack values.length)), memory)
termination_by Task.totalWorkload tasks
decreasing_by
  all_goals simp [Task.totalWorkload, Task.workload, Expr.workload]
  all_goals omega

def evaluate (ring : Ring σ α) (expr : Expr α) (memory : σ) :
    Except (Halt EvalError) α × σ :=
  match Task.run ring [.visit expr] [] memory with
  | (.ok [value], memory) => (.ok value, memory)
  | (.ok values, memory) => (.error (.defect (.valueStack values.length)), memory)
  | (.error halt, memory) => (.error halt, memory)

end RingCalc
