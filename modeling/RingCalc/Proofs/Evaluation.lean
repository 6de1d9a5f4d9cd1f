import RingCalc.Expr.Canonical
import RingCalc.Expr.Meaning
import RingCalc.Proofs.Ring.Calls

/-!
# The evaluator and its meaning

The machine with two stacks does what recursion on the tree does, in every ring and from every pair
of stacks: it leaves the value of the tree on top of the values that were there, goes on with the
tasks that were there, and stops at the first failure.  It asks the ring for the same operations in
the same order, and it never runs out of values.

The recursion is written down twice.  `Expr.value` gives the outcome and the memory.  `Expr.trace`
gives the calls as well and names each of them; it is what the main statement is about.
-/

namespace RingCalc

variable {σ α : Type}

/-! ## The recursive definition -/

/-- The ring error behind an evaluation error. -/
def EvalError.cause : EvalError → Option RingError
  | .ring error => some error
  | .unknownType _ => none

/-- What an evaluation comes to: its outcome, the calls it made, and the memory it left. -/
structure Trace (σ α : Type) where
  result : Except EvalError α
  calls : List (RingCall α)
  memory : σ

/-- Goes on with the value of a trace; a failure stays what it is. -/
def Trace.andThen : Trace σ α → (α → σ → Trace σ α) → Trace σ α
  | ⟨.error error, calls, memory⟩, _ => ⟨.error error, calls, memory⟩
  | ⟨.ok value, calls, memory⟩, next =>
    let later := next value memory
    ⟨later.result, calls ++ later.calls, later.memory⟩

def Ring.traceCall (ring : Ring σ α) (call : RingCall α) (memory : σ) : Trace σ α :=
  match ring.perform call memory with
  | (.ok value, memory) => ⟨.ok value, [call], memory⟩
  | (.error error, memory) => ⟨.error (.ring error), [call], memory⟩

/-- The evaluation of a tree by recursion, operands first and the left one before the right one. -/
def Expr.trace (ring : Ring σ α) (memory : σ) : Expr α → Trace σ α
  | .leaf element => ⟨.ok element, [], memory⟩
  | .group inner => inner.trace ring memory
  | .negate operand =>
    (operand.trace ring memory).andThen fun value memory =>
      (ring.traceCall .zero memory).andThen fun zero memory =>
        ring.traceCall (.sub zero value) memory
  | .binary op left right =>
    (left.trace ring memory).andThen fun first memory =>
      (right.trace ring memory).andThen fun second memory =>
        ring.traceCall (op.call first second) memory
  | .foreign typeName => ⟨.error (.unknownType typeName), [], memory⟩

/-! ## The two recursions agree -/

theorem value_eq_trace (ring : Ring σ α) (expr : Expr α) (memory : σ) :
    expr.value ring memory =
      ((expr.trace ring memory).result, (expr.trace ring memory).memory) := by
  induction expr generalizing memory with
  | leaf element => rfl
  | group inner inductionHypothesis => exact inductionHypothesis memory
  | negate operand inductionHypothesis =>
    simp only [Expr.value, Expr.trace, inductionHypothesis]
    obtain ⟨error | value, calls, memory⟩ := operand.trace ring memory
    · rfl
    · simp only [Trace.andThen, evalAction, Ring.negate, Ring.traceCall, Ring.perform]
      obtain ⟨error | zero, memory⟩ := ring.zero memory
      · rfl
      · dsimp only [Trace.andThen]
        obtain ⟨error | result, memory⟩ := ring.sub zero value memory <;> rfl
  | binary op left right leftHypothesis rightHypothesis =>
    simp only [Expr.value, Expr.trace, leftHypothesis, rightHypothesis]
    obtain ⟨error | first, calls, memory⟩ := left.trace ring memory
    · rfl
    · dsimp only [Trace.andThen]
      obtain ⟨error | second, laterCalls, memory⟩ := right.trace ring memory
      · rfl
      · simp only [evalAction, Ring.traceCall, Ring.perform_operator]
        obtain ⟨error | result, memory⟩ := ring.apply op first second memory <;> rfl
  | foreign typeName => rfl

/-- In the recorded ring the trace is what is added to the calls made before. -/
theorem value_recorded (ring : Ring σ α) (expr : Expr α) (memory : σ)
    (earlier : List (RingCall α)) :
    expr.value ring.recorded (memory, earlier) =
      ((expr.trace ring memory).result,
        ((expr.trace ring memory).memory, earlier ++ (expr.trace ring memory).calls)) := by
  induction expr generalizing memory earlier with
  | leaf element => simp only [Expr.value, Expr.trace, List.append_nil]
  | group inner inductionHypothesis => exact inductionHypothesis memory earlier
  | negate operand inductionHypothesis =>
    simp only [Expr.value, Expr.trace, inductionHypothesis]
    obtain ⟨error | value, calls, memory⟩ := operand.trace ring memory
    · rfl
    · simp only [Trace.andThen, evalAction, Ring.negate, Ring.recorded, Ring.record,
        Ring.traceCall, Ring.perform]
      obtain ⟨error | zero, memory⟩ := ring.zero memory
      · simp only [List.append_assoc]
      · dsimp only [Trace.andThen]
        obtain ⟨error | result, memory⟩ := ring.sub zero value memory <;>
          simp only [List.append_assoc]
  | binary op left right leftHypothesis rightHypothesis =>
    simp only [Expr.value, Expr.trace, leftHypothesis, rightHypothesis]
    obtain ⟨error | first, calls, memory⟩ := left.trace ring memory
    · rfl
    · dsimp only [Trace.andThen]
      obtain ⟨error | second, laterCalls, memory⟩ := right.trace ring memory
      · simp only [List.append_assoc]
      · simp only [evalAction, Ring.apply_recorded, Ring.record, Ring.traceCall]
        obtain ⟨error | result, memory⟩ := ring.perform (op.call first second) memory <;>
          simp only [List.append_assoc]
  | foreign typeName => simp only [Expr.value, Expr.trace, List.append_nil]

/-! ## Errors come from the ring -/

theorem evalAction_eq_error {action : Action σ α} {memory after : σ} {error : EvalError}
    (failed : evalAction action memory = (.error error, after)) :
    ∃ failure, error = .ring failure ∧ action memory = (.error failure, after) := by
  unfold evalAction at failed
  split at failed
  · cases failed
  · rename_i failure last answer
    cases failed
    exact ⟨failure, rfl, answer⟩

theorem Ring.negate_eq_error {ring : Ring σ α} {element : α} {memory after : σ}
    {error : RingError} (failed : ring.negate element memory = (.error error, after)) :
    ∃ call middle, ring.perform call middle = (.error error, after) := by
  unfold Ring.negate at failed
  split at failed
  · rename_i zero last answer
    exact ⟨.sub zero element, last, failed⟩
  · rename_i failure last answer
    cases failed
    exact ⟨.zero, memory, answer⟩

/-- A canonical tree has no value only where the ring fails to answer a call. -/
theorem Expr.value_eq_error {ring : Ring σ α} {tree : Expr α} {atFront : Bool}
    {memory after : σ} {error : EvalError} (canonical : tree.isCanonical atFront = true)
    (failed : tree.value ring memory = (.error error, after)) :
    ∃ failure call middle, error = .ring failure ∧
      ring.perform call middle = (.error failure, after) := by
  induction tree generalizing atFront memory after with
  | leaf element => cases failed
  | group inner inductionHypothesis => exact inductionHypothesis canonical failed
  | negate operand inductionHypothesis =>
    simp only [isCanonical, Bool.and_eq_true] at canonical
    simp only [value] at failed
    split at failed
    · obtain ⟨failure, rfl, answer⟩ := evalAction_eq_error failed
      obtain ⟨call, middle, performed⟩ := Ring.negate_eq_error answer
      exact ⟨failure, call, middle, rfl, performed⟩
    · rename_i operandFailed
      cases failed
      exact inductionHypothesis canonical.2 operandFailed
  | binary op left right leftHypothesis rightHypothesis =>
    simp only [isCanonical, Bool.and_eq_true] at canonical
    obtain ⟨⟨-, leftCanonical⟩, rightCanonical⟩ := canonical
    simp only [value] at failed
    split at failed
    · split at failed
      · obtain ⟨failure, rfl, answer⟩ := evalAction_eq_error failed
        rw [← Ring.perform_operator] at answer
        exact ⟨failure, _, _, rfl, answer⟩
      · rename_i rightFailed
        cases failed
        exact rightHypothesis rightCanonical rightFailed
    · rename_i leftFailed
      cases failed
      exact leftHypothesis leftCanonical leftFailed
  | foreign typeName => cases canonical

/-! ## The machine follows the recursion -/

/-- What the machine does with the value of a tree, from any tasks and any values. -/
theorem run_visit (ring : Ring σ α) (expr : Expr α) (rest : List (Task α)) (values : List α)
    (memory : σ) :
    Task.run ring (.visit expr :: rest) values memory =
      match expr.value ring memory with
      | (.ok value, memory) => Task.run ring rest (value :: values) memory
      | (.error error, memory) => (.error (.refused error), memory) := by
  -- The context has to vary: an operand is visited with the task of its parent still to come, and
  -- a right operand with the value of the left one on the stack.
  induction expr generalizing rest values memory with
  | leaf element => rw [Task.run, Expr.value]
  | group inner inductionHypothesis => rw [Task.run, Expr.value, inductionHypothesis]
  | negate operand inductionHypothesis =>
    rw [Task.run, Expr.value, inductionHypothesis]
    obtain ⟨error | value, memory⟩ := operand.value ring memory
    · rfl
    · simp only [Task.run, evalAction]
      obtain ⟨error | result, memory⟩ := ring.negate value memory <;> rfl
  | binary op left right leftHypothesis rightHypothesis =>
    rw [Task.run, Expr.value, leftHypothesis]
    obtain ⟨error | first, memory⟩ := left.value ring memory
    · rfl
    · simp only [rightHypothesis]
      obtain ⟨error | second, memory⟩ := right.value ring memory
      · rfl
      · simp only [Task.run, evalAction]
        obtain ⟨error | result, memory⟩ := ring.apply op first second memory <;> rfl
  | foreign typeName => rw [Task.run, Expr.value]

theorem evaluate_eq_value (ring : Ring σ α) (expr : Expr α) (memory : σ) :
    evaluate ring expr memory =
      ((expr.value ring memory).1.mapError .refused, (expr.value ring memory).2) := by
  rw [evaluate, run_visit]
  obtain ⟨error | value, memory⟩ := expr.value ring memory
  · rfl
  · have finished : Task.run ring [] [value] memory = (.ok [value], memory) := by rw [Task.run]
    simp only [finished]
    rfl

/-- A canonical tree has a value, or a call that the ring fails to answer. -/
theorem evaluate_cases {tree : Expr α} (canonical : tree.isCanonical true = true)
    (ring : Ring σ α) (memory : σ) :
    (∃ value after, evaluate ring tree memory = (.ok value, after)) ∨
      ∃ failure after, evaluate ring tree memory = (.error (.refused (.ring failure)), after) ∧
        ∃ call middle, ring.perform call middle = (.error failure, after) := by
  rw [evaluate_eq_value]
  cases outcome : tree.value ring memory with
  | mk result after =>
    cases result with
    | ok value => exact .inl ⟨value, after, rfl⟩
    | error error =>
      obtain ⟨failure, call, middle, rfl, performed⟩ := tree.value_eq_error canonical outcome
      exact .inr ⟨failure, after, rfl, call, middle, performed⟩

/-- Evaluation is the recursive definition, call by call.  The machine stops with a value or with an
error of the tree and never for want of values, whatever tasks and values it starts among. -/
theorem evaluate_eq_trace (ring : Ring σ α) (expr : Expr α) (memory : σ) :
    evaluate ring expr memory =
      ((expr.trace ring memory).result.mapError .refused, (expr.trace ring memory).memory) ∧
    (∀ earlier, evaluate ring.recorded expr (memory, earlier) =
      ((expr.trace ring memory).result.mapError .refused,
        ((expr.trace ring memory).memory, earlier ++ (expr.trace ring memory).calls))) ∧
    (∀ rest values, Task.run ring (.visit expr :: rest) values memory =
      match (expr.trace ring memory).result with
      | .ok value => Task.run ring rest (value :: values) (expr.trace ring memory).memory
      | .error error => (.error (.refused error), (expr.trace ring memory).memory)) ∧
    (∀ reason, (evaluate ring expr memory).1 ≠ .error (.defect reason)) ∧
    (∀ error : RingError, (EvalError.ring error).message = error.message ∧
      (EvalError.ring error).cause = some error) ∧
    ∀ typeName, (EvalError.unknownType typeName).message = "Unknown expression type: " ++ typeName ∧
      (EvalError.unknownType typeName).cause = none := by
  have outcome : evaluate ring expr memory =
      ((expr.trace ring memory).result.mapError .refused, (expr.trace ring memory).memory) := by
    rw [evaluate_eq_value, value_eq_trace]
  refine ⟨outcome, ?_, ?_, ?_, fun error => ⟨rfl, rfl⟩, fun typeName => ⟨rfl, rfl⟩⟩
  · intro earlier
    rw [evaluate_eq_value, value_recorded]
  · intro rest values
    rw [run_visit, value_eq_trace]
    obtain error | value := (expr.trace ring memory).result <;> rfl
  · intro reason
    rw [outcome]
    obtain error | value := (expr.trace ring memory).result
    · exact fun same => by cases same
    · exact fun same => by cases same

end RingCalc
