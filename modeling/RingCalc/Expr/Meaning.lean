import RingCalc.Expr.Evaluator

/-!
# The meaning of a tree

The value of a tree by recursion on the tree: operands come before their operation, the left one
first, and the first failure is the failure of the tree.  This says what the machine of the evaluator
is for; it needs no stacks, and recursion as deep as the tree.
-/

namespace RingCalc

variable {σ α : Type}

/-- An action of a ring as a step of an evaluation. -/
def evalAction (action : Action σ α) (memory : σ) : Except EvalError α × σ :=
  match action memory with
  | (.ok value, memory) => (.ok value, memory)
  | (.error error, memory) => (.error (.ring error), memory)

/-- The value of a tree, or why it has none, and the memory of the ring afterwards. -/
def Expr.value (ring : Ring σ α) (expr : Expr α) (memory : σ) : Except EvalError α × σ :=
  match expr with
  | .leaf element => (.ok element, memory)
  | .group inner => inner.value ring memory
  | .negate operand =>
    match operand.value ring memory with
    | (.ok value, memory) => evalAction (ring.negate value) memory
    | (.error error, memory) => (.error error, memory)
  | .binary op left right =>
    match left.value ring memory with
    | (.ok first, memory) =>
      match right.value ring memory with
      | (.ok second, memory) => evalAction (ring.apply op first second) memory
      | (.error error, memory) => (.error error, memory)
    | (.error error, memory) => (.error error, memory)
  | .foreign typeName => (.error (.unknownType typeName), memory)

end RingCalc
