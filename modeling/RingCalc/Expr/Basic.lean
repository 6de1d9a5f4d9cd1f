import RingCalc.Operator
import RingCalc.Ring.Basic

/-!
# Expression trees

An expression over the elements of a ring.  Groups record where parentheses stood; they change
nothing in the value.  `attach` puts an operator to the right of a finished tree: a tree that binds
more loosely takes it into its right edge, so precedence needs at most one rotation per operator.
-/

namespace RingCalc

/-- An expression with literals of type `α`. -/
inductive Expr (α : Type) where
  | leaf (element : α)
  | group (inner : Expr α)
  | negate (operand : Expr α)
  | binary (op : Operator) (left right : Expr α)
  /-- Something else in the place of an expression, known only by the name of its type.  No text is
  read as such a tree. -/
  | foreign (typeName : String)
  deriving DecidableEq, Repr, Inhabited

namespace Expr

variable {α β : Type}

/-- The precedence of trees that never rotate; it is above that of every operator. -/
def atomicPrecedence : Nat := 1000

def isOperator : Expr α → Bool
  | .binary .. => true
  | _ => false

/-- How tightly the root of a tree binds. -/
def precedence : Expr α → Nat
  | .binary op _ _ => op.precedence
  | _ => atomicPrecedence

/-- What the root of a tree is called. -/
def rootName : Expr α → String
  | .leaf _ => "Leaf"
  | .group _ => "Group"
  | .negate _ => "Negate"
  | .binary .. => "BinaryExpr"
  | .foreign typeName => typeName

/-- Puts an operator and its right operand to the right of a finished tree. -/
def attach (op : Operator) (left right : Expr α) : Expr α :=
  match left with
  | .binary looser first second =>
    if looser.precedence < op.precedence then .binary looser first (.binary op second right)
    else .binary op left right
  | _ => .binary op left right

def map (f : α → β) : Expr α → Expr β
  | .leaf element => .leaf (f element)
  | .group inner => .group (inner.map f)
  | .negate operand => .negate (operand.map f)
  | .binary op left right => .binary op (left.map f) (right.map f)
  | .foreign typeName => .foreign typeName

/-- The infix form of a tree: every binary operation stands in parentheses, and so does every
group. -/
def text (display : α → String) : Expr α → String
  | .leaf element => display element
  | .group inner => "(" ++ inner.text display ++ ")"
  | .negate operand => "-" ++ operand.text display
  | .binary op left right =>
    "(" ++ left.text display ++ " " ++ op.sign.toString ++ " " ++ right.text display ++ ")"
  | .foreign typeName => typeName

theorem attach_of_le {op : Operator} {left right : Expr α}
    (tight : op.precedence ≤ left.precedence) : left.attach op right = .binary op left right := by
  cases left with
  | binary looser first second => exact if_neg (Nat.not_lt.mpr tight)
  | _ => rfl

theorem attach_of_lt {op looser : Operator} {first second right : Expr α}
    (loose : looser.precedence < op.precedence) :
    (Expr.binary looser first second).attach op right =
      .binary looser first (.binary op second right) :=
  if_pos loose

end Expr

end RingCalc
