import RingCalc.Expr.Basic
import RingCalc.Token

/-!
# Canonical trees

A tree is canonical when its shape says no more than the order of its symbols does: precedence and
association decide the rest.  The symbols of a tree are read off from left to right, with parentheses
only where the tree has groups.  Parsing undoes this for canonical trees and yields no others.

The text of a tree has more parentheses than its symbols.  It stands for the tree in which every
binary operation is wrapped into a group.
-/

namespace RingCalc.Expr

variable {α : Type}

/-- The symbols of a tree from left to right, given the number each literal stands for. -/
def symbols (literal : α → Int) : Expr α → List Symbol
  | .leaf element => [.number (some (literal element))]
  | .group inner => .leftParen :: (inner.symbols literal ++ [.rightParen])
  | .negate operand => .operator .sub :: operand.symbols literal
  | .binary op left right => left.symbols literal ++ .operator op :: right.symbols literal
  | .foreign _ => []

/-- Whether a tree is a literal or a group. -/
def isAtom : Expr α → Bool
  | .leaf _ | .group _ => true
  | _ => false

/-- Whether a tree binds at least as tightly as a given precedence. -/
def bindsFrom (least : Nat) (expr : Expr α) : Bool := least ≤ expr.precedence

/-- Whether a tree is canonical.  A negation may only stand where an expression begins: at its very
front, or at the front of a group. -/
def isCanonical (atFront : Bool) : Expr α → Bool
  | .leaf _ => true
  | .group inner => inner.isCanonical true
  | .negate operand => atFront && operand.isAtom && operand.isCanonical false
  | .binary op left right =>
    left.bindsFrom op.precedence && right.bindsFrom (op.precedence + 1) &&
      left.isCanonical atFront && right.isCanonical false
  | .foreign _ => false

/-- The tree with every binary operation in a group. -/
def wrap : Expr α → Expr α
  | .leaf element => .leaf element
  | .group inner => .group inner.wrap
  | .negate operand => .negate operand.wrap
  | .binary op left right => .group (.binary op left.wrap right.wrap)
  | .foreign typeName => .foreign typeName

end RingCalc.Expr
