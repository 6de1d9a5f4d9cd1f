/-!
# Halts

Parsing and evaluation are machines with explicit stacks.  A machine that stops without a result
either refuses its input, with an error that belongs to the input, or has met a defect: a promise of
its caller, or one of its own, does not hold.
-/

namespace RingCalc

/-- A broken promise. -/
inductive Defect where
  /-- A number token without a value stands where a literal may stand. -/
  | valuelessNumber
  /-- Parsing ended before all tokens were read. -/
  | tokensLeft (count : Nat)
  /-- An operation found too few values, or evaluation ended with other than one value. -/
  | valueStack (count : Nat)
  deriving DecidableEq, Repr

/-- Why a machine stops without a result. -/
inductive Halt (ε : Type) where
  | refused (error : ε)
  | defect (reason : Defect)
  deriving DecidableEq, Repr

end RingCalc
