import RingCalc.Ring.Basic

/-!
# Packed rings

A packed ring carries everything that is needed to compute in it, so that rings over different
elements can stand in one table.  Taking it from the table is a fresh start: its memory is the
initial one.
-/

namespace RingCalc

/-- A ring with its types, its initial memory, and the text of its elements. -/
structure PackedRing where
  Memory : Type
  Elem : Type
  ring : Ring Memory Elem
  memory : Memory
  display : Elem → String

end RingCalc
