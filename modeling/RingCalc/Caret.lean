/-!
# Caret lines

A report on a fault inside a text shows the text after a message and, on the next line, a caret
below the place of the fault.
-/

namespace RingCalc

/-- A caret at the right end of a line of the given width; it takes one column in any case. -/
def caretLine (width : Nat) : String :=
  String.ofList (List.replicate (width - 1) ' ' ++ ['^'])

/-- The largest width a line may be asked to have, `2 ^ 63 - 1`. -/
def maxLineWidth : Int := 9223372036854775807

/-- Two lines, without a final line break: the message with the text, and a caret below the
character of the text at the place given. -/
def pointAt (message text : String) (pos : Int) : String :=
  message ++ ": " ++ text ++ "\n" ++ caretLine (message.length + pos + 3).toNat

/-- The two lines for any place; places that need a line of negative or of excessive width have
none. -/
def pointAt? (message text : String) (pos : Int) : Option String :=
  let width := message.length + pos + 3
  if 0 ≤ width ∧ width ≤ maxLineWidth then some (pointAt message text pos) else none

end RingCalc
