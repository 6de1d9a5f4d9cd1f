import RingCalc.Text.Printable

/-!
# Quoted texts

A quoted text shows any text on one line of printable characters.  It stands between single quotes,
or between double quotes when the text has single quotes and no double ones.  The backslash and the
quote in use are written after a backslash, and characters that cannot be shown are written by their
code points, in the shortest of three forms.
-/

namespace RingCalc.Text

/-- The lower-case hexadecimal digits of a number, with zeros in front up to a given width. -/
def hexDigits (width number : Nat) : List Char :=
  let digits := Nat.toDigits 16 number
  List.replicate (width - digits.length) '0' ++ digits

/-- The code point of a character in the shortest escaped form. -/
def escapedPoint (c : Char) : List Char :=
  let point := c.toNat
  if point ≤ 0xff then ['\\', 'x'] ++ hexDigits 2 point
  else if point ≤ 0xffff then ['\\', 'u'] ++ hexDigits 4 point
  else ['\\', 'U'] ++ hexDigits 8 point

/-- A character as it stands inside a quoted text. -/
def quotedChar (quote c : Char) : List Char :=
  if c = quote ∨ c = '\\' then ['\\', c]
  else if c = '\n' then ['\\', 'n']
  else if c = '\r' then ['\\', 'r']
  else if c = '\t' then ['\\', 't']
  else if isPrintable c then [c]
  else escapedPoint c

/-- The quote that a text is written with. -/
def quoteFor (text : List Char) : Char :=
  if text.contains '\'' && !text.contains '"' then '"' else '\''

def quoted (text : String) : String :=
  let quote := quoteFor text.toList
  String.ofList (quote :: text.toList.flatMap (quotedChar quote) ++ [quote])

end RingCalc.Text
