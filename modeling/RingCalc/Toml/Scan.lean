import RingCalc.Toml.Value

/-!
# Scanning

The small parts that all readers of a document share: what a reading is, and the classes of
characters.  A reading of a text is a value together with a strictly shorter rest, so whatever goes
on from the rest comes to an end.
-/

namespace RingCalc.Toml

/-- A value read from the front of a text, and the rest of the text. -/
structure Reading (α : Type) (text : List Char) where
  value : α
  rest : List Char
  shorter : rest.length < text.length

/-- A value read from the front of a text, if there is one. -/
abbrev Scan (α : Type) : Type := List Char → Except ReadError (α × List Char)

/-- The reading that a scan gives, which must take at least one character. -/
def Scan.reading {α : Type} (scan : Scan α) (text : List Char) :
    Except ReadError (Reading α text) := do
  let (value, rest) ← scan text
  if shorter : rest.length < text.length then return ⟨value, rest, shorter⟩ else .error .invalid

/-- The first character of a text, if it has one. -/
def first? (text : List Char) : Option (Reading Char text) :=
  match text with
  | [] => none
  | c :: rest => some ⟨c, rest, Nat.lt_succ_self _⟩

/-! ## Characters -/

/-- The blanks inside of a line. -/
def isInlineBlank (c : Char) : Bool := c == ' ' || c == '\t'

/-- The control characters of ASCII, the tabulator apart. -/
def isControl (c : Char) : Bool := (c.toNat < 0x20 && c != '\t') || c.toNat == 0x7f

/-- The control characters that may not stand in a text of several lines. -/
def isMultilineControl (c : Char) : Bool := isControl c && c != '\n'

/-- The characters of keys that need no quotes. -/
def isBareKeyChar (c : Char) : Bool := c.isAlphanum || c == '_' || c == '-'

def isHexDigit (c : Char) : Bool :=
  c.isDigit || ('a' ≤ c && c ≤ 'f') || ('A' ≤ c && c ≤ 'F')

/-- The value of a digit in any base up to sixteen. -/
def digitValue (c : Char) : Nat :=
  if c.isDigit then c.toNat - '0'.toNat
  else if 'a' ≤ c then c.toNat - 'a'.toNat + 10
  else c.toNat - 'A'.toNat + 10

/-- The number that some digits stand for in a base. -/
def digitsValue (base : Nat) (digits : List Char) : Nat :=
  digits.foldl (fun value digit => value * base + digitValue digit) 0

/-! ## Blanks and comments -/

/-- The text without the blanks at its front that do not end its line. -/
def skipBlanks (text : List Char) : List Char := text.dropWhile isInlineBlank

/-- The text without a comment at its front.  The end of the line is left. -/
def skipComment (text : List Char) : Except ReadError (List Char) :=
  match text with
  | '#' :: rest =>
    if (rest.takeWhile (· != '\n')).any isControl then .error .invalid
    else .ok (rest.dropWhile (· != '\n'))
  | _ => .ok text

/-- The text without the blanks, line breaks and comments at its front. -/
def skipFill (text : List Char) (inComment : Bool) :
    Except ReadError { rest : List Char // rest.length ≤ text.length } :=
  match text with
  | [] => .ok ⟨[], Nat.le_refl _⟩
  | c :: rest => do
    if inComment then
      if c != '\n' && isControl c then .error .invalid
      else
        let ⟨filled, bound⟩ ← skipFill rest (c != '\n')
        return ⟨filled, Nat.le_succ_of_le bound⟩
    else if isInlineBlank c || c == '\n' || c == '#' then
      let ⟨filled, bound⟩ ← skipFill rest (c == '#')
      return ⟨filled, Nat.le_succ_of_le bound⟩
    else return ⟨c :: rest, Nat.le_refl _⟩

/-- The text without the blanks at its front, known to be no longer. -/
def afterBlanks (text : List Char) : { rest : List Char // rest.length ≤ text.length } :=
  ⟨skipBlanks text, (List.dropWhile_sublist isInlineBlank).length_le⟩

end RingCalc.Toml
