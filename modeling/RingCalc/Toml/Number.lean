import RingCalc.Toml.Scan

/-!
# Numbers of a document

Integers are decimal, hexadecimal, octal or binary; floating-point numbers are decimal.  A single
underscore may stand between two digits.  A number is taken as long as it goes: what cannot belong to
it is left for the reader to refuse.
-/

namespace RingCalc.Toml

/-- The most digits that a decimal integer may have. -/
def maxIntegerDigits : Nat := 4300

/-- The digits at the front of a text, without the underscores between them. -/
def takeDigits (isDigit : Char → Bool) : List Char → List Char × List Char
  | '_' :: c :: rest =>
    if isDigit c then
      let (digits, after) := takeDigits isDigit rest
      (c :: digits, after)
    else ([], '_' :: c :: rest)
  | c :: rest =>
    if isDigit c then
      let (digits, after) := takeDigits isDigit rest
      (c :: digits, after)
    else ([], c :: rest)
  | [] => ([], [])

/-- The run of digits at the front of a text, which must begin with a digit. -/
def digitRun? (isDigit : Char → Bool) (text : List Char) : Option (List Char × List Char) :=
  match text with
  | c :: _ => if isDigit c then some (takeDigits isDigit text) else none
  | [] => none

/-- An integer after its zero and the letter that names its base. -/
def basedInteger? (text : List Char) : Option (Nat × List Char) :=
  let inBase (base : Nat) (isDigit : Char → Bool) (rest : List Char) : Option (Nat × List Char) :=
    (digitRun? isDigit rest).map fun (digits, after) => (digitsValue base digits, after)
  match text with
  | '0' :: 'x' :: rest => inBase 16 isHexDigit rest
  | '0' :: 'o' :: rest => inBase 8 (fun c => '0' ≤ c && c ≤ '7') rest
  | '0' :: 'b' :: rest => inBase 2 (fun c => c == '0' || c == '1') rest
  | _ => none

/-- A sign at the front of a text: whether it is a minus, and the text after it. -/
def takeSign : List Char → Bool × List Char
  | '-' :: rest => (true, rest)
  | '+' :: rest => (false, rest)
  | text => (false, text)

/-- The digits before the point: a zero alone, or digits that begin with another. -/
def wholeDigits? (text : List Char) : Option (List Char × List Char) :=
  match text with
  | '0' :: rest => some (['0'], rest)
  | _ => digitRun? Char.isDigit text

/-- The digits after the point, if a point and a digit follow. -/
def fractionDigits? (text : List Char) : Option (List Char × List Char) :=
  match text with
  | '.' :: rest => digitRun? Char.isDigit rest
  | _ => none

/-- The exponent, if one follows. -/
def exponent? (text : List Char) : Option (Int × List Char) :=
  match text with
  | c :: rest =>
    if c == 'e' || c == 'E' then
      let (negative, rest) := takeSign rest
      (digitRun? Char.isDigit rest).map fun (digits, after) =>
        let value : Int := digitsValue 10 digits
        (if negative then -value else value, after)
    else none
  | [] => none

/-- A decimal number: an integer, or a floating-point number when it has a fraction or an
exponent. -/
def decimalNumber? (text : List Char) : Option (Except ReadError Value × List Char) := do
  let (negative, rest) := takeSign text
  let (whole, rest) ← wholeDigits? rest
  let fraction := fractionDigits? rest
  let (digits, rest) := fraction.getD ([], rest)
  let exponent := exponent? rest
  let (power, rest) := exponent.getD (0, rest)
  if fraction.isSome || exponent.isSome then
    let coefficient := digitsValue 10 (whole ++ digits)
    some (.ok (.floating (.finite ⟨negative, coefficient, power - digits.length⟩)), rest)
  else if maxIntegerDigits < whole.length then some (.error .integerTooLong, rest)
  else
    let value : Int := digitsValue 10 whole
    some (.ok (.integer (if negative then -value else value)), rest)

/-- A floating-point number that is no decimal fraction. -/
def specialNumber? (text : List Char) : Option (Value × List Char) :=
  let (negative, rest) := takeSign text
  match rest with
  | 'i' :: 'n' :: 'f' :: rest => some (.floating (.infinite negative), rest)
  | 'n' :: 'a' :: 'n' :: rest => some (.floating .notANumber, rest)
  | _ => none

def scanNumber : Scan Value := fun text =>
  match basedInteger? text with
  | some (value, rest) => .ok (.integer value, rest)
  | none =>
    match decimalNumber? text with
    | some (.ok value, rest) => .ok (value, rest)
    | some (.error error, _) => .error error
    | none =>
      match specialNumber? text with
      | some found => .ok found
      | none => .error .invalid

end RingCalc.Toml
