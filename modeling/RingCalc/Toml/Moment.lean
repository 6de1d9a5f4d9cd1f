import RingCalc.Toml.Scan

/-!
# Dates and times of a document

A date, a time of day, or both.  Text that has the shape of a date must name a day of the calendar;
text that has no such shape is left to other readers.
-/

namespace RingCalc.Toml

/-- A number written by exactly the given count of digits. -/
def fixedNumber? (count : Nat) (text : List Char) : Option (Nat × List Char) :=
  let digits := text.take count
  if digits.length = count ∧ digits.all Char.isDigit then
    some (digitsValue 10 digits, text.drop count)
  else none

/-- A number of two digits between two bounds. -/
def boundedPair? (least most : Nat) (text : List Char) : Option (Nat × List Char) := do
  let (number, rest) ← fixedNumber? 2 text
  if least ≤ number ∧ number ≤ most then some (number, rest) else none

/-- The text after a given character. -/
def after? (c : Char) : List Char → Option (List Char)
  | first :: rest => if first = c then some rest else none
  | [] => none

def date? (text : List Char) : Option (Date × List Char) := do
  let (year, rest) ← fixedNumber? 4 text
  let (month, rest) ← boundedPair? 1 12 (← after? '-' rest)
  let (day, rest) ← boundedPair? 1 31 (← after? '-' rest)
  return (⟨year, month, day⟩, rest)

/-- The part of a second after its point, in microseconds; further digits are dropped. -/
def microseconds (text : List Char) : Nat × List Char :=
  match text with
  | '.' :: rest =>
    let digits := rest.takeWhile Char.isDigit
    if digits.isEmpty then (0, text)
    else
      let kept := digits.take 6
      (digitsValue 10 kept * Nat.pow 10 (6 - kept.length), rest.dropWhile Char.isDigit)
  | _ => (0, text)

/-- Text with the shape of a time of day. -/
def time? (text : List Char) : Option (Time × List Char) := do
  let (hour, rest) ← boundedPair? 0 23 text
  let (minute, rest) ← boundedPair? 0 59 (← after? ':' rest)
  let (second, rest) ← boundedPair? 0 59 (← after? ':' rest)
  let (micro, rest) := microseconds rest
  return (⟨hour, minute, second, micro⟩, rest)

/-- The offset of a time from universal time, in minutes, if one follows. -/
def offset? (text : List Char) : Option (Int × List Char) :=
  match text with
  | 'Z' :: rest | 'z' :: rest => some (0, rest)
  | sign :: rest => do
    if sign ≠ '+' ∧ sign ≠ '-' then none
    let (hours, rest) ← boundedPair? 0 23 rest
    let (minutes, rest) ← boundedPair? 0 59 (← after? ':' rest)
    let offset : Int := hours * 60 + minutes
    return (if sign = '-' then -offset else offset, rest)
  | [] => none

def daysInMonth (year month : Nat) : Nat :=
  if month = 2 then
    if year % 4 = 0 ∧ (year % 100 ≠ 0 ∨ year % 400 = 0) then 29 else 28
  else if month = 4 ∨ month = 6 ∨ month = 9 ∨ month = 11 then 30
  else 31

/-- Whether a date is a day of the calendar, which begins with the year one. -/
def Date.isValid (date : Date) : Bool :=
  1 ≤ date.year && 1 ≤ date.day && date.day ≤ daysInMonth date.year date.month

/-- The time of day after a date, if one follows, with its offset. -/
def timeAfterDate? (text : List Char) : Option (Time × Option Int × List Char) := do
  let separator :: rest := text | none
  if separator ≠ 'T' ∧ separator ≠ 't' ∧ separator ≠ ' ' then none
  let (time, rest) ← time? rest
  match offset? rest with
  | some (offset, rest) => return (time, some offset, rest)
  | none => return (time, none, rest)

/-- A date, a time, or both, if the text has such a shape. -/
def moment? (text : List Char) : Option (Except ReadError Moment × List Char) :=
  match date? text with
  | some (date, rest) =>
    let (moment, rest) := match timeAfterDate? rest with
      | some (time, offset, rest) => (Moment.dateTime date time offset, rest)
      | none => (Moment.date date, rest)
    some (if date.isValid then .ok moment else .error .invalid, rest)
  | none => (time? text).map fun (time, rest) => (.ok (.time time), rest)

end RingCalc.Toml
