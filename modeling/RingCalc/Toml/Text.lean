import RingCalc.Toml.Scan

/-!
# Strings of a document

Strings stand in single or double quotes, one or three.  Between double quotes the backslash begins
an escape; between single quotes every character stands for itself.  Three quotes enclose text of
several lines, which may end with up to two quotes of its own.
-/

namespace RingCalc.Toml

/-- The characters that a backslash and a letter stand for. -/
def simpleEscape? : Char → Option Char
  | 'b' => some '\x08'
  | 't' => some '\t'
  | 'n' => some '\n'
  | 'f' => some '\x0c'
  | 'r' => some '\r'
  | '"' => some '"'
  | '\\' => some '\\'
  | _ => none

/-- The character of a given code point, unless the code point is a surrogate or too large. -/
def charOfPoint? (point : Nat) : Option Char :=
  if valid : point.isValidChar then some (Char.ofNatAux point valid) else none

/-- A character written by a fixed number of hexadecimal digits. -/
def scanPoint (count : Nat) : Scan (List Char) := fun text =>
  let digits := text.take count
  if digits.length = count ∧ digits.all isHexDigit then
    match charOfPoint? (digitsValue 16 digits) with
    | some c => .ok ([c], text.drop count)
    | none => .error .invalid
  else .error .invalid

/-- What follows a backslash.  In text of several lines a backslash at the end of a line takes all
blanks and line breaks after it. -/
def scanEscape (multiline : Bool) : Scan (List Char) := fun text =>
  match text with
  | [] => .error .invalid
  | c :: rest =>
    if multiline && (isInlineBlank c || c == '\n') then
      match skipBlanks text with
      | [] => .ok ([], [])
      | '\n' :: rest => .ok ([], rest.dropWhile fun c => isInlineBlank c || c == '\n')
      | _ => .error .invalid
    else if c == 'u' then scanPoint 4 rest
    else if c == 'U' then scanPoint 8 rest
    else
      match simpleEscape? c with
      | some escaped => .ok ([escaped], rest)
      | none => .error .invalid

/-- The rest of a string between double quotes, after the opening quotes. -/
def scanBasic (multiline : Bool) (text : List Char) : Except ReadError (List Char × List Char) :=
  match text with
  | [] => .error .invalid
  | '"' :: rest =>
    if !multiline then .ok ([], rest)
    else if rest.take 2 = ['"', '"'] then .ok ([], rest.drop 2)
    else do
      let (chars, after) ← scanBasic multiline rest
      return ('"' :: chars, after)
  | '\\' :: rest => do
    let ⟨escaped, after, _shorter⟩ ← (scanEscape multiline).reading rest
    let (chars, after) ← scanBasic multiline after
    return (escaped ++ chars, after)
  | c :: rest =>
    if isControl c && !(multiline && c == '\n') then .error .invalid
    else do
      let (chars, after) ← scanBasic multiline rest
      return (c :: chars, after)
termination_by text.length
decreasing_by
  all_goals simp_wf
  all_goals omega

/-- The rest of a string of one line between single quotes. -/
def scanLiteral : Scan (List Char) := fun text =>
  let body := text.takeWhile (· != '\'')
  match text.dropWhile (· != '\'') with
  | [] => .error .invalid
  | _ :: rest => if body.any isControl then .error .invalid else .ok (body, rest)

/-- The rest of a string of several lines between single quotes. -/
def scanMultilineLiteral : Scan (List Char)
  | [] => .error .invalid
  | '\'' :: '\'' :: '\'' :: rest => .ok ([], rest)
  | c :: rest =>
    if isMultilineControl c then .error .invalid
    else do
      let (chars, after) ← scanMultilineLiteral rest
      return (c :: chars, after)

/-- Up to two quotes that follow three closing ones and belong to the text. -/
def scanExtraQuotes (quote : Char) : List Char → List Char × List Char
  | first :: second :: rest =>
    if first = quote then
      if second = quote then ([quote, quote], rest) else ([quote], second :: rest)
    else ([], first :: second :: rest)
  | [single] => if single = quote then ([quote], []) else ([], [single])
  | [] => ([], [])

/-- A string of several lines, after its three opening quotes; a line break right after them is no
part of it. -/
def scanMultiline (quote : Char) (scanBody : Scan (List Char)) : Scan (List Char) := fun text => do
  let start := match text with
    | '\n' :: rest => rest
    | _ => text
  let (chars, after) ← scanBody start
  let (extra, after) := scanExtraQuotes quote after
  return (chars ++ extra, after)

def scanLineString : Scan (List Char)
  | '"' :: rest => scanBasic false rest
  | '\'' :: rest => scanLiteral rest
  | _ => .error .invalid

def scanString : Scan (List Char)
  | '"' :: '"' :: '"' :: rest => scanMultiline '"' (scanBasic true) rest
  | '\'' :: '\'' :: '\'' :: rest => scanMultiline '\'' scanMultilineLiteral rest
  | text => scanLineString text

end RingCalc.Toml
