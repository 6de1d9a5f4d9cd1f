import RingCalc.Toml.Draft
import RingCalc.Toml.Moment
import RingCalc.Toml.Number
import RingCalc.Toml.Text

/-!
# Keys and values

Readers for keys and for values of every kind.  Arrays may go over several lines and hold comments;
tables written in place stay on one line.  Each reading leaves a strictly shorter rest, on which the
recursion of arrays and tables ends.

The reader of values calls itself for the values inside of a value, and there is room for a number of
calls only.  The few calls by which a key, a blank or a value without parts is read are not counted:
they take their room from a share that is set aside.
-/

namespace RingCalc.Toml

/-! ## Keys -/

def scanKeyPart : Scan String := fun text =>
  match text with
  | [] => .error .invalid
  | c :: _ =>
    if isBareKeyChar c then
      .ok (String.ofList (text.takeWhile isBareKeyChar), text.dropWhile isBareKeyChar)
    else do
      let (chars, rest) ← scanLineString text
      return (String.ofList chars, rest)

/-- A key, as a list of its parts, and the blanks after it. -/
def scanKey (text : List Char) : Except ReadError (List String × List Char) := do
  let ⟨part, rest, _taken⟩ ← scanKeyPart.reading text
  let ⟨rest, _bound⟩ := afterBlanks rest
  match first? rest with
  | some ⟨'.', rest, _dot⟩ =>
    let ⟨rest, _inner⟩ := afterBlanks rest
    let (parts, rest) ← scanKey rest
    return (part :: parts, rest)
  | _ => return ([part], rest)
termination_by text.length

/-! ## Room -/

/-- The calls from an array to one of its items. -/
def arrayCalls : Nat := 2

/-- The calls from a table written in place to one of its values. -/
def tableCalls : Nat := 3

/-- The room that some calls leave. -/
def roomAfter (calls room : Nat) : Except ReadError Nat :=
  if calls ≤ room then .ok (room - calls) else .error .tooDeep

/-! ## Values -/

/-- A value that holds no other values. -/
def scanScalar : Scan Value := fun text =>
  match text with
  | '"' :: _ | '\'' :: _ => do
    let (chars, rest) ← scanString text
    return (.string (String.ofList chars), rest)
  | 't' :: 'r' :: 'u' :: 'e' :: rest => .ok (.boolean true, rest)
  | 'f' :: 'a' :: 'l' :: 's' :: 'e' :: rest => .ok (.boolean false, rest)
  | _ =>
    match moment? text with
    | some (.ok moment, rest) => .ok (.moment moment, rest)
    | some (.error error, _) => .error error
    | none => scanNumber text

mutual

def readValue (room : Nat) (text : List Char) : Except ReadError (Reading Value text) := do
  match first? text with
  | some ⟨'[', rest, _bracket⟩ =>
    let ⟨items, rest, _taken⟩ ← readItems room rest
    return ⟨.array items, rest, by omega⟩
  | some ⟨'\x7b', rest, _brace⟩ =>
    let ⟨inner, _bound⟩ := afterBlanks rest
    match first? inner with
    | some ⟨'\x7d', rest, _closed⟩ => return ⟨.table [], rest, by omega⟩
    | _ =>
      let ⟨draft, rest, _taken⟩ ← readPairs room rest []
      return ⟨.table (Node.finishAll draft), rest, by omega⟩
  | _ => scanScalar.reading text
termination_by 2 * text.length

/-- The items of an array, after its opening bracket or a comma. -/
def readItems (room : Nat) (text : List Char) : Except ReadError (Reading (List Value) text) := do
  let ⟨start, _filled⟩ ← skipFill text false
  match first? start with
  | some ⟨']', rest, _closed⟩ => return ⟨[], rest, by omega⟩
  | _ =>
    let inner ← roomAfter arrayCalls room
    let ⟨item, rest, _taken⟩ ← readValue inner start
    let ⟨rest, _filled⟩ ← skipFill rest false
    match first? rest with
    | some ⟨']', rest, _closed⟩ => return ⟨[item], rest, by omega⟩
    | some ⟨',', rest, _comma⟩ =>
      let ⟨items, rest, _more⟩ ← readItems room rest
      return ⟨item :: items, rest, by omega⟩
    | _ => .error .invalid
termination_by 2 * text.length + 1

/-- The keys and values of a table written in place, after its opening brace or a comma. -/
def readPairs (room : Nat) (text : List Char) (draft : Draft) :
    Except ReadError (Reading Draft text) := do
  let ⟨start, _bound⟩ := afterBlanks text
  let ⟨key, rest, _key⟩ ← Scan.reading scanKey start
  let some ⟨'=', rest, _equals⟩ := first? rest | .error .invalid
  let ⟨rest, _bound⟩ := afterBlanks rest
  let inner ← roomAfter tableCalls room
  let ⟨value, rest, _taken⟩ ← readValue inner rest
  let draft ← draft.alongDots 0 key.dropLast (Draft.put (key.getLastD "") value)
  let ⟨rest, _bound⟩ := afterBlanks rest
  match first? rest with
  | some ⟨'\x7d', rest, _closed⟩ => return ⟨draft, rest, by omega⟩
  | some ⟨',', rest, _comma⟩ =>
    let ⟨draft, rest, _more⟩ ← readPairs room rest draft
    return ⟨draft, rest, by omega⟩
  | _ => .error .invalid
termination_by 2 * text.length + 1

end

end RingCalc.Toml
