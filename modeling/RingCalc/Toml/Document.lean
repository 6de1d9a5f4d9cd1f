import RingCalc.Toml.Reader

/-!
# Documents

A document is a sequence of lines: blank ones, comments, headers, and keys with values.  Headers open
a table or add one to an array of tables, and the keys that follow belong to that table.

A document is read statement by statement.  Between statements it is a draft, the path of the header
above, and the number of the section; a section begins at each header.
-/

namespace RingCalc.Toml

structure Document where
  draft : Draft
  header : List String
  part : Nat

namespace Document

def start : Document := ⟨[], [], 0⟩

/-- The document after the header of a table. -/
def openTable (document : Document) (path : List String) : Except ReadError Document := do
  let draft ← document.draft.alongHeader path.dropLast (Draft.openTable (path.getLastD ""))
  return ⟨draft, path, document.part + 1⟩

/-- The document after the header of a further table of an array. -/
def addTable (document : Document) (path : List String) : Except ReadError Document := do
  let draft ← document.draft.alongHeader path.dropLast (Draft.addTable (path.getLastD ""))
  return ⟨draft, path, document.part + 1⟩

/-- The document after a key, relative to the header above, and its value. -/
def put (document : Document) (path : List String) (value : Value) : Except ReadError Document := do
  let insert := Draft.alongDots document.part path.dropLast (Draft.put (path.getLastD "") value)
  let draft ← document.draft.alongHeader document.header insert
  return { document with draft }

/-- Reads a header or a key with its value, or leaves a comment. -/
def statement (document : Document) (room : Nat) (text : List Char) :
    Except ReadError (Document × List Char) := do
  match text with
  | '[' :: '[' :: rest =>
    match ← scanKey (skipBlanks rest) with
    | (path, ']' :: ']' :: rest) => return (← document.addTable path, rest)
    | _ => .error .invalid
  | '[' :: rest =>
    match ← scanKey (skipBlanks rest) with
    | (path, ']' :: rest) => return (← document.openTable path, rest)
    | _ => .error .invalid
  | '#' :: _ => return (document, text)
  | _ =>
    match ← scanKey text with
    | (path, '=' :: rest) =>
      let ⟨value, rest, _taken⟩ ← readValue room (skipBlanks rest)
      return (← document.put path value, rest)
    | _ => .error .invalid

/-- Reads the rest of a line, with its line break. -/
def endLine (text : List Char) : Except ReadError (List Char) := do
  match ← skipComment (skipBlanks text) with
  | [] => return []
  | '\n' :: rest => return rest
  | _ => .error .invalid

/-- Reads a statement, if there is one, and the line it ends on. -/
def line (document : Document) (room : Nat) (text : List Char) :
    Except ReadError (Document × List Char) := do
  match skipBlanks text with
  | [] => return (document, [])
  | '\n' :: rest => return (document, rest)
  | start =>
    let (document, rest) ← document.statement room start
    return (document, ← endLine rest)

def lines (document : Document) (room : Nat) (text : List Char) : Except ReadError Document := do
  if text.isEmpty then return document
  let ⟨document, rest, _taken⟩ ← Scan.reading (document.line room) text
  document.lines room rest
termination_by text.length

end Document

/-- The text with every carriage return that is followed by a line feed dropped. -/
def joinLineEnds : List Char → List Char
  | '\r' :: '\n' :: rest => '\n' :: joinLineEnds rest
  | c :: rest => c :: joinLineEnds rest
  | [] => []

/-- The table that a document stands for, read with some room for calls. -/
def read (room : Nat) (source : String) : Except ReadError Table := do
  let document ← Document.start.lines room (joinLineEnds source.toList)
  return Node.finishAll document.draft

end RingCalc.Toml
