import RingCalc.Toml.Value

/-!
# Tables under construction

While a document is read its tables grow at several places: under their headers, through dotted keys,
and as parts of tables below them.  A draft remembers how each table came about, which decides where
it may still grow.

* A header opens each table once.  It may give a header to a table that so far was only passed on the
  way to another, and to no table made by dotted keys.
* Dotted keys may add to a table that they made themselves within the same section, or that was only
  passed on the way.
* Values, with the arrays and tables written in place, never grow.
-/

namespace RingCalc.Toml

/-- How a table came about. -/
inductive Origin where
  /-- It was passed on the way to a table below it. -/
  | implied
  | header
  /-- It was made by dotted keys in a section; sections are the parts between headers. -/
  | dotted (part : Nat)
  deriving DecidableEq, Repr

/-- What a key stands for in a draft. -/
inductive Node where
  | value (finished : Value)
  /-- A table that may grow. -/
  | table (origin : Origin) (entries : List (String × Node))
  /-- An array of tables; only the latest may grow. -/
  | tables (earlier : List Value) (latest : List (String × Node))

abbrev Draft := List (String × Node)

mutual

def Node.finish : Node → Value
  | .value finished => finished
  | .table _ entries => .table (Node.finishAll entries)
  | .tables earlier latest => .array (earlier ++ [.table (Node.finishAll latest)])

/-- The entries of a draft with their values. -/
def Node.finishAll : List (String × Node) → Table
  | [] => []
  | (key, node) :: rest => (key, node.finish) :: Node.finishAll rest

end

namespace Draft

/-- Changes what a key stands for.  New keys come last. -/
def update (key : String) (change : Option Node → Except ReadError Node) :
    Draft → Except ReadError Draft
  | [] => do return [(key, ← change none)]
  | (other, node) :: rest =>
    if other = key then do return (key, ← change (some node)) :: rest
    else do return (other, node) :: (← update key change rest)

/-- Changes the table at the end of a path, as a header finds it: through any table and through the
latest table of an array. -/
def alongHeader (path : List String) (change : Draft → Except ReadError Draft) (draft : Draft) :
    Except ReadError Draft :=
  match path with
  | [] => change draft
  | key :: path => draft.update key fun
    | none => .table .implied <$> alongHeader path change []
    | some (.table origin entries) => .table origin <$> alongHeader path change entries
    | some (.tables earlier latest) => .tables earlier <$> alongHeader path change latest
    | some (.value _) => .error .invalid

/-- Changes the table at the end of a path, as dotted keys of a section find it. -/
def alongDots (part : Nat) (path : List String) (change : Draft → Except ReadError Draft)
    (draft : Draft) : Except ReadError Draft :=
  match path with
  | [] => change draft
  | key :: path => draft.update key fun
    | none => .table (.dotted part) <$> alongDots part path change []
    -- A table that was only passed so far belongs to the dotted keys from now on.
    | some (.table .implied entries) => .table (.dotted part) <$> alongDots part path change entries
    | some (.table (.dotted earlier) entries) =>
      if earlier = part then .table (.dotted part) <$> alongDots part path change entries
      else .error .invalid
    | some _ => .error .invalid

/-- Gives a value to a key that has none. -/
def put (key : String) (value : Value) (draft : Draft) : Except ReadError Draft :=
  draft.update key fun
    | none => .ok (.value value)
    | some _ => .error .invalid

/-- Gives a table its header. -/
def openTable (key : String) (draft : Draft) : Except ReadError Draft :=
  draft.update key fun
    | none => .ok (.table .header [])
    | some (.table .implied entries) => .ok (.table .header entries)
    | some _ => .error .invalid

/-- Adds a table to an array of tables. -/
def addTable (key : String) (draft : Draft) : Except ReadError Draft :=
  draft.update key fun
    | none => .ok (.tables [] [])
    | some (.tables earlier latest) => .ok (.tables (earlier ++ [.table (Node.finishAll latest)]) [])
    | some _ => .error .invalid

end Draft

end RingCalc.Toml
