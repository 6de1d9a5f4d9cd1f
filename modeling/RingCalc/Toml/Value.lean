import RingCalc.Toml.Decimal

/-!
# TOML values

The values of a TOML document.  Tables keep their entries in the order in which their keys first
appear.
-/

namespace RingCalc.Toml

/-- Why a document cannot be read. -/
inductive ReadError where
  | invalid
  /-- It has an integer with more digits than are ever read. -/
  | integerTooLong
  /-- Its values are nested more deeply than there is room for. -/
  | tooDeep
  deriving DecidableEq, Repr

structure Date where
  year : Nat
  month : Nat
  day : Nat
  deriving DecidableEq, Repr

structure Time where
  hour : Nat
  minute : Nat
  second : Nat
  microsecond : Nat
  deriving DecidableEq, Repr

/-- A point in time, with as much of it as is known; offsets are in minutes east. -/
inductive Moment where
  | date (date : Date)
  | time (time : Time)
  | dateTime (date : Date) (time : Time) (offset : Option Int)
  deriving DecidableEq, Repr

inductive Floating where
  | finite (fraction : Decimal)
  | infinite (negative : Bool)
  | notANumber
  deriving DecidableEq, Repr

inductive Value where
  | string (text : String)
  | integer (number : Int)
  | floating (number : Floating)
  | boolean (truth : Bool)
  | moment (moment : Moment)
  | array (items : List Value)
  | table (entries : List (String × Value))
  deriving Repr, Inhabited

/-- The entries of a table, by key and in order. -/
abbrev Table := List (String × Value)

def Table.get? (table : Table) (key : String) : Option Value := table.lookup key

end RingCalc.Toml
