import RingCalc.Text.Blank
import RingCalc.Text.Quoted
import RingCalc.Text.UpperCase
import RingCalc.Toml.Double
import RingCalc.Toml.Value

/-!
# Settings

A setting has a default, may be given in a configuration file, and may be given in the environment,
where it counts more than the file.  Values are checked after that choice: a value in the environment
hides a bad one in the file.  All problems are reported, those of the known settings first and in
their fixed order, then the unknown keys of the file in the order of the file.
-/

namespace RingCalc

/-! ## Log levels -/

inductive LogLevel where
  | critical
  | error
  | warning
  | info
  | debug
  deriving DecidableEq, Repr

namespace LogLevel

def all : List LogLevel := [.critical, .error, .warning, .info, .debug]

def name : LogLevel → String
  | .critical => "CRITICAL"
  | .error => "ERROR"
  | .warning => "WARNING"
  | .info => "INFO"
  | .debug => "DEBUG"

/-- The rank of a level; records below the rank are dropped. -/
def number : LogLevel → Nat
  | .critical => 50
  | .error => 40
  | .warning => 30
  | .info => 20
  | .debug => 10

/-- A text as the name of a level: case and blanks at the ends do not count. -/
def normalize (text : String) : String := String.ofList (Text.trim (Text.upperCase text.toList))

def ofText? (text : String) : Option LogLevel :=
  all.find? fun level => level.name == normalize text

theorem ofText?_eq_some_iff {text : String} {level : LogLevel} :
    ofText? text = some level ↔ normalize text = level.name := by
  simp only [ofText?, all]
  constructor
  · intro found
    have named := List.find?_some found
    simp only [beq_iff_eq] at named
    exact named.symm
  · intro named
    rw [named]
    cases level <;> simp [name]

end LogLevel

/-! ## Truth values -/

/-- Why a value is no truth value. -/
inductive TruthFault where
  /-- It is of a kind that may stand for a truth value, but it does not. -/
  | unreadable
  | wrongKind
  deriving DecidableEq, Repr

def falseWords : List String := ["0", "off", "f", "false", "n", "no"]

def trueWords : List String := ["1", "on", "t", "true", "y", "yes"]

/-- The truth value that a text names, in either case of its letters. -/
def truthOfText (text : String) : Except TruthFault Bool :=
  let word := String.ofList (text.toList.map Char.toLower)
  if falseWords.contains word then .ok false
  else if trueWords.contains word then .ok true
  else .error .unreadable

/-- The bound on the integers that may stand for a truth value: they have 64 bits and a sign. -/
def truthBound : Int := 9223372036854775808

/-- The truth value that an integer stands for.  An integer that is too large is not looked at. -/
def truthOfInteger (number : Int) : Except TruthFault Bool :=
  if number = 0 then .ok false
  else if number = 1 then .ok true
  else if -truthBound ≤ number ∧ number < truthBound then .error .unreadable
  else .error .wrongKind

/-- The truth value that a floating-point number stands for: that of the integer which it is, if it
is one.  The least integer counts as too large here. -/
def truthOfFloating : Toml.Floating → Except TruthFault Bool
  | .finite fraction =>
    match fraction.nearest?.bind Toml.Double.integer? with
    | some number =>
      if number = -truthBound then .error .wrongKind else truthOfInteger number
    | none => .error .wrongKind
  | _ => .error .wrongKind

def Toml.Value.truth : Toml.Value → Except TruthFault Bool
  | .boolean truth => .ok truth
  | .string text => truthOfText text
  | .integer number => truthOfInteger number
  | .floating number => truthOfFloating number
  | _ => .error .wrongKind

/-! ## The settings -/

inductive Setting where
  | ring
  | logLevel
  | caret
  deriving DecidableEq, Repr

namespace Setting

def all : List Setting := [.ring, .logLevel, .caret]

/-- The key of a setting in a configuration file. -/
def key : Setting → String
  | .ring => "ring"
  | .logLevel => "log_level"
  | .caret => "caret"

/-- The variable of a setting in the environment. -/
def environmentName : Setting → String
  | .ring => "RINGEXPR_RING"
  | .logLevel => "RINGEXPR_LOG_LEVEL"
  | .caret => "RINGEXPR_CARET"

end Setting

inductive Problem where
  | notAString (setting : Setting)
  | unknownRing (name : String)
  | unknownLevel (given : String)
  | notTruth (fault : TruthFault)
  | unknownKey (key : String)
  deriving DecidableEq, Repr

namespace Problem

def key : Problem → String
  | .notAString setting => setting.key
  | .unknownRing _ => Setting.ring.key
  | .unknownLevel _ => Setting.logLevel.key
  | .notTruth _ => Setting.caret.key
  | .unknownKey key => key

/-- The short name of a kind of problem. -/
def code : Problem → String
  | .notAString _ => "string_type"
  | .unknownRing _ | .unknownLevel _ => "value_error"
  | .notTruth .unreadable => "bool_parsing"
  | .notTruth .wrongKind => "bool_type"
  | .unknownKey _ => "extra_forbidden"

def message : Problem → String
  | .notAString _ => "Input should be a valid string"
  | .unknownRing name => "Value error, unknown ring " ++ Text.quoted name
  | .unknownLevel given => "Value error, unknown log level " ++ Text.quoted given
  | .notTruth .unreadable => "Input should be a valid boolean, unable to interpret input"
  | .notTruth .wrongKind => "Input should be a valid boolean"
  | .unknownKey _ => "Extra inputs are not permitted"

end Problem

structure Settings where
  ring : String := "int"
  logLevel : LogLevel := .warning
  caret : Bool := true
  deriving DecidableEq, Repr

namespace Settings

/-- The value given for a setting: that of the environment, else that of the file. -/
def given (file : Toml.Table) (environment : String → Option String) (setting : Setting) :
    Option Toml.Value :=
  match environment setting.environmentName with
  | some text => some (.string text)
  | none => file.get? setting.key

def checkRing (knows : String → Bool) : Toml.Value → Except Problem String
  | .string name => if knows name then .ok name else .error (.unknownRing name)
  | _ => .error (.notAString .ring)

def checkLogLevel : Toml.Value → Except Problem LogLevel
  | .string text =>
    match LogLevel.ofText? text with
    | some level => .ok level
    | none => .error (.unknownLevel text)
  | _ => .error (.notAString .logLevel)

/-- The truth value that says whether carets are shown. -/
def checkCaret (value : Toml.Value) : Except Problem Bool :=
  match value.truth with
  | .ok truth => .ok truth
  | .error fault => .error (.notTruth fault)

/-- The value of a setting, checked if it is given and the default otherwise. -/
def checked {α : Type} (check : Toml.Value → Except Problem α) (default : α) :
    Option Toml.Value → Except Problem α
  | some value => check value
  | none => .ok default

def problemOf {α : Type} : Except Problem α → List Problem
  | .ok _ => []
  | .error problem => [problem]

/-- The keys of a file that are no settings, in the order of the file. -/
def unknownKeys (file : Toml.Table) : List String :=
  (file.map (·.1)).filter fun key => !(Setting.all.map Setting.key).contains key

/-- The settings that a file and the environment give, or everything that is wrong with them. -/
def resolve (knows : String → Bool) (file : Toml.Table) (environment : String → Option String) :
    Except (List Problem) Settings :=
  let value := given file environment
  let ring := checked (checkRing knows) "int" (value .ring)
  let logLevel := checked checkLogLevel .warning (value .logLevel)
  let caret := checked checkCaret true (value .caret)
  match ring, logLevel, caret, unknownKeys file with
  | .ok ring, .ok logLevel, .ok caret, [] => .ok { ring, logLevel, caret }
  | ring, logLevel, caret, unknown =>
    .error (problemOf ring ++ problemOf logLevel ++ problemOf caret ++
      unknown.map Problem.unknownKey)

end Settings

end RingCalc
