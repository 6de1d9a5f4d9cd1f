import RingCalc.Path
import RingCalc.Settings
import RingCalc.Toml.Document

/-!
# Loading settings

The configuration file is the one that is asked for, or else the one of a fixed name in the current
directory, which need not exist.  Its section is read from the text of the file and resolved with the
environment.

Most failures are reported as faults of the configuration.  Four are not, and end the program: it
cannot be told whether the file is there, its text is no UTF-8, it has an integer too long to be
read, or its values are nested more deeply than there is room for.  How much room there is, and the
words in which libraries tell their faults, are given with the surroundings.
-/

namespace RingCalc

/-! ## Surroundings -/

/-- An error of the system: its number and what that means. -/
structure SystemError where
  number : Nat
  meaning : String
  deriving DecidableEq, Repr

/-- What is said about an error that was met at a path. -/
def SystemError.describe (error : SystemError) (path : String) : String :=
  "[Errno " ++ toString error.number ++ "] " ++ error.meaning ++ ": " ++ Text.quoted path

/-- The number of the error for what may not be done. -/
def SystemError.deniedNumber : Nat := 13

inductive FileState where
  /-- There is nothing: a part of the path leads nowhere or in a circle. -/
  | missing
  /-- It cannot be told whether there is anything.  That is so of a path that is too long, of one
  through a directory that may not be searched, and where the current directory is gone. -/
  | unreachable (error : SystemError)
  /-- There is something, but to open it fails. -/
  | unopened (error : SystemError)
  | file (bytes : ByteArray)

namespace FileState

/-- A directory cannot be opened as a file. -/
def directory : FileState := .unopened ⟨21, "Is a directory"⟩

/-- There is something that may not be read. -/
def isForbidden : FileState → Bool
  | .unopened error => error.number == SystemError.deniedNumber
  | _ => false

end FileState

/-- What the program is built on and does not decide itself. -/
structure Runtime where
  /-- How many calls there is room for where a value of a document is read. -/
  room : Nat
  /-- What is said about a text that is no document. -/
  documentFault : String → String
  /-- What is said about the settings that a file and the environment give, for their problems. -/
  settingsFault : Toml.Table → (String → Option String) → List Problem → String

/-- A runtime with the usual room, and with plain words of its own. -/
def Runtime.plain : Runtime where
  room := 980
  documentFault _ := "not a document"
  settingsFault _ _ problems :=
    "; ".intercalate (problems.map fun problem => problem.key ++ ": " ++ problem.message)

/-- What the program sees of the system it runs on. -/
structure Surroundings where
  directory : String
  /-- What is found at a path in normal form. -/
  file : String → FileState
  environment : String → Option String
  runtime : Runtime

/-! ## Failures -/

inductive ConfigError where
  | notFound (path : String)
  | unopened (path : String) (error : SystemError)
  | invalidDocument (path fault : String)
  | notATable (path : String)
  | invalidSettings (problems : List Problem) (fault : String)
  deriving DecidableEq, Repr

def ConfigError.message : ConfigError → String
  | .notFound path => "Config file not found: " ++ path
  | .unopened path error => "Cannot read " ++ path ++ ": " ++ error.describe path
  | .invalidDocument path fault => "Invalid TOML in " ++ path ++ ": " ++ fault
  | .notATable path => "[ringexpr] in " ++ path ++ " must be a table"
  | .invalidSettings _ fault => "Invalid configuration: " ++ fault

/-- Why there are no settings.  All but the first end the program without a report. -/
inductive LoadFailure where
  | config (error : ConfigError)
  | unreachable (error : SystemError)
  | undecodable
  | integerTooLong
  | tooDeep
  deriving DecidableEq, Repr

/-! ## Sections and settings -/

/-- A configuration file: its path as it is shown, and whether it must exist. -/
structure ConfigFile where
  path : String
  required : Bool
  deriving DecidableEq, Repr

namespace ConfigFile

/-- The name of the file that is used when none is asked for. -/
def defaultName : String := "ringexpr.toml"

/-- The key of the section that holds the settings. -/
def sectionKey : String := "ringexpr"

/-- The configuration file for a path that was asked for, or for none. -/
def choose (surroundings : Surroundings) : Option String → ConfigFile
  | some path => ⟨Path.normal path, true⟩
  | none => ⟨Path.inDirectory surroundings.directory defaultName, false⟩

/-- The section of a document that holds the settings. -/
def sectionOf (file : ConfigFile) (document : Toml.Table) : Except LoadFailure Toml.Table :=
  match document.get? sectionKey with
  | none => .ok []
  | some (.table entries) => .ok entries
  | some _ => .error (.config (.notATable file.path))

/-- The section that the bytes of a file hold. -/
def sectionOfBytes (file : ConfigFile) (runtime : Runtime) (bytes : ByteArray) :
    Except LoadFailure Toml.Table :=
  match String.fromUTF8? bytes with
  | none => .error .undecodable
  | some source =>
    match Toml.read runtime.room source with
    | .ok document => file.sectionOf document
    | .error .invalid =>
      .error (.config (.invalidDocument file.path (runtime.documentFault source)))
    | .error .integerTooLong => .error .integerTooLong
    | .error .tooDeep => .error .tooDeep

/-- The section of a configuration file. -/
def readSection (file : ConfigFile) (runtime : Runtime) :
    FileState → Except LoadFailure Toml.Table
  | .missing => if file.required then .error (.config (.notFound file.path)) else .ok []
  | .unreachable error => .error (.unreachable error)
  | .unopened error => .error (.config (.unopened file.path error))
  | .file bytes => file.sectionOfBytes runtime bytes

end ConfigFile

/-- The settings in force, when a configuration file is asked for or none is. -/
def Settings.load (knows : String → Bool) (surroundings : Surroundings) (path : Option String) :
    Except LoadFailure Settings :=
  let file := ConfigFile.choose surroundings path
  let { environment, runtime, .. } := surroundings
  match file.readSection runtime (surroundings.file file.path) with
  | .error failure => .error failure
  | .ok entries =>
    match Settings.resolve knows entries environment with
    | .ok settings => .ok settings
    | .error problems =>
      let fault := runtime.settingsFault entries environment problems
      .error (.config (.invalidSettings problems fault))

end RingCalc
