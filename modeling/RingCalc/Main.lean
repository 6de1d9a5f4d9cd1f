import RingCalc.CommandLine.Run
import RingCalc.Ring.CheckedInt

/-!
# The program

Reads the arguments, the environment and the configuration file, runs the command line on them, and
writes what the run gives.
-/

namespace RingCalc

def standardRings : Registry PackedRing :=
  Registry.empty.register "int" ⟨Unit, CheckedInt, CheckedInt.ring Unit, (), toString⟩

namespace CommandLine

/-- An error of the system by its code, which may be its number or the negative of that. -/
def systemError (code : UInt32) (meaning : String) : SystemError :=
  ⟨min code.toNat (-code).toNat, meaning⟩

/-- What is found at a path of the file system. -/
def findFile (path : String) : IO FileState := do
  try
    return .file (← IO.FS.readBinFile path)
  catch
    | .noFileOrDirectory .. => return .missing
    | .inappropriateType _ code meaning =>
      -- The path may also lead through something that is no directory.
      let error := systemError code meaning
      return if error.number = 21 then .unopened error else .missing
    | .permissionDenied _ code meaning => return .unopened (systemError code meaning)
    | .invalidArgument _ code meaning => return .unreachable (systemError code meaning)
    | error => throw error

/-- What is said about arguments that are wrong, and on request. -/
def usageText : String :=
  "Usage: ringexpr [--config PATH] [--version] [--help] COMMAND\n\n" ++
  "Evaluate infix arithmetic over a ring.\n\n" ++
  "  eval [--ring NAME] EXPRESSION    parse and evaluate an expression\n" ++
  "  tokens EXPRESSION                print the tokens of an expression\n"

/-- What is said about a failure that ends the program. -/
def Escape.message : Escape → String
  | .unreachable error => "the configuration file cannot be looked for: " ++ error.meaning
  | .undecodable => "the configuration file is not UTF-8 text"
  | .integerTooLong => "the configuration file has an integer with too many digits"
  | .tooDeep => "the configuration file nests its values too deeply"
  | .defect _ => "internal error"

/-- The options before the command decide which configuration file is looked at. -/
def configFile (surroundings : Surroundings) (arguments : List String) : ConfigFile :=
  ConfigFile.choose surroundings <|
    (parseOptions globalOptions false arguments).bind fun parsed => parsed.value? .config

end CommandLine

end RingCalc

open RingCalc CommandLine in
def main (arguments : List String) : IO UInt32 := do
  let began ← IO.monoMsNow
  let directory := (← IO.currentDir).toString
  let given ← Setting.all.filterMapM fun setting => do
    return (← IO.getEnv setting.environmentName).map fun value => (setting.environmentName, value)
  let surroundings : Surroundings :=
    ⟨directory, fun _ => .missing, fun name => given.lookup name, .plain⟩
  let state ← findFile (configFile surroundings arguments).path
  let outcome := run standardRings { surroundings with file := fun _ => state } arguments
  match outcome with
  | .usage => IO.eprint usageText
  | .help => IO.print usageText
  | .escaped failure => IO.eprintln failure.message
  | .report written =>
    IO.print written.output
    IO.eprint (written.errorText ("[" ++ toString ((← IO.monoMsNow) - began) ++ " ms]"))
  return outcome.status.toUInt32
