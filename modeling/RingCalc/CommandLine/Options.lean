/-!
# Options

Arguments are split into options and other arguments.  An option has a long name, may have a short
one of a single letter, and may take a value.

* `--name value` and `--name=value` give a value to a long name; a name that takes none refuses one.
* `-x value` and `-xvalue` give a value to a short name; short names without values may share a dash.
* Two dashes alone end the options.  A dash alone is no option.
* The value of an option is the next argument, whatever it looks like.
-/

namespace RingCalc.CommandLine

structure OptionSpec (ι : Type) where
  id : ι
  long : String
  short : Option Char
  takesValue : Bool

/-- The options given, in their order, each with its value; options that take none have an empty
one.  The other arguments are in their order too. -/
structure Parsed (ι : Type) where
  options : List (ι × String)
  arguments : List String

variable {ι : Type}

/-- The options that one argument gives, and the option at its end that takes the next argument. -/
abbrev Given (ι : Type) : Type := List (ι × String) × Option ι

/-- The options given with one dash.  Each letter is an option; the first that takes a value takes
the rest of the argument, or the next argument if nothing is left. -/
def readCluster (specs : List (OptionSpec ι)) : List Char → Option (Given ι)
  | [] => some ([], none)
  | letter :: rest => do
    let spec ← specs.find? fun spec => spec.short == some letter
    if spec.takesValue then
      if rest.isEmpty then some ([], some spec.id)
      else some ([(spec.id, String.ofList rest)], none)
    else
      let (given, waiting) ← readCluster specs rest
      some ((spec.id, "") :: given, waiting)

/-- The options that an argument gives.  It is read as a long name if there is such a name, and else
as short names. -/
def readOption (specs : List (OptionSpec ι)) (argument : String) : Option (Given ι) :=
  let name := String.ofList (argument.toList.takeWhile (· != '='))
  let value := match argument.toList.dropWhile (· != '=') with
    | [] => none
    | _ :: value => some (String.ofList value)
  match specs.find? fun spec => spec.long == name with
  | some spec =>
    match spec.takesValue, value with
    | true, some value => some ([(spec.id, value)], none)
    | true, none => some ([], some spec.id)
    | false, none => some ([(spec.id, "")], none)
    | false, some _ => none
  | none =>
    match argument.toList with
    | '-' :: '-' :: _ => none
    | letters => readCluster specs (letters.drop 1)

def looksLikeOption (argument : String) : Bool :=
  match argument.toList with
  | '-' :: _ :: _ => true
  | _ => false

/-- Splits arguments.  Where options may not follow other arguments, the first other argument ends
the options. -/
def parseOptions (specs : List (OptionSpec ι)) (mixed : Bool) : List String → Option (Parsed ι)
  | [] => some ⟨[], []⟩
  | argument :: rest =>
    if argument = "--" then some ⟨[], rest⟩
    else if looksLikeOption argument then
      match readOption specs argument, rest with
      | none, _ => none
      | some (given, none), rest =>
        (parseOptions specs mixed rest).map fun parsed =>
          { parsed with options := given ++ parsed.options }
      -- The value may itself look like an option, or be two dashes.
      | some (given, some id), value :: rest =>
        (parseOptions specs mixed rest).map fun parsed =>
          { parsed with options := given ++ (id, value) :: parsed.options }
      | some (_, some _), [] => none
    else if mixed then
      (parseOptions specs mixed rest).map fun parsed =>
        { parsed with arguments := argument :: parsed.arguments }
    else some ⟨[], argument :: rest⟩

/-- The value of an option; the last one given counts. -/
def Parsed.value? [BEq ι] (parsed : Parsed ι) (id : ι) : Option String :=
  parsed.options.reverse.lookup id

def Parsed.has [BEq ι] (parsed : Parsed ι) (id : ι) : Bool := (parsed.value? id).isSome

end RingCalc.CommandLine
