import RingCalc.Caret
import RingCalc.CommandLine.Options
import RingCalc.Expr.Evaluator
import RingCalc.Expr.Parser
import RingCalc.Ring.Packed
import RingCalc.Ring.Registry
import RingCalc.Settings.Load
import RingCalc.Text.Styling

/-!
# The command line

There are two commands: one evaluates an expression, the other shows its tokens.  The arguments are
looked at in this order: the options before the command; a request for the version or for help, the
first one first; the other options before the command; the name of the command; the configuration;
the arguments of the command.

What a run of the program does is a value: the texts it writes, the records it logs, and its exit
status.  Writing them is left to the caller, who knows the streams and the time.
-/

namespace RingCalc.CommandLine

/-! ## Outcomes -/

structure LogRecord where
  logger : String
  message : String
  deriving DecidableEq, Repr

structure Report where
  status : Nat
  output : String
  log : List LogRecord
  errors : String
  deriving DecidableEq, Repr

/-- A failure that is not reported but ends the program. -/
inductive Escape where
  | unreachable (error : SystemError)
  | undecodable
  | integerTooLong
  | tooDeep
  | defect (reason : Defect)
  deriving DecidableEq, Repr

inductive Outcome where
  /-- The arguments are wrong, and the usage is shown. -/
  | usage
  | help
  | escaped (failure : Escape)
  | report (written : Report)
  deriving DecidableEq, Repr

def Outcome.status : Outcome → Nat
  | .usage => 2
  | .help => 0
  | .escaped _ => 1
  | .report written => written.status

def echo (text : String) : String := String.ofList (Text.dropStyling text.toList) ++ "\n"

/-- A line of the log, at a time that is given as a text. -/
def LogRecord.line (time : String) (record : LogRecord) : String :=
  time ++ " [DEBUG] " ++ record.logger ++ ": " ++ record.message ++ "\n"

/-- All that is written to the error stream: the log comes first. -/
def Report.errorText (report : Report) (time : String) : String :=
  String.join (report.log.map (LogRecord.line time)) ++ report.errors

def Report.success (log : List LogRecord) (line : String) : Report := ⟨0, echo line, log, ""⟩

def Report.failure (log : List LogRecord) (text : String) : Report := ⟨1, "", log, echo text⟩

/-- A message about a place in a text, with a caret below the place if carets are shown.  The place
lies inside the text, so the line of the caret is no wider than that of the text. -/
def positioned (settings : Settings) (message source : String) (pos : Int) : String :=
  if settings.caret then pointAt message source pos else message ++ ": " ++ source

/-! ## Logging -/

/-- The records that are kept at the log level in force; all records are for debugging. -/
def kept (settings : Settings) (records : List LogRecord) : List LogRecord :=
  if settings.logLevel = .debug then records else []

def parseLog {α : Type} (source : String) (result : Except (Halt ParseError) (Expr α)) :
    List LogRecord :=
  let logger := "ringexpr.core.expression_lang.parser"
  match tokenize source with
  | .error _ => []
  | .ok tokens =>
    ⟨logger, "Tokenized " ++ toString tokens.length ++ " token(s) from " ++ Text.quoted source⟩ ::
      match result with
      | .ok expr =>
        [⟨logger, "Parsed " ++ Text.quoted source ++ " into " ++ expr.rootName ++ " tree"⟩]
      | .error _ => []

def evalLog {α : Type} (display : α → String) (result : Except (Halt EvalError) α) :
    List LogRecord :=
  let logger := "ringexpr.core.expression_lang.evaluator"
  match result with
  | .ok value => [⟨logger, "Evaluated to " ++ display value⟩]
  | .error (.refused (.ring error)) => [⟨logger, "Evaluation failed: " ++ error.message⟩]
  | .error _ => []

/-! ## Commands -/

def evalIn (packed : PackedRing) (settings : Settings) (expression : String) : Outcome :=
  let (parsed, memory) := parse packed.ring expression packed.memory
  let log := parseLog expression parsed
  match parsed with
  | .error (.defect reason) => .escaped (.defect reason)
  | .error (.refused error) =>
    .report (.failure (kept settings log) (positioned settings error.message expression error.pos))
  | .ok expr =>
    let (result, _) := evaluate packed.ring expr memory
    let log := log ++ evalLog packed.display result
    match result with
    | .error (.defect reason) => .escaped (.defect reason)
    | .error (.refused error) =>
      .report (.failure (kept settings log) (error.message ++ ": " ++ expression))
    | .ok value => .report (.success (kept settings log) ("Result: " ++ packed.display value))

/-- The name of the ring to evaluate in: the one asked for, unless it is empty, or else that of the
settings. -/
def ringName (settings : Settings) : Option String → String
  | some name => if name = "" then settings.ring else name
  | none => settings.ring

def evalCommand (rings : Registry PackedRing) (settings : Settings) (expression : String)
    (ring : Option String) : Outcome :=
  let name := ringName settings ring
  match rings.get? name with
  | none => .report (.failure [] (rings.unknownMessage name))
  | some packed => evalIn packed settings expression

def tokensCommand (settings : Settings) (expression : String) : Outcome :=
  match tokenize expression with
  | .error error =>
    .report (.failure [] (positioned settings error.message expression error.pos))
  | .ok tokens =>
    let log := [⟨"ringexpr.cli", "Tokenized " ++ toString tokens.length ++ " token(s)"⟩]
    .report (.success (kept settings log) ("Tokens: " ++ Token.textOfAll tokens))

/-! ## Arguments -/

inductive GlobalOption where
  | config
  | version
  | installCompletion
  | showCompletion
  | help
  deriving DecidableEq, Repr

inductive CommandOption where
  | ring
  | help
  deriving DecidableEq, Repr

inductive Command where
  | eval
  | tokens
  deriving DecidableEq, Repr

def globalOptions : List (OptionSpec GlobalOption) :=
  [⟨.config, "--config", some 'c', true⟩, ⟨.version, "--version", some 'V', false⟩,
    ⟨.installCompletion, "--install-completion", none, false⟩,
    ⟨.showCompletion, "--show-completion", none, false⟩, ⟨.help, "--help", none, false⟩]

def Command.options : Command → List (OptionSpec CommandOption)
  | .eval => [⟨.ring, "--ring", some 'r', true⟩, ⟨.help, "--help", none, false⟩]
  | .tokens => [⟨.help, "--help", none, false⟩]

def Command.ofName? : String → Option Command
  | "eval" => some .eval
  | "tokens" => some .tokens
  | _ => none

def versionText : String := "ringexpr 0.1.0"

/-- The outcome of the first request for the version or for help. -/
def request? (parsed : Parsed GlobalOption) : Option Outcome :=
  parsed.options.findSome? fun
    | (.version, _) => some (.report (.success [] versionText))
    | (.help, _) => some .help
    | _ => none

/-- Whether a configuration file may be asked for by a path: it can be a path, and nothing is there
that may not be read. -/
def takesConfig (surroundings : Surroundings) (path : String) : Bool :=
  Path.isAllowed path && !(surroundings.file (Path.normal path)).isForbidden

/-- The outcome of the first other option that ends a run: a configuration file that may not be asked
for, or a script for the completion of arguments, which there is for no shell. -/
def refusal? (surroundings : Surroundings) (parsed : Parsed GlobalOption) : Option Outcome :=
  parsed.options.findSome? fun
    | (.config, _) =>
      if (parsed.value? .config).all (takesConfig surroundings) then none else some .usage
    | (.installCompletion, _) => some (.report ⟨1, echo "Shell None is not supported.", [], ""⟩)
    | (.showCompletion, _) => some (.report (.failure [] "Shell  not supported."))
    | _ => none

/-- The outcome of the options before the command, if they end a run.  A request for the version or
for help goes before everything else. -/
def earlyOutcome? (surroundings : Surroundings) (parsed : Parsed GlobalOption) : Option Outcome :=
  request? parsed <|> refusal? surroundings parsed

def Command.run (rings : Registry PackedRing) (settings : Settings) (command : Command)
    (arguments : List String) : Outcome :=
  match parseOptions command.options true arguments with
  | none => .usage
  | some parsed =>
    if parsed.has .help then .help
    else
      match command, parsed.arguments with
      | .eval, [expression] => evalCommand rings settings expression (parsed.value? .ring)
      | .tokens, [expression] => tokensCommand settings expression
      | _, _ => .usage

/-- The outcome for a name that is no command.  A name that looks like an option, as it may after two
dashes, is looked at once more together with what follows: its options may end the run. -/
def unknownCommand (surroundings : Surroundings) (arguments : List String) : Outcome :=
  match parseOptions globalOptions false arguments with
  | none => .usage
  | some parsed => (earlyOutcome? surroundings parsed).getD .usage

def loadFailed : LoadFailure → Outcome
  | .config error => .report (.failure [] ("Error loading config: " ++ error.message))
  | .unreachable error => .escaped (.unreachable error)
  | .undecodable => .escaped .undecodable
  | .integerTooLong => .escaped .integerTooLong
  | .tooDeep => .escaped .tooDeep

def run (rings : Registry PackedRing) (surroundings : Surroundings) (arguments : List String) :
    Outcome :=
  match parseOptions globalOptions false arguments with
  | none => .usage
  | some parsed =>
    match earlyOutcome? surroundings parsed, parsed.arguments with
    | some outcome, _ => outcome
    | none, [] => .usage
    | none, name :: rest =>
      match Command.ofName? name with
      | none => unknownCommand surroundings (name :: rest)
      | some command =>
        match Settings.load rings.contains surroundings (parsed.value? .config) with
        | .error failure => loadFailed failure
        | .ok settings => command.run rings settings rest

end RingCalc.CommandLine
