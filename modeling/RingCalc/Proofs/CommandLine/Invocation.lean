import RingCalc.CommandLine.Run

/-!
# Invocations

Arguments invoke a command on an expression when nothing stops the program before the command: the
options are read, none of them ends the run, the settings are valid, and the command is given one
expression.  Then the run is that of the command.
-/

namespace RingCalc.CommandLine

/-- The arguments have a command run on an expression, with some settings and the name of a ring if
one is given. -/
inductive Invokes (rings : Registry PackedRing) (surroundings : Surroundings)
    (arguments : List String) (command : Command) (settings : Settings) :
    Option String → String → Prop where
  | intro {before : Parsed GlobalOption} {behind : Parsed CommandOption} {name expression : String}
      {rest : List String} (options : parseOptions globalOptions false arguments = some before)
      (goesOn : earlyOutcome? surroundings before = none) (named : before.arguments = name :: rest)
      (known : Command.ofName? name = some command)
      (loaded : Settings.load rings.contains surroundings (before.value? .config) = .ok settings)
      (given : parseOptions command.options true rest = some behind)
      (helpless : behind.has .help = false) (single : behind.arguments = [expression]) :
      Invokes rings surroundings arguments command settings (behind.value? .ring) expression

/-- Surroundings without a configuration file and without settings in the environment. -/
def bareSurroundings : Surroundings := ⟨"/", fun _ => .missing, fun _ => none, .plain⟩

variable {rings : Registry PackedRing} {surroundings : Surroundings} {arguments : List String}
  {command : Command} {settings : Settings} {ring : Option String} {expression : String}

namespace Invokes

theorem run_eq (invokes : Invokes rings surroundings arguments command settings ring expression) :
    run rings surroundings arguments =
      match command with
      | .eval => evalCommand rings settings expression ring
      | .tokens => tokensCommand settings expression := by
  obtain ⟨options, goesOn, named, known, loaded, given, helpless, single⟩ := invokes
  simp only [run, options, goesOn, named, known, loaded, Command.run, given, helpless, single]
  cases command <;> rfl

/-- The settings of an invocation are loaded for it, from the file that is asked for if one is. -/
theorem exists_load
    (invokes : Invokes rings surroundings arguments command settings ring expression) :
    ∃ path, Settings.load rings.contains surroundings path = .ok settings := by
  obtain ⟨options, goesOn, named, known, loaded, given, helpless, single⟩ := invokes
  exact ⟨_, loaded⟩

/-! ### Two dashes

Behind two dashes every text is an expression, whatever it looks like. -/

variable (loaded : Settings.load rings.contains surroundings none = .ok settings)
include loaded

theorem eval (expression : String) :
    Invokes rings surroundings ["eval", "--", expression] .eval settings none expression := by
  have options : parseOptions globalOptions false ["eval", "--", expression] =
      some ⟨[], ["eval", "--", expression]⟩ := rfl
  have given : parseOptions Command.eval.options true ["--", expression] =
      some ⟨[], [expression]⟩ := rfl
  exact .intro options rfl rfl rfl loaded given rfl rfl

theorem eval_ring (name expression : String) :
    Invokes rings surroundings ["eval", "--ring", name, "--", expression] .eval settings
      (some name) expression := by
  have options : parseOptions globalOptions false ["eval", "--ring", name, "--", expression] =
      some ⟨[], ["eval", "--ring", name, "--", expression]⟩ := rfl
  have given : parseOptions Command.eval.options true ["--ring", name, "--", expression] =
      some ⟨[(.ring, name)], [expression]⟩ := rfl
  exact .intro options rfl rfl rfl loaded given rfl rfl

theorem tokens (expression : String) :
    Invokes rings surroundings ["tokens", "--", expression] .tokens settings none expression := by
  have options : parseOptions globalOptions false ["tokens", "--", expression] =
      some ⟨[], ["tokens", "--", expression]⟩ := rfl
  have given : parseOptions Command.tokens.options true ["--", expression] =
      some ⟨[], [expression]⟩ := rfl
  exact .intro options rfl rfl rfl loaded given rfl rfl

end Invokes

end RingCalc.CommandLine
