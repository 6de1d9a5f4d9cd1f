import RingCalc.Main
import RingCalc.Proofs.CommandLine.Invocation
import RingCalc.Proofs.Settings.Section

/-!
# Failures of the configuration

A command runs only with settings.  Where there are none, the configuration is reported to be at
fault, and the line that says so is all that is written.  That does not hold of a file that is
unreadable in one of four ways: it cannot be told whether it is there, its bytes are no UTF-8, its
text has an integer with more digits than are ever read, or it has values nested more deeply than
there is room for.  Each of them ends the program, whichever command was asked for.
-/

namespace RingCalc

/-! ## Loading -/

section

variable (knows : String → Bool) (surroundings : Surroundings) (path : Option String)

/-- What is wrong with a configuration that is reported: its file, or what it sets. -/
inductive Misconfigured : ConfigError → Prop where
  | file {error : ConfigError}
      (misread : Misread surroundings.runtime (.choose surroundings path)
        (.chosen surroundings path) error) : Misconfigured error
  | settings {entries : Toml.Table} {problems : List Problem}
      (holds : SectionInForce surroundings path entries)
      (refused : Settings.resolve knows entries surroundings.environment = .error problems) :
      Misconfigured (.invalidSettings problems
        (surroundings.runtime.settingsFault entries surroundings.environment problems))

variable {knows surroundings path} {error : ConfigError} {failure : LoadFailure}
  {entries : Toml.Table}

theorem Misconfigured.load (misconfigured : Misconfigured knows surroundings path error) :
    Settings.load knows surroundings path = .error (.config error) := by
  cases misconfigured with
  | file misread => simp only [Settings.load, misread.readSection]
  | settings holds refused =>
    rw [holds.load_eq, refused]
    rfl

theorem HoldsSection.load {settings : Settings}
    (holds : SectionInForce surroundings path entries)
    (resolved : Settings.resolve knows entries surroundings.environment = .ok settings) :
    Settings.load knows surroundings path = .ok settings := by
  rw [holds.load_eq, resolved]
  rfl

theorem Unreadable.load
    (unreadable : Unreadable surroundings.runtime (.chosen surroundings path) failure)
    (knows : String → Bool) : Settings.load knows surroundings path = .error failure := by
  simp only [Settings.load, unreadable.readSection]

theorem Unreadable.load_of_chosen {state : FileState}
    (unreadable : Unreadable surroundings.runtime state failure)
    (found : FileState.chosen surroundings path = state) (knows : String → Bool) :
    Settings.load knows surroundings path = .error failure := by
  rw [← found] at unreadable
  exact unreadable.load knows

variable (knows surroundings path) in
/-- What loading can come to: settings from a section, a report, or the failure of an unreadable
file. -/
theorem load_cases :
    (∃ entries settings, SectionInForce surroundings path entries ∧
        Settings.resolve knows entries surroundings.environment = .ok settings) ∨
    (∃ error, Misconfigured knows surroundings path error) ∨
    ∃ failure, Unreadable surroundings.runtime (.chosen surroundings path) failure := by
  obtain ⟨entries, holds⟩ | ⟨error, misread⟩ | unreadable :=
    section_cases surroundings.runtime (.choose surroundings path) (.chosen surroundings path)
  · cases result : Settings.resolve knows entries surroundings.environment with
    | ok settings => exact .inl ⟨entries, settings, holds, result⟩
    | error problems => exact .inr (.inl ⟨_, .settings holds result⟩)
  · exact .inr (.inl ⟨error, .file misread⟩)
  · exact .inr (.inr unreadable)

theorem load_eq_ok_iff {settings : Settings} :
    Settings.load knows surroundings path = .ok settings ↔
      ∃ entries, SectionInForce surroundings path entries ∧
        Settings.resolve knows entries surroundings.environment = .ok settings := by
  refine ⟨fun loaded => ?_, fun ⟨entries, holds, resolved⟩ => holds.load resolved⟩
  obtain ⟨entries, found, holds, resolved⟩ | ⟨error, misconfigured⟩ | ⟨failure, unreadable⟩ :=
    load_cases knows surroundings path
  · cases loaded.symm.trans (holds.load resolved)
    exact ⟨entries, holds, resolved⟩
  · cases loaded.symm.trans misconfigured.load
  · cases loaded.symm.trans (unreadable.load knows)

theorem load_eq_config_iff :
    Settings.load knows surroundings path = .error (.config error) ↔
      Misconfigured knows surroundings path error := by
  refine ⟨fun reported => ?_, Misconfigured.load⟩
  obtain ⟨entries, settings, holds, resolved⟩ | ⟨other, misconfigured⟩ | ⟨failure, unreadable⟩ :=
    load_cases knows surroundings path
  · cases reported.symm.trans (holds.load resolved)
  · cases reported.symm.trans misconfigured.load
    exact misconfigured
  · cases reported.symm.trans (unreadable.load knows)
    exact absurd rfl (unreadable.ne_config error)

end

namespace CommandLine

/-! ## Runs -/

/-- The arguments come to a command: nothing ends the run before it.  A path for the configuration
file may have been given before it, but then not that of a file that may not be read, for which the
arguments are wrong. -/
inductive Reaches (surroundings : Surroundings) (arguments : List String) :
    Option String → Command → List String → Prop where
  | intro {before : Parsed GlobalOption} {name : String} {command : Command} {rest : List String}
      (options : parseOptions globalOptions false arguments = some before)
      (goesOn : earlyOutcome? surroundings before = none) (named : before.arguments = name :: rest)
      (known : Command.ofName? name = some command) :
      Reaches surroundings arguments (before.value? .config) command rest

theorem Reaches.run_eq {surroundings : Surroundings} {arguments rest : List String}
    {path : Option String} {command : Command}
    (reaches : Reaches surroundings arguments path command rest) (rings : Registry PackedRing) :
    run rings surroundings arguments =
      match Settings.load rings.contains surroundings path with
      | .error failure => loadFailed failure
      | .ok settings => command.run rings settings rest := by
  obtain @⟨before, name, command, rest, options, goesOn, named, known⟩ := reaches
  cases loaded : Settings.load rings.contains surroundings (before.value? .config) with
  | error failure => simp only [run, options, goesOn, named, known, loaded]
  | ok settings => simp only [run, options, goesOn, named, known, loaded]

theorem loadFailed_config (error : ConfigError) :
    loadFailed (.config error) =
      .report ⟨1, "", [], "Error loading config: " ++ echo error.message⟩ := by
  have plain : '\x1b' ∉ "Error loading config: ".toList := by decide
  rw [loadFailed, Report.failure, echo, String.toList_append, Text.dropStyling_append plain,
    String.ofList_append, String.ofList_toList, String.append_assoc]
  rfl

theorem loadFailed_of_unreadable {runtime : Runtime} {state : FileState} {failure : LoadFailure}
    (unreadable : Unreadable runtime state failure) :
    ∃ escape, loadFailed failure = .escaped escape := by
  cases unreadable with
  | unreachable _ => exact ⟨_, rfl⟩
  | undecodable _ => exact ⟨_, rfl⟩
  | integerTooLong _ _ => exact ⟨_, rfl⟩
  | tooDeep _ _ => exact ⟨_, rfl⟩

/-- Every failure of the configuration is reported but that of an unreadable file.  Loading comes to
settings exactly where they are resolved from the section that the file holds, and to a report
exactly where the configuration is wrong.  It comes to neither exactly where the file is unreadable,
and that failure is not caught.

It is unreadable where it cannot be told whether it is there, where its bytes are no text, and where
the text has an integer that is too long or values that are nested too deeply.  Neither is so of a
text that is short enough and opens few enough arrays and tables.  Beyond these bounds each of the
two is met: at an integer of that many digits, and at arrays in arrays that no room is left for.

Every run that comes to a command does the same.  Without settings it writes one line that says why
and has the status of a failure, or else it does not end in order. -/
theorem configuration_failures_are_reported_unless_unreadable (rings : Registry PackedRing)
    (surroundings : Surroundings) (path : Option String) :
    let file := ConfigFile.choose surroundings path
    let runtime := surroundings.runtime
    let state := surroundings.file file.path
    let loaded := Settings.load rings.contains surroundings path
    (∀ settings, loaded = .ok settings ↔ ∃ entries, HoldsSection runtime file state entries ∧
      Settings.resolve rings.contains entries surroundings.environment = .ok settings) ∧
    (∀ error, loaded = .error (.config error) ↔
      Misconfigured rings.contains surroundings path error) ∧
    ((∃ failure, Unreadable runtime state failure) ↔
      ¬ ((∃ settings, loaded = .ok settings) ∨ ∃ error, loaded = .error (.config error))) ∧
    (∀ failure, Unreadable runtime state failure → loaded = .error failure) ∧
    (∀ bytes, state = .file bytes →
      (∀ source, String.fromUTF8? bytes = some source →
        source.length ≤ Toml.maxIntegerDigits ∧
          Toml.tableCalls * Toml.openings source.toList ≤ runtime.room) →
      ((∃ failure, Unreadable runtime state failure) ↔ String.fromUTF8? bytes = none)) ∧
    (∀ digits : List Char, (∀ c ∈ digits, c.isDigit = true) → digits.head? ≠ some '0' →
      Toml.maxIntegerDigits < digits.length →
      state = .file (String.ofList ('n' :: '=' :: digits)).toUTF8 →
      loaded = .error .integerTooLong) ∧
    (∀ (depth : Nat) (rest : List Char), runtime.room < Toml.arrayCalls * depth →
      state = .file
        (String.ofList ('n' :: '=' :: (List.replicate (depth + 1) '[' ++ rest))).toUTF8 →
      loaded = .error .tooDeep) ∧
    ∀ arguments command rest, Reaches surroundings arguments path command rest →
      (∀ settings, loaded = .ok settings →
        run rings surroundings arguments = command.run rings settings rest) ∧
      (∀ error, Misconfigured rings.contains surroundings path error →
        run rings surroundings arguments =
          .report ⟨1, "", [], "Error loading config: " ++ echo error.message⟩) ∧
      ∀ failure, Unreadable runtime state failure →
        ∃ escape, run rings surroundings arguments = .escaped escape := by
  intro file runtime state loaded
  refine ⟨fun settings => load_eq_ok_iff, fun error => load_eq_config_iff, ⟨?_, ?_⟩, ?_, ?_, ?_, ?_,
    ?_⟩
  · rintro ⟨failure, unreadable⟩ (⟨settings, found⟩ | ⟨error, reported⟩)
    · cases found.symm.trans (unreadable.load rings.contains)
    · have same := Except.error.inj (reported.symm.trans (unreadable.load rings.contains))
      exact unreadable.ne_config error same.symm
  · intro neither
    obtain ⟨entries, settings, holds, resolved⟩ | ⟨error, misconfigured⟩ | unreadable :=
      load_cases rings.contains surroundings path
    · exact absurd (.inl ⟨settings, holds.load resolved⟩) neither
    · exact absurd (.inr ⟨error, misconfigured.load⟩) neither
    · exact unreadable
  · exact fun failure unreadable => unreadable.load rings.contains
  · intro bytes same small
    rw [same]
    refine ⟨fun ⟨failure, unreadable⟩ => ?_, fun undecoded => ⟨_, .undecodable undecoded⟩⟩
    cases decoded : String.fromUTF8? bytes with
    | none => rfl
    | some source =>
      obtain ⟨short, flat⟩ := small source decoded
      exact absurd unreadable (not_unreadable_of_small decoded short flat)
  · intro digits all lead many same
    exact (unreadable_of_digits all lead many).load_of_chosen same rings.contains
  · intro depth rest deep same
    exact (unreadable_of_brackets deep rest).load_of_chosen same rings.contains
  · intro arguments command rest reaches
    have outcome := reaches.run_eq rings
    refine ⟨fun settings found => ?_, fun error misconfigured => ?_, fun failure unreadable => ?_⟩
    · obtain ⟨entries, holds, resolved⟩ := load_eq_ok_iff.mp found
      rw [outcome, holds.load resolved]
    · rw [outcome, misconfigured.load]
      exact loadFailed_config error
    · rw [outcome, unreadable.load rings.contains]
      exact loadFailed_of_unreadable unreadable

/-- A directory in the place of the file is reported, with its path. -/
theorem configuration_failures_are_reported_unless_unreadable_directory :
    let surroundings : Surroundings := ⟨"/", fun _ => .directory, fun _ => none, .plain⟩
    Reaches surroundings ["tokens", "1"] none .tokens ["1"] ∧
      run standardRings surroundings ["tokens", "1"] =
        .report ⟨1, "", [], "Error loading config: Cannot read /ringexpr.toml: [Errno 21] " ++
          "Is a directory: '/ringexpr.toml'\n"⟩ := by
  intro surroundings
  have reaches : Reaches surroundings ["tokens", "1"] none .tokens ["1"] := by
    have options : parseOptions globalOptions false ["tokens", "1"] =
        some ⟨[], ["tokens", "1"]⟩ := rfl
    exact .intro options rfl rfl rfl
  obtain ⟨-, -, -, -, -, -, -, runs⟩ := configuration_failures_are_reported_unless_unreadable
    standardRings surroundings none
  refine ⟨reaches, ?_⟩
  rw [(runs _ _ _ reaches).2.1 _ (.file (.unopened _))]
  decide +kernel

/-- A byte that begins no character is not reported: loading fails with what is not caught, and so
does a run, though the file is there and is asked for by no one. -/
theorem configuration_failure_escapes_at_stray_byte :
    let surroundings : Surroundings :=
      ⟨"/", fun path => if path = "/ringexpr.toml" then .file ⟨#[0xff]⟩ else .missing,
        fun _ => none, .plain⟩
    Reaches surroundings ["eval", "--", "1"] none .eval ["--", "1"] ∧
      Settings.load standardRings.contains surroundings none = .error .undecodable ∧
      run standardRings surroundings ["eval", "--", "1"] = .escaped .undecodable ∧
      ¬ ∀ (rings : Registry PackedRing) (surroundings : Surroundings) (path : Option String),
        (∃ settings, Settings.load rings.contains surroundings path = .ok settings) ∨
          ∃ error, Settings.load rings.contains surroundings path = .error (.config error) := by
  intro surroundings
  have reaches : Reaches surroundings ["eval", "--", "1"] none .eval ["--", "1"] := by
    have options : parseOptions globalOptions false ["eval", "--", "1"] =
        some ⟨[], ["eval", "--", "1"]⟩ := rfl
    exact .intro options rfl rfl rfl
  have place : (ConfigFile.choose surroundings none).path = "/ringexpr.toml" := by decide +kernel
  have stray : FileState.chosen surroundings none = .file ⟨#[0xff]⟩ := by
    rw [FileState.chosen, place]
    rfl
  have load := (Unreadable.undecodable rfl).load_of_chosen stray standardRings.contains
  refine ⟨reaches, load, ?_, fun reported => ?_⟩
  · rw [reaches.run_eq, load]
    rfl
  · obtain ⟨settings, loaded⟩ | ⟨error, refused⟩ := reported standardRings surroundings none
    · cases load.symm.trans loaded
    · cases load.symm.trans refused

end CommandLine

end RingCalc
