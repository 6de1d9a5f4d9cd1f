import RingCalc.Proofs.CommandLine.Told

/-!
# The option for the ring

A name given to the option decides in which ring an expression is evaluated, and the ring of the
settings does not count.  The empty name is the one exception: it counts as no name, so the ring of
the settings is used, although no ring may have the empty name.
-/

namespace RingCalc.CommandLine

/-- A name given to the option for the ring decides alone: the expression is told of in the ring of
that name, or there is no such ring, and the ring of the settings makes no difference. -/
structure Governs (name : String) : Prop where
  known : ∀ {rings : Registry PackedRing} {surroundings : Surroundings} {arguments : List String}
    {settings : Settings} {expression : String} {packed : PackedRing},
    Invokes rings surroundings arguments .eval settings (some name) expression →
    rings.get? name = some packed →
    ∃ success line records, ToldIn packed settings.caret expression success line ∧
      run rings surroundings arguments =
        .report { Report.told success line with log := kept settings records }
  unknown : ∀ {rings : Registry PackedRing} {surroundings : Surroundings}
    {arguments : List String} {settings : Settings} {expression : String},
    Invokes rings surroundings arguments .eval settings (some name) expression →
    rings.get? name = none →
    run rings surroundings arguments = .report ⟨1, "", [], echo (rings.unknownMessage name)⟩
  independent : ∀ {rings : Registry PackedRing} {first second : Surroundings}
    {arguments others : List String} {settings : Settings} {ring expression : String},
    Invokes rings first arguments .eval settings (some name) expression →
    Invokes rings second others .eval { settings with ring := ring } (some name) expression →
    run rings first arguments = run rings second others

variable {rings : Registry PackedRing} {settings : Settings} {name expression : String}

theorem ringName_of_ne_empty (filled : name ≠ "") (settings : Settings) :
    ringName settings (some name) = name :=
  if_neg filled

theorem evalCommand_of_known {packed : PackedRing} (filled : name ≠ "")
    (found : rings.get? name = some packed) (settings : Settings) (expression : String) :
    evalCommand rings settings expression (some name) = evalIn packed settings expression := by
  rw [evalCommand, ringName_of_ne_empty filled, found]

theorem evalCommand_of_unknown (filled : name ≠ "") (missing : rings.get? name = none)
    (settings : Settings) (expression : String) :
    evalCommand rings settings expression (some name) =
      .report ⟨1, "", [], echo (rings.unknownMessage name)⟩ := by
  rw [evalCommand, ringName_of_ne_empty filled, missing]
  rfl

/-- Evaluation in a ring does not look at the ring of the settings. -/
theorem evalIn_setRing (packed : PackedRing) (settings : Settings) (ring expression : String) :
    evalIn packed { settings with ring := ring } expression = evalIn packed settings expression :=
  rfl

theorem evalCommand_setRing (filled : name ≠ "") (settings : Settings) (ring expression : String) :
    evalCommand rings { settings with ring := ring } expression (some name) =
      evalCommand rings settings expression (some name) := by
  cases found : rings.get? name with
  | none => rw [evalCommand_of_unknown filled found, evalCommand_of_unknown filled found]
  | some packed =>
    rw [evalCommand_of_known filled found, evalCommand_of_known filled found, evalIn_setRing]

theorem governs_of_ne_empty (filled : name ≠ "") : Governs name where
  known := by
    intro rings surroundings arguments settings expression packed invokes found
    obtain ⟨success, line, records, told, outcome⟩ := evalIn_reports packed settings expression
    refine ⟨success, line, records, told, ?_⟩
    rw [invokes.run_eq, ← outcome]
    exact evalCommand_of_known filled found settings expression
  unknown := by
    intro rings surroundings arguments settings expression invokes missing
    rw [invokes.run_eq]
    exact evalCommand_of_unknown filled missing settings expression
  independent := by
    intro rings first second arguments others settings ring expression invokes again
    rw [invokes.run_eq, again.run_eq]
    exact (evalCommand_setRing filled settings ring expression).symm

/-- The empty name counts as no name. -/
theorem evalCommand_empty (rings : Registry PackedRing) (settings : Settings)
    (expression : String) :
    evalCommand rings settings expression (some "") =
      evalCommand rings settings expression none :=
  rfl

theorem run_one_with_empty_ring :
    run standardRings bareSurroundings ["eval", "--ring", "", "--", "1"] =
      .report ⟨0, "Result: 1\n", [], ""⟩ := by
  decide +kernel

theorem not_governs_empty : ¬ Governs "" := by
  intro governs
  have invokes : Invokes standardRings bareSurroundings ["eval", "--ring", "", "--", "1"] .eval {}
      (some "") "1" := .eval_ring rfl "" "1"
  have refused := governs.unknown invokes rfl
  cases run_one_with_empty_ring.symm.trans refused

/-- A name given to the option for the ring decides, whatever the settings say, unless it is empty:
every run that evaluates with it tells what there is to tell in the ring of that name, or that there
is none, and comes to the same with any other ring in the settings.  A run with the empty name is
one without the option. -/
theorem ring_option_governs_unless_empty (name : String) :
    (Governs name ↔ name ≠ "") ∧
      (name = "" → ∀ (rings : Registry PackedRing) (surroundings : Surroundings)
        (arguments others : List String) (settings : Settings) (expression : String),
        Invokes rings surroundings arguments .eval settings (some name) expression →
        Invokes rings surroundings others .eval settings none expression →
        run rings surroundings arguments = run rings surroundings others) := by
  refine ⟨⟨?_, governs_of_ne_empty⟩, ?_⟩
  · rintro governs rfl
    exact not_governs_empty governs
  · rintro rfl rings surroundings arguments others settings expression invokes without
    rw [invokes.run_eq, without.run_eq]
    exact evalCommand_empty rings settings expression

/-- With a name given, a run does not change with the ring of the settings; without one it does. -/
theorem ring_option_governs_unless_empty_two_settings :
    let spare : PackedRing := ⟨Unit, CheckedInt, CheckedInt.ring Unit, (), fun _ => "?"⟩
    let rings := standardRings.register "spare" spare
    let setting : Surroundings := ⟨"/", fun _ => .missing, fun name =>
      if name = Setting.ring.environmentName then some "spare" else none, .plain⟩
    "int" ≠ "" ∧
      run rings bareSurroundings ["eval", "--ring", "int", "--", "1"] =
        run rings setting ["eval", "--ring", "int", "--", "1"] ∧
      run rings bareSurroundings ["eval", "--", "1"] ≠ run rings setting ["eval", "--", "1"] := by
  intro spare rings setting
  have filled : "int" ≠ "" := by decide
  have governs := (ring_option_governs_unless_empty "int").1.mpr filled
  have loaded : Settings.load rings.contains setting none = .ok { ring := "spare" } := rfl
  refine ⟨filled, ?_, ?_⟩
  · exact governs.independent (.eval_ring rfl "int" "1") (.eval_ring loaded "int" "1")
  · decide +kernel

/-- The empty name is not said to be unknown, though no ring has it: the ring of the settings is
used. -/
theorem ring_option_falls_back_when_empty :
    Invokes standardRings bareSurroundings ["eval", "--ring", "", "--", "1"] .eval {} (some "")
        "1" ∧
      standardRings.get? "" = none ∧
      run standardRings bareSurroundings ["eval", "--ring", "", "--", "1"] =
        .report ⟨0, "Result: 1\n", [], ""⟩ ∧
      ¬ ∀ name, Governs name := by
  refine ⟨.eval_ring rfl "" "1", rfl, run_one_with_empty_ring, fun governs => ?_⟩
  exact not_governs_empty (governs "")

end RingCalc.CommandLine
