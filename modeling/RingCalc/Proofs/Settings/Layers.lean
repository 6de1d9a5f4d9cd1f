import Mathlib.Data.List.Basic
import RingCalc.Proofs.Settings.Section
import RingCalc.Ring.Registry

/-!
# Settings from two layers

The environment lies over the file: a variable that is set, be it to the empty text, stands in the
place of the file's value for its key, and the file's other keys stay as they are.  The settings are
valid if everything that is left after that is; all that is not is reported, each key once.
-/

namespace RingCalc

/-! ## Tables -/

namespace Toml.Table

/-- The table with a value for a key, in the place of its earlier value if it has one and at the end
otherwise. -/
def assign (key : String) (value : Value) : Table → Table
  | [] => [(key, value)]
  | (other, old) :: rest =>
    if other = key then (key, value) :: rest else (other, old) :: assign key value rest

theorem get?_assign (key other : String) (value : Value) (table : Table) :
    get? (assign key value table) other = if other = key then some value else get? table other := by
  induction table with
  | nil => exact get?_cons other key value []
  | cons head rest inductionHypothesis =>
    obtain ⟨first, old⟩ := head
    rw [assign, get?_cons other first old]
    split
    next same =>
      subst same
      rw [get?_cons]
      split
      · rfl
      · rfl
    next differs =>
      rw [get?_cons, inductionHypothesis]
      split
      next here =>
        subst here
        rw [if_neg differs]
      · rfl

theorem filter_keys_assign {p : String → Bool} {key : String} (dropped : p key = false)
    (value : Value) (table : Table) :
    (keys (assign key value table)).filter p = (keys table).filter p := by
  induction table with
  | nil => simp [keys, assign, dropped]
  | cons head rest inductionHypothesis =>
    obtain ⟨first, old⟩ := head
    rw [assign]
    split
    next same =>
      subst same
      rfl
    next differs =>
      simp only [keys, List.map_cons, List.filter_cons] at inductionHypothesis ⊢
      rw [inductionHypothesis]

end Toml.Table

namespace Settings

variable {β : Type} (rings : Registry β) (file values : Toml.Table)
  (environment : String → Option String)

/-! ## Layers -/

/-- The table of a file under the environment. -/
def overlay : Toml.Table :=
  Setting.all.foldl (fun table setting =>
    match environment setting.environmentName with
    | some text => Toml.Table.assign setting.key (.string text) table
    | none => table) file

theorem get?_overlay (setting : Setting) :
    Toml.Table.get? (overlay file environment) setting.key = given file environment setting := by
  -- The three keys differ, so each look-up passes the two other assignments.
  cases setting
  all_goals
    simp only [overlay, Setting.all, List.foldl_cons, List.foldl_nil, given]
    repeat' split
    all_goals simp_all [Toml.Table.get?_assign, Setting.key]

/-- The environment neither hides an unknown key nor adds one. -/
theorem unknownKeys_overlay :
    unknownKeys (overlay file environment) = unknownKeys file := by
  have kept : ∀ (setting : Setting) (value : Toml.Value) (table : Toml.Table),
      unknownKeys (Toml.Table.assign setting.key value table) = unknownKeys table := by
    intro setting value table
    refine Toml.Table.filter_keys_assign ?_ value table
    cases setting <;> rfl
  simp only [overlay, Setting.all, List.foldl_cons, List.foldl_nil]
  repeat' split
  all_goals simp only [kept]

theorem mem_unknownKeys {key : String} :
    key ∈ unknownKeys values ↔ key ∈ values.keys ∧ ∀ setting : Setting, key ≠ setting.key := by
  have foreign : (!(Setting.all.map Setting.key).contains key) = true ↔
      ∀ setting : Setting, key ≠ setting.key := by
    rw [Bool.not_eq_true', List.contains_eq_mem, decide_eq_false_iff_not, List.mem_map]
    refine ⟨fun noSetting setting same => noSetting ⟨setting, ?_, same.symm⟩, ?_⟩
    · cases setting <;> decide
    · rintro all ⟨setting, -, same⟩
      exact all setting same.symm
  rw [unknownKeys, List.mem_filter, foreign]
  rfl

/-! ## Valid tables -/

/-- Every key of a table is a setting, and its value is one for that setting. -/
structure Valid : Prop where
  key : ∀ key ∈ values.keys, ∃ setting : Setting, key = setting.key
  ring : ∀ value, Toml.Table.get? values Setting.ring.key = some value →
    ∃ name, value = .string name ∧ name ∈ rings.names
  logLevel : ∀ value, Toml.Table.get? values Setting.logLevel.key = some value →
    ∃ text level, value = .string text ∧ LogLevel.normalize text = LogLevel.name level
  caret : ∀ value, Toml.Table.get? values Setting.caret.key = some value →
    ∃ truth, value.truth = .ok truth

/-- The settings are those of a table where it has them, and the defaults elsewhere. -/
structure Holds (settings : Settings) : Prop where
  ring : Toml.Table.get? values Setting.ring.key = some (.string settings.ring) ∨
    Toml.Table.get? values Setting.ring.key = none ∧ settings.ring = "int"
  logLevel :
    (∃ text, Toml.Table.get? values Setting.logLevel.key = some (.string text) ∧
      LogLevel.normalize text = settings.logLevel.name) ∨
    Toml.Table.get? values Setting.logLevel.key = none ∧ settings.logLevel = .warning
  caret :
    (∃ value, Toml.Table.get? values Setting.caret.key = some value ∧
      value.truth = .ok settings.caret) ∨
    Toml.Table.get? values Setting.caret.key = none ∧ settings.caret = true

/-- What is wrong with a value for a setting. -/
inductive Fault : Setting → Toml.Value → Problem → Prop where
  | ringKind {value : Toml.Value} (kind : ∀ text, value ≠ .string text) :
      Fault .ring value (.notAString .ring)
  | ring {name : String} (unknown : name ∉ rings.names) :
      Fault .ring (.string name) (.unknownRing name)
  | logLevelKind {value : Toml.Value} (kind : ∀ text, value ≠ .string text) :
      Fault .logLevel value (.notAString .logLevel)
  | logLevel {text : String} (unknown : ∀ level, LogLevel.normalize text ≠ LogLevel.name level) :
      Fault .logLevel (.string text) (.unknownLevel text)
  | caret {value : Toml.Value} {fault : TruthFault} (untrue : value.truth = .error fault) :
      Fault .caret value (.notTruth fault)

/-- What is wrong with a table: a value, or a key that is no setting. -/
inductive Offends : Problem → Prop where
  | value {setting : Setting} {value : Toml.Value} {problem : Problem}
      (given : Toml.Table.get? values setting.key = some value)
      (fault : Fault rings setting value problem) : Offends problem
  | key {key : String} (present : key ∈ values.keys)
      (foreign : ∀ setting : Setting, key ≠ setting.key) : Offends (.unknownKey key)

variable {rings file values environment}

theorem Fault.key_eq {setting : Setting} {value : Toml.Value} {problem : Problem}
    (fault : Fault rings setting value problem) : problem.key = setting.key := by
  cases fault <;> rfl

/-! ### Checks -/

section

variable {value : Toml.Value} {problem : Problem}

theorem checkRing_eq_ok_iff {name : String} :
    checkRing rings.contains value = .ok name ↔ value = .string name ∧ name ∈ rings.names := by
  cases value with
  | string text =>
    by_cases known : text ∈ rings.names
    all_goals
      simp only [checkRing, Registry.contains, List.contains_eq_mem, known, decide_true,
        decide_false, if_true, Bool.false_eq_true, if_false]
      grind
  | _ => simp [checkRing]

theorem checkRing_eq_error_iff :
    checkRing rings.contains value = .error problem ↔ Fault rings .ring value problem := by
  constructor
  · intro refused
    cases value with
    | string text =>
      simp only [checkRing, Registry.contains, List.contains_eq_mem] at refused
      split at refused
      · cases refused
      next unknown =>
        cases refused
        exact .ring (by simpa using unknown)
    | _ =>
      cases refused
      exact .ringKind nofun
  · intro fault
    cases fault with
    | ringKind kind =>
      cases value with
      | string text => exact absurd rfl (kind text)
      | _ => rfl
    | ring unknown =>
      rw [checkRing, Registry.contains, List.contains_eq_mem, decide_eq_false unknown]
      rfl

theorem checkLogLevel_eq_ok_iff {level : LogLevel} :
    checkLogLevel value = .ok level ↔
      ∃ text, value = .string text ∧ LogLevel.normalize text = level.name := by
  simp only [← LogLevel.ofText?_eq_some_iff]
  cases value with
  | string text => cases found : LogLevel.ofText? text <;> simp [checkLogLevel, found]
  | _ => simp [checkLogLevel]

variable (rings) in
theorem checkLogLevel_eq_error_iff :
    checkLogLevel value = .error problem ↔ Fault rings .logLevel value problem := by
  constructor
  · intro refused
    cases value with
    | string text =>
      cases found : LogLevel.ofText? text with
      | some level =>
        rw [checkLogLevel, found] at refused
        cases refused
      | none =>
        rw [checkLogLevel, found] at refused
        cases refused
        refine .logLevel fun level named => ?_
        rw [LogLevel.ofText?_eq_some_iff.mpr named] at found
        cases found
    | _ =>
      cases refused
      exact .logLevelKind nofun
  · intro fault
    cases fault with
    | logLevelKind kind =>
      cases value with
      | string text => exact absurd rfl (kind text)
      | _ => rfl
    | @logLevel text unknown =>
      have missing : LogLevel.ofText? text = none := by
        rw [Option.eq_none_iff_forall_ne_some]
        exact fun level found => unknown level (LogLevel.ofText?_eq_some_iff.mp found)
      rw [checkLogLevel, missing]

theorem checkCaret_eq_ok_iff {truth : Bool} :
    checkCaret value = .ok truth ↔ value.truth = .ok truth := by
  unfold checkCaret
  cases value.truth <;> simp

variable (rings) in
theorem checkCaret_eq_error_iff :
    checkCaret value = .error problem ↔ Fault rings .caret value problem := by
  constructor
  · intro refused
    unfold checkCaret at refused
    cases found : value.truth with
    | ok truth =>
      rw [found] at refused
      cases refused
    | error fault =>
      rw [found] at refused
      cases refused
      exact .caret found
  · intro fault
    cases fault with
    | caret untrue => rw [checkCaret, untrue]

end

/-! ### Reports -/

section

variable {α : Type} {check : Toml.Value → Except Problem α} {default result : α}
  {value : Option Toml.Value} {problem : Problem}

theorem mem_problemOf_checked :
    problem ∈ problemOf (checked check default value) ↔
      ∃ given, value = some given ∧ check given = .error problem := by
  cases value with
  | none => simp [checked, problemOf]
  | some given => cases found : check given <;> simp [checked, problemOf, found, eq_comm]

theorem checked_eq_ok (accepted : checked check default value = .ok result) :
    (∃ given, value = some given ∧ check given = .ok result) ∨ value = none ∧ result = default := by
  cases value with
  | none =>
    cases accepted
    exact .inr ⟨rfl, rfl⟩
  | some given => exact .inl ⟨given, rfl, accepted⟩

variable (check default value) in
theorem sublist_problemOf_checked {key : String}
    (keyed : ∀ {given problem}, check given = .error problem → problem.key = key) :
    ((problemOf (checked check default value)).map Problem.key).Sublist [key] := by
  cases found : checked check default value with
  | ok result => exact List.nil_sublist _
  | error problem =>
    have member : problem ∈ problemOf (checked check default value) := by
      rw [found]
      exact List.mem_singleton_self problem
    obtain ⟨given, -, failed⟩ := mem_problemOf_checked.mp member
    rw [problemOf, List.map_singleton, keyed failed]

end

variable (rings values) in
/-- Everything that is wrong with a table, in the order in which it is reported. -/
def reports : List Problem :=
  problemOf (checked (checkRing rings.contains) "int"
      (Toml.Table.get? values Setting.ring.key)) ++
    problemOf (checked checkLogLevel .warning (Toml.Table.get? values Setting.logLevel.key)) ++
    problemOf (checked checkCaret true (Toml.Table.get? values Setting.caret.key)) ++
    (unknownKeys values).map Problem.unknownKey

theorem mem_reports {problem : Problem} :
    problem ∈ reports rings values ↔ Offends rings values problem := by
  simp only [reports, List.mem_append, mem_problemOf_checked, List.mem_map, mem_unknownKeys,
    checkRing_eq_error_iff, checkLogLevel_eq_error_iff rings,
    checkCaret_eq_error_iff rings]
  constructor
  · rintro (((⟨value, given, fault⟩ | ⟨value, given, fault⟩) | ⟨value, given, fault⟩) |
      ⟨key, ⟨present, foreign⟩, rfl⟩)
    · exact .value given fault
    · exact .value given fault
    · exact .value given fault
    · exact .key present foreign
  · intro offends
    cases offends with
    | @value setting value problem given fault =>
      cases setting with
      | ring => exact .inl (.inl (.inl ⟨value, given, fault⟩))
      | logLevel => exact .inl (.inl (.inr ⟨value, given, fault⟩))
      | caret => exact .inl (.inr ⟨value, given, fault⟩)
    | @key key present foreign => exact .inr ⟨key, ⟨present, foreign⟩, rfl⟩

theorem valid_iff_not_offends :
    Valid rings values ↔ ∀ problem, ¬ Offends rings values problem := by
  constructor
  · intro valid problem offends
    cases offends with
    | value given fault =>
      cases fault with
      | ringKind kind =>
        obtain ⟨name, same, -⟩ := valid.ring _ given
        exact kind name same
      | ring unknown =>
        obtain ⟨name, same, known⟩ := valid.ring _ given
        cases same
        exact unknown known
      | logLevelKind kind =>
        obtain ⟨text, -, same, -⟩ := valid.logLevel _ given
        exact kind text same
      | logLevel unknown =>
        obtain ⟨text, level, same, named⟩ := valid.logLevel _ given
        cases same
        exact unknown level named
      | caret untrue =>
        obtain ⟨truth, same⟩ := valid.caret _ given
        cases untrue.symm.trans same
    | key present foreign =>
      obtain ⟨setting, same⟩ := valid.key _ present
      exact foreign setting same
  · intro sound
    refine ⟨fun key present => ?_, fun value given => ?_, fun value given => ?_,
      fun value given => ?_⟩
    · refine Classical.byContradiction fun foreign => ?_
      exact sound _ (.key present fun setting same => foreign ⟨setting, same⟩)
    · cases result : checkRing rings.contains value with
      | ok name => exact ⟨name, checkRing_eq_ok_iff.mp result⟩
      | error problem =>
        exact absurd (.value given (checkRing_eq_error_iff.mp result)) (sound problem)
    · cases result : checkLogLevel value with
      | ok level =>
        obtain ⟨text, same, named⟩ := checkLogLevel_eq_ok_iff.mp result
        exact ⟨text, level, same, named⟩
      | error problem =>
        exact absurd (.value given ((checkLogLevel_eq_error_iff rings).mp result)) (sound problem)
    · cases result : checkCaret value with
      | ok truth => exact ⟨truth, checkCaret_eq_ok_iff.mp result⟩
      | error problem =>
        exact absurd (.value given ((checkCaret_eq_error_iff rings).mp result)) (sound problem)

variable (rings values) in
/-- The problems come in the order of the settings, then in that of the file. -/
theorem sublist_reports :
    ((reports rings values).map Problem.key).Sublist
      (Setting.all.map Setting.key ++ unknownKeys values) := by
  have ring := sublist_problemOf_checked (checkRing rings.contains) "int"
    (Toml.Table.get? values Setting.ring.key)
    fun failed => (checkRing_eq_error_iff.mp failed).key_eq
  have logLevel := sublist_problemOf_checked checkLogLevel .warning
    (Toml.Table.get? values Setting.logLevel.key)
    fun failed => ((checkLogLevel_eq_error_iff rings).mp failed).key_eq
  have caret := sublist_problemOf_checked checkCaret true
    (Toml.Table.get? values Setting.caret.key)
    fun failed => ((checkCaret_eq_error_iff rings).mp failed).key_eq
  have unknown : ((unknownKeys values).map Problem.unknownKey).map Problem.key =
      unknownKeys values := by
    rw [List.map_map]
    exact List.map_id _
  simp only [reports, List.map_append, unknown]
  exact ((ring.append logLevel).append caret).append (List.Sublist.refl _)

/-- Resolving comes to settings or to the reports on the table of both layers. -/
theorem resolve_cases (rings : Registry β) (file : Toml.Table)
    (environment : String → Option String) :
    (reports rings (overlay file environment) = [] ∧
      ∃ settings, Holds (overlay file environment) settings ∧
        resolve rings.contains file environment = .ok settings) ∨
    (reports rings (overlay file environment) ≠ [] ∧
      resolve rings.contains file environment =
        .error (reports rings (overlay file environment))) := by
  simp only [resolve, reports, ← get?_overlay, ← unknownKeys_overlay file environment]
  -- One failing check is enough for a report, whatever the checks behind it say.
  cases ring : checked (checkRing rings.contains) "int"
    (Toml.Table.get? (overlay file environment) Setting.ring.key) with
  | error problem => exact .inr ⟨by simp [problemOf], rfl⟩
  | ok name =>
    cases logLevel : checked checkLogLevel .warning
      (Toml.Table.get? (overlay file environment) Setting.logLevel.key) with
    | error problem => exact .inr ⟨by simp [problemOf], rfl⟩
    | ok level =>
      cases caret : checked checkCaret true
        (Toml.Table.get? (overlay file environment) Setting.caret.key) with
      | error problem => exact .inr ⟨by simp [problemOf], rfl⟩
      | ok shown =>
        cases unknown : unknownKeys (overlay file environment) with
        | cons key rest => exact .inr ⟨by simp [problemOf], rfl⟩
        | nil =>
          refine .inl ⟨rfl, ⟨name, level, shown⟩, ⟨?_, ?_, ?_⟩, rfl⟩
          · obtain ⟨value, given, accepted⟩ | ⟨missing, rfl⟩ := checked_eq_ok ring
            · obtain ⟨rfl, -⟩ := checkRing_eq_ok_iff.mp accepted
              exact .inl given
            · exact .inr ⟨missing, rfl⟩
          · obtain ⟨value, given, accepted⟩ | ⟨missing, rfl⟩ := checked_eq_ok logLevel
            · obtain ⟨text, rfl, named⟩ := checkLogLevel_eq_ok_iff.mp accepted
              exact .inl ⟨text, given, named⟩
            · exact .inr ⟨missing, rfl⟩
          · obtain ⟨value, given, accepted⟩ | ⟨missing, rfl⟩ := checked_eq_ok caret
            · exact .inl ⟨value, given, checkCaret_eq_ok_iff.mp accepted⟩
            · exact .inr ⟨missing, rfl⟩

/-- A table whose keys differ has no problem with a key that another problem is about. -/
theorem nodup_reports (distinct : file.keys.Nodup) :
    ((reports rings (overlay file environment)).map Problem.key).Nodup := by
  -- The keys of the settings are distinct, and no unknown key is one of them.
  refine (sublist_reports rings _).nodup ?_
  rw [unknownKeys_overlay, List.nodup_append]
  refine ⟨by decide, distinct.filter _, fun key named other unknown => ?_⟩
  rintro rfl
  obtain ⟨setting, -, same⟩ := List.mem_map.mp named
  exact ((mem_unknownKeys file).mp unknown).2 setting same.symm

/-- How settings come about.  The environment lies over the file, and settings are found if all that
is left is valid; they are those of the environment, else those of the file, else the defaults.
Otherwise there is a report on every problem and on nothing else: first on the settings, in their
order, then on the unknown keys, in the order of the file, and once for each key.  Loading settings
comes to this for the section that the configuration file holds, which has each key once. -/
theorem settings_of_layers (rings : Registry β) (file : Toml.Table)
    (environment : String → Option String) :
    (∀ setting : Setting, Toml.Table.get? (overlay file environment) setting.key =
      match environment setting.environmentName with
      | some text => some (.string text)
      | none => file.get? setting.key) ∧
    (∀ key, (∀ setting : Setting, key ≠ setting.key) →
      (key ∈ (overlay file environment).keys ↔ key ∈ file.keys)) ∧
    ((∃ settings, resolve rings.contains file environment = .ok settings) ↔
      Valid rings (overlay file environment)) ∧
    (∀ settings, resolve rings.contains file environment = .ok settings →
      Holds (overlay file environment) settings) ∧
    (∀ problems, resolve rings.contains file environment = .error problems →
      (∀ problem, problem ∈ problems ↔ Offends rings (overlay file environment) problem) ∧
      (problems.map Problem.key).Sublist
        (["ring", "log_level", "caret"] ++
          file.keys.filter fun key => !(["ring", "log_level", "caret"].contains key)) ∧
      (file.keys.Nodup → (problems.map Problem.key).Nodup)) ∧
    ∀ (surroundings : Surroundings) (path : Option String),
      surroundings.environment = environment →
      SectionInForce surroundings path file →
      file.keys.Nodup ∧ Settings.load rings.contains surroundings path =
        match resolve rings.contains file environment with
        | .ok settings => .ok settings
        | .error problems =>
          .error (.config (.invalidSettings problems
            (surroundings.runtime.settingsFault file environment problems))) := by
  have valid : Valid rings (overlay file environment) ↔
      reports rings (overlay file environment) = [] := by
    rw [valid_iff_not_offends, List.eq_nil_iff_forall_not_mem]
    simp only [mem_reports]
  refine ⟨get?_overlay file environment, ?_, ?_, ?_, ?_, ?_⟩
  · intro key foreign
    have unknown : ∀ table : Toml.Table, key ∈ unknownKeys table ↔ key ∈ table.keys :=
      fun table => (mem_unknownKeys table).trans (and_iff_left foreign)
    rw [← unknown, unknownKeys_overlay, unknown]
  · rw [valid]
    obtain ⟨noReports, settings, -, found⟩ | ⟨reported, refused⟩ :=
      resolve_cases rings file environment
    · exact ⟨fun _ => noReports, fun _ => ⟨settings, found⟩⟩
    · refine ⟨?_, fun noReports => absurd noReports reported⟩
      rintro ⟨settings, found⟩
      cases refused.symm.trans found
  · intro settings accepted
    obtain ⟨-, found, holds, same⟩ | ⟨-, refused⟩ := resolve_cases rings file environment
    · cases accepted.symm.trans same
      exact holds
    · cases refused.symm.trans accepted
  · intro problems refused
    obtain ⟨-, settings, -, found⟩ | ⟨-, same⟩ := resolve_cases rings file environment
    · cases refused.symm.trans found
    · cases refused.symm.trans same
      have ordered := sublist_reports rings (overlay file environment)
      rw [unknownKeys_overlay] at ordered
      exact ⟨fun problem => mem_reports, ordered, nodup_reports⟩
  · rintro surroundings path rfl holds
    refine ⟨holds.nodup_keys, ?_⟩
    rw [holds.load_eq]
    cases resolve rings.contains file surroundings.environment <;> rfl

/-- The environment hides the number that the file has for the ring, and no other problem: the word
for the level, its own word for the caret, and the two unknown keys are reported in order.  Without
the file, a level is found in the environment in any case of its letters. -/
theorem settings_of_layers_both :
    let rings : Registry Unit := Registry.empty.register "int" ()
    let file : Toml.Table :=
      [("precision", .integer 3), ("ring", .integer 7), ("log_level", .string "chatty"),
        ("scale", .boolean true)]
    let environment (entries : List (String × String)) : String → Option String :=
      fun name => entries.lookup name
    (∃ problems, resolve rings.contains file
        (environment [("RINGEXPR_RING", "int"), ("RINGEXPR_CARET", "")]) = .error problems ∧
      problems = [.unknownLevel "chatty", .notTruth .unreadable, .unknownKey "precision",
        .unknownKey "scale"] ∧
      (problems.map Problem.key).Nodup) ∧
    Settings.load rings.contains
      ⟨"/", fun _ => .missing, environment [("RINGEXPR_LOG_LEVEL", " Debug\t")], .plain⟩ none =
        .ok { logLevel := .debug } := by
  intro rings file environment
  constructor
  · obtain ⟨-, -, -, -, reported, -⟩ := settings_of_layers rings file
      (environment [("RINGEXPR_RING", "int"), ("RINGEXPR_CARET", "")])
    have refused : resolve rings.contains file
        (environment [("RINGEXPR_RING", "int"), ("RINGEXPR_CARET", "")]) =
          .error [.unknownLevel "chatty", .notTruth .unreadable, .unknownKey "precision",
            .unknownKey "scale"] := by decide +kernel
    exact ⟨_, refused, rfl, (reported _ refused).2.2 (by decide)⟩
  · obtain ⟨-, -, -, -, -, loaded⟩ := settings_of_layers rings []
      (environment [("RINGEXPR_LOG_LEVEL", " Debug\t")])
    have found : resolve rings.contains [] (environment [("RINGEXPR_LOG_LEVEL", " Debug\t")]) =
        .ok { logLevel := .debug } := by decide +kernel
    rw [(loaded _ none rfl (.absent rfl)).2, found]

end Settings

end RingCalc
