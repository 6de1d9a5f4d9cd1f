import RingCalc.Proofs.Toml.Reading
import RingCalc.Settings.Load

/-!
# Sections of a configuration file

What a configuration file comes to: a section, which has each key once, or a report on why there is
none, or one of four failures that are not reported.  The state of the file decides which, and for a
file that is missing whether it was asked for.
-/

namespace RingCalc

/-! ## Tables -/

namespace Toml.Table

def keys (table : Table) : List String := table.map (·.1)

theorem get?_cons (key other : String) (value : Value) (rest : Table) :
    get? ((other, value) :: rest) key = if key = other then some value else get? rest key := by
  rw [get?, List.lookup_cons]
  split
  next same => rw [if_pos (beq_iff_eq.mp same)]
  next differs => rw [if_neg (by simpa using differs), get?]

theorem mem_of_get? {table : Table} {key : String} {value : Value}
    (given : get? table key = some value) : (key, value) ∈ table := by
  induction table with
  | nil => cases given
  | cons head rest inductionHypothesis =>
    obtain ⟨first, old⟩ := head
    rw [get?_cons] at given
    split at given
    next same =>
      subst same
      cases given
      exact List.mem_cons_self
    · exact List.mem_cons_of_mem (first, old) (inductionHypothesis given)

end Toml.Table

/-! ## Reading a section -/

section

variable (runtime : Runtime) (file : ConfigFile)

/-- The section that a file in a state holds.  It is empty where the document has none, and where
there is no file and none was asked for. -/
inductive HoldsSection : FileState → Toml.Table → Prop where
  | absent (optional : file.required = false) : HoldsSection .missing []
  | without {bytes : ByteArray} {source : String} {document : Toml.Table}
      (decoded : String.fromUTF8? bytes = some source)
      (read : Toml.read runtime.room source = .ok document)
      (missing : document.get? ConfigFile.sectionKey = none) : HoldsSection (.file bytes) []
  | within {bytes : ByteArray} {source : String} {document entries : Toml.Table}
      (decoded : String.fromUTF8? bytes = some source)
      (read : Toml.read runtime.room source = .ok document)
      (given : document.get? ConfigFile.sectionKey = some (.table entries)) :
      HoldsSection (.file bytes) entries

/-- What is reported of a file in a state that holds no section. -/
inductive Misread : FileState → ConfigError → Prop where
  | notFound (required : file.required = true) : Misread .missing (.notFound file.path)
  | unopened (error : SystemError) : Misread (.unopened error) (.unopened file.path error)
  | invalidDocument {bytes : ByteArray} {source : String}
      (decoded : String.fromUTF8? bytes = some source)
      (invalid : Toml.read runtime.room source = .error .invalid) :
      Misread (.file bytes) (.invalidDocument file.path (runtime.documentFault source))
  | notATable {bytes : ByteArray} {source : String} {document : Toml.Table} {value : Toml.Value}
      (decoded : String.fromUTF8? bytes = some source)
      (read : Toml.read runtime.room source = .ok document)
      (given : document.get? ConfigFile.sectionKey = some value)
      (kind : ∀ entries, value ≠ .table entries) :
      Misread (.file bytes) (.notATable file.path)

/-- Why the file in a state cannot be read, beyond what is reported: it cannot be told whether it is
there, it has bytes that are no text, or an integer that is too long, or values that are nested too
deeply. -/
inductive Unreadable : FileState → LoadFailure → Prop where
  | unreachable (error : SystemError) : Unreadable (.unreachable error) (.unreachable error)
  | undecodable {bytes : ByteArray} (undecoded : String.fromUTF8? bytes = none) :
      Unreadable (.file bytes) .undecodable
  | integerTooLong {bytes : ByteArray} {source : String}
      (decoded : String.fromUTF8? bytes = some source)
      (tooLong : Toml.read runtime.room source = .error .integerTooLong) :
      Unreadable (.file bytes) .integerTooLong
  | tooDeep {bytes : ByteArray} {source : String}
      (decoded : String.fromUTF8? bytes = some source)
      (deep : Toml.read runtime.room source = .error .tooDeep) :
      Unreadable (.file bytes) .tooDeep

end

section

variable {runtime : Runtime} {file : ConfigFile} {state : FileState} {entries : Toml.Table}
  {error : ConfigError} {failure : LoadFailure}

theorem HoldsSection.readSection (holds : HoldsSection runtime file state entries) :
    file.readSection runtime state = .ok entries := by
  cases holds with
  | absent optional => simp only [ConfigFile.readSection, optional, Bool.false_eq_true, if_false]
  | without decoded read missing =>
    simp only [ConfigFile.readSection, ConfigFile.sectionOfBytes, decoded, read,
      ConfigFile.sectionOf, missing]
  | within decoded read given =>
    simp only [ConfigFile.readSection, ConfigFile.sectionOfBytes, decoded, read,
      ConfigFile.sectionOf, given]

theorem Misread.readSection (misread : Misread runtime file state error) :
    file.readSection runtime state = .error (.config error) := by
  cases misread with
  | notFound required => simp only [ConfigFile.readSection, required, if_true]
  | unopened _ => rfl
  | invalidDocument decoded invalid =>
    simp only [ConfigFile.readSection, ConfigFile.sectionOfBytes, decoded, invalid]
  | @notATable bytes source document value decoded read given kind =>
    simp only [ConfigFile.readSection, ConfigFile.sectionOfBytes, decoded, read,
      ConfigFile.sectionOf, given]

theorem Unreadable.readSection (unreadable : Unreadable runtime state failure)
    (file : ConfigFile) : file.readSection runtime state = .error failure := by
  cases unreadable with
  | unreachable _ => rfl
  | undecodable undecoded =>
    simp only [ConfigFile.readSection, ConfigFile.sectionOfBytes, undecoded]
  | integerTooLong decoded tooLong =>
    simp only [ConfigFile.readSection, ConfigFile.sectionOfBytes, decoded, tooLong]
  | tooDeep decoded deep =>
    simp only [ConfigFile.readSection, ConfigFile.sectionOfBytes, decoded, deep]

/-- There is no fourth thing that reading can come to. -/
theorem section_cases (runtime : Runtime) (file : ConfigFile) (state : FileState) :
    (∃ entries, HoldsSection runtime file state entries) ∨
      (∃ error, Misread runtime file state error) ∨
      ∃ failure, Unreadable runtime state failure := by
  cases state with
  | missing =>
    cases required : file.required with
    | false => exact .inl ⟨_, .absent required⟩
    | true => exact .inr (.inl ⟨_, .notFound required⟩)
  | unreachable error => exact .inr (.inr ⟨_, .unreachable error⟩)
  | unopened error => exact .inr (.inl ⟨_, .unopened error⟩)
  | file bytes =>
    cases decoded : String.fromUTF8? bytes with
    | none => exact .inr (.inr ⟨_, .undecodable decoded⟩)
    | some source =>
      cases read : Toml.read runtime.room source with
      | error reason =>
        cases reason with
        | invalid => exact .inr (.inl ⟨_, .invalidDocument decoded read⟩)
        | integerTooLong => exact .inr (.inr ⟨_, .integerTooLong decoded read⟩)
        | tooDeep => exact .inr (.inr ⟨_, .tooDeep decoded read⟩)
      | ok document =>
        cases given : document.get? ConfigFile.sectionKey with
        | none => exact .inl ⟨_, .without decoded read given⟩
        | some value =>
          cases value with
          | table entries => exact .inl ⟨_, .within decoded read given⟩
          | _ => exact .inr (.inl ⟨_, .notATable decoded read given nofun⟩)

/-- The section of a file has each of its keys once. -/
theorem HoldsSection.nodup_keys (holds : HoldsSection runtime file state entries) :
    entries.keys.Nodup := by
  cases holds with
  | absent _ => exact List.nodup_nil
  | without _ _ _ => exact List.nodup_nil
  | within decoded read given =>
    cases Toml.distinct_of_read read with
    | table _ values =>
      cases values _ (Toml.Table.mem_of_get? given) with
      | table keys _ => exact keys

theorem Unreadable.ne_config (unreadable : Unreadable runtime state failure)
    (error : ConfigError) : failure ≠ .config error := by
  cases unreadable <;> exact nofun

/-- A text that is short and opens few arrays and tables can be read. -/
theorem not_unreadable_of_small {bytes : ByteArray} {source : String}
    (decoded : String.fromUTF8? bytes = some source)
    (short : source.length ≤ Toml.maxIntegerDigits)
    (flat : Toml.tableCalls * Toml.openings source.toList ≤ runtime.room) :
    ¬ Unreadable runtime (.file bytes) failure := by
  intro unreadable
  cases unreadable with
  | undecodable undecoded => cases decoded.symm.trans undecoded
  | integerTooLong same tooLong =>
    cases decoded.symm.trans same
    exact absurd (Toml.long_of_integerTooLong tooLong) (Nat.not_lt.mpr short)
  | tooDeep same deep =>
    cases decoded.symm.trans same
    exact absurd (Toml.deep_of_tooDeep deep) (Nat.not_lt.mpr flat)

theorem fromUTF8?_toUTF8 (source : String) : String.fromUTF8? source.toUTF8 = some source :=
  dif_pos (String.isValidUTF8 _)

theorem unreadable_of_digits {digits : List Char} (all : ∀ c ∈ digits, c.isDigit = true)
    (lead : digits.head? ≠ some '0') (many : Toml.maxIntegerDigits < digits.length) :
    Unreadable runtime (.file (String.ofList ('n' :: '=' :: digits)).toUTF8) .integerTooLong :=
  .integerTooLong (fromUTF8?_toUTF8 _) (Toml.read_of_digits all lead many)

theorem unreadable_of_brackets {depth : Nat} (deep : runtime.room < Toml.arrayCalls * depth)
    (rest : List Char) :
    Unreadable runtime
      (.file (String.ofList ('n' :: '=' :: (List.replicate (depth + 1) '[' ++ rest))).toUTF8)
      .tooDeep :=
  .tooDeep (fromUTF8?_toUTF8 _) (Toml.read_of_brackets deep rest)

end

/-- What is found in the place of the configuration file. -/
abbrev FileState.chosen (surroundings : Surroundings) (path : Option String) : FileState :=
  surroundings.file (ConfigFile.choose surroundings path).path

/-- A section is that of the configuration file. -/
abbrev SectionInForce (surroundings : Surroundings) (path : Option String) : Toml.Table → Prop :=
  HoldsSection surroundings.runtime (.choose surroundings path) (.chosen surroundings path)

theorem HoldsSection.load_eq {surroundings : Surroundings} {path : Option String}
    {entries : Toml.Table} (holds : SectionInForce surroundings path entries)
    (knows : String → Bool) :
    Settings.load knows surroundings path =
      (Settings.resolve knows entries surroundings.environment).mapError fun problems =>
        .config (.invalidSettings problems
          (surroundings.runtime.settingsFault entries surroundings.environment problems)) := by
  simp only [Settings.load, holds.readSection]
  cases Settings.resolve knows entries surroundings.environment <;> rfl

end RingCalc
