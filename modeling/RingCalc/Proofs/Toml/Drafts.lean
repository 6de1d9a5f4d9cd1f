import RingCalc.Toml.Reader

/-!
# Drafts keep their keys apart

A table has each of its keys once, and so has every table in it.  Every change of a draft keeps
that, for a change of what a key stands for never writes the key a second time.

Readers are specified by what their values are like and by the two failures that matter.  An integer
is too long only in a text that is longer still, and values are nested too deeply only in a text that
opens many arrays and tables.
-/

namespace RingCalc.Toml

/-! ## Distinct keys -/

/-- The keys of every table in a value are distinct. -/
inductive Value.Distinct : Value → Prop where
  | string (text : String) : Distinct (.string text)
  | integer (number : Int) : Distinct (.integer number)
  | floating (number : Floating) : Distinct (.floating number)
  | boolean (truth : Bool) : Distinct (.boolean truth)
  | moment (moment : Moment) : Distinct (.moment moment)
  | array {items : List Value} (values : ∀ item ∈ items, Distinct item) : Distinct (.array items)
  | table {entries : Table} (keys : (entries.map (·.1)).Nodup)
      (values : ∀ entry ∈ entries, Distinct entry.2) : Distinct (.table entries)

/-- The keys of every table that a node holds are distinct. -/
inductive Node.Distinct : Node → Prop where
  | value {finished : Value} (distinct : finished.Distinct) : Distinct (.value finished)
  | table {origin : Origin} {entries : Draft} (keys : (entries.map (·.1)).Nodup)
      (nodes : ∀ entry ∈ entries, Distinct entry.2) : Distinct (.table origin entries)
  | tables {earlier : List Value} {latest : Draft} (values : ∀ value ∈ earlier, value.Distinct)
      (keys : (latest.map (·.1)).Nodup) (nodes : ∀ entry ∈ latest, Distinct entry.2) :
      Distinct (.tables earlier latest)

structure Draft.Distinct (draft : Draft) : Prop where
  keys : (draft.map (·.1)).Nodup
  nodes : ∀ entry ∈ draft, entry.2.Distinct

theorem Node.finishAll_eq_map (draft : Draft) :
    finishAll draft = draft.map fun entry => (entry.1, entry.2.finish) := by
  induction draft with
  | nil => rfl
  | cons entry rest inductionHypothesis =>
    rw [finishAll, inductionHypothesis, List.map_cons]

theorem Value.distinct_finishAll {draft : Draft} (keys : (draft.map (·.1)).Nodup)
    (nodes : ∀ entry ∈ draft, entry.2.finish.Distinct) :
    Distinct (.table (Node.finishAll draft)) := by
  rw [Node.finishAll_eq_map]
  refine .table ?_ fun entry member => ?_
  · rwa [List.map_map]
  · obtain ⟨source, here, rfl⟩ := List.mem_map.mp member
    exact nodes source here

theorem Node.Distinct.finish {node : Node} (distinct : node.Distinct) :
    node.finish.Distinct := by
  induction distinct with
  | value finished => exact finished
  | table keys _ finished => exact Value.distinct_finishAll keys finished
  | tables values keys _ finished =>
    refine .array fun item member => ?_
    obtain earlier | latest := List.mem_append.mp member
    · exact values item earlier
    · obtain rfl := List.mem_singleton.mp latest
      exact Value.distinct_finishAll keys finished

namespace Draft

theorem Distinct.nil : Distinct [] := ⟨List.nodup_nil, nofun⟩

theorem distinct_cons {key : String} {node : Node} {rest : Draft} :
    Distinct ((key, node) :: rest) ↔
      key ∉ rest.map (·.1) ∧ node.Distinct ∧ Distinct rest := by
  constructor
  · rintro ⟨keys, nodes⟩
    obtain ⟨absent, keys⟩ := List.nodup_cons.mp keys
    obtain ⟨node, nodes⟩ := List.forall_mem_cons.mp nodes
    exact ⟨absent, node, keys, nodes⟩
  · rintro ⟨absent, node, keys, nodes⟩
    exact ⟨List.nodup_cons.mpr ⟨absent, keys⟩, List.forall_mem_cons.mpr ⟨node, nodes⟩⟩

theorem Distinct.finish {draft : Draft} (distinct : draft.Distinct) :
    Value.Distinct (.table (Node.finishAll draft)) :=
  Value.distinct_finishAll distinct.keys fun entry member => (distinct.nodes entry member).finish

theorem Distinct.table {draft : Draft} (distinct : draft.Distinct) (origin : Origin) :
    Node.Distinct (.table origin draft) :=
  .table distinct.keys distinct.nodes

theorem Distinct.of_table {origin : Origin} {draft : Draft}
    (distinct : Node.Distinct (.table origin draft)) : draft.Distinct := by
  cases distinct with
  | table keys nodes => exact ⟨keys, nodes⟩

end Draft

/-! ## Reading well -/

/-- The places of a text where an array or a table may be opened. -/
def openings (text : List Char) : Nat := text.countP fun c => c == '[' || c == '\x7b'

/-- Reading part of a text with some room goes well: it gives a good value, or the document is
invalid, or an integer is too long, and then the text is long, or values are nested too deeply, and
then the text has more openings than there is room for. -/
inductive Reads {α : Type} (room : Nat) (text : List Char) (good : α → Prop) :
    Except ReadError α → Prop where
  | ok {value : α} (holds : good value) : Reads room text good (.ok value)
  | invalid : Reads room text good (.error .invalid)
  | integerTooLong (long : maxIntegerDigits < text.length) :
      Reads room text good (.error .integerTooLong)
  | tooDeep (deep : room < tableCalls * openings text) : Reads room text good (.error .tooDeep)

namespace Reads

variable {α β : Type} {room left calls : Nat} {text part : List Char} {good : α → Prop}
  {result : Except ReadError α}

theorem within (reads : Reads room part good result) (smaller : part.Sublist text) :
    Reads room text good result := by
  cases reads with
  | ok holds => exact .ok holds
  | invalid => exact .invalid
  | integerTooLong long => exact .integerTooLong (Nat.lt_of_lt_of_le long smaller.length_le)
  | tooDeep deep =>
    have fewer : openings part ≤ openings text := smaller.countP_le
    exact .tooDeep (Nat.lt_of_lt_of_le deep (Nat.mul_le_mul_left tableCalls fewer))

/-- What is read without room from nothing never fails but for an invalid document. -/
theorem anywhere (reads : Reads 0 [] good result) : Reads room text good result := by
  cases reads with
  | ok holds => exact .ok holds
  | invalid => exact .invalid
  | integerTooLong long => exact absurd long (Nat.not_lt_zero _)
  | tooDeep deep => exact absurd deep (Nat.not_lt_zero _)

/-- A failure is the same whatever was to be read. -/
theorem failure {error : ReadError} {goal : β → Prop}
    (reads : Reads room text good (.error error)) : Reads room text goal (.error error) := by
  cases reads with
  | invalid => exact .invalid
  | integerTooLong long => exact .integerTooLong long
  | tooDeep deep => exact .tooDeep deep

theorem weaken {better : α → Prop} (reads : Reads room text good result)
    (holds : ∀ value, good value → better value) : Reads room text better result := by
  cases result with
  | ok value =>
    cases reads with
    | ok given => exact .ok (holds value given)
  | error _ => exact reads.failure

theorem bind {next : α → Except ReadError β} {goal : β → Prop} (reads : Reads room text good result)
    (goesOn : ∀ value, good value → Reads room text goal (next value)) :
    Reads room text goal (result >>= next) := by
  cases result with
  | ok value =>
    cases reads with
    | ok holds => exact goesOn value holds
  | error _ => exact reads.failure

theorem map {change : α → β} {goal : β → Prop} (reads : Reads room text good result)
    (holds : ∀ value, good value → goal (change value)) :
    Reads room text goal (change <$> result) := by
  have changed := reads.bind fun value given => Reads.ok (holds value given)
  cases result <;> exact changed

/-- A text that begins with an opening has room for the calls to the value inside. -/
theorem roomAfter {c : Char} (opens : (c == '[' || c == '\x7b') = true)
    (few : calls ≤ tableCalls) :
    Reads room (c :: text) (fun left => left + calls = room) (roomAfter calls room) := by
  have opened : 0 < openings (c :: text) := List.countP_pos_iff.mpr ⟨c, List.mem_cons_self, opens⟩
  unfold Toml.roomAfter
  split
  next enough => exact .ok (Nat.sub_add_cancel enough)
  next short =>
    have most := Nat.mul_le_mul_left tableCalls opened
    exact .tooDeep (by omega)

/-- What is read behind an opening with the room that is left there is read well in the whole. -/
theorem inside {c : Char} (opens : (c == '[' || c == '\x7b') = true) (few : calls ≤ tableCalls)
    (spent : left + calls = room) (reads : Reads left text good result) :
    Reads room (c :: text) good result := by
  cases reads with
  | ok holds => exact .ok holds
  | invalid => exact .invalid
  | integerTooLong long => exact .integerTooLong (Nat.lt_succ_of_lt long)
  | tooDeep deep =>
    have opened : openings (c :: text) = openings text + 1 := List.countP_cons_of_pos opens
    exact .tooDeep (by rw [opened, Nat.mul_add]; omega)

end Reads

/-! ## Changes -/

namespace Draft

variable {room : Nat} {text : List Char} {key : String} {draft : Draft}

/-- A change may put its key last, but never a second time. -/
theorem reads_update {change : Option Node → Except ReadError Node}
    (fresh : Reads room text Node.Distinct (change none))
    (changed : ∀ node, node.Distinct → Reads room text Node.Distinct (change (some node)))
    (distinct : draft.Distinct) :
    Reads room text (fun after => Distinct after ∧
      ∀ other ∈ after.map (·.1), other = key ∨ other ∈ draft.map (·.1))
      (draft.update key change) := by
  induction draft with
  | nil =>
    refine fresh.bind fun node sound => .ok ⟨?_, ?_⟩
    · exact distinct_cons.mpr ⟨List.not_mem_nil, sound, .nil⟩
    · exact fun other member => .inl (List.mem_singleton.mp member)
  | cons entry rest inductionHypothesis =>
    obtain ⟨other, node⟩ := entry
    obtain ⟨absent, here, behind⟩ := distinct_cons.mp distinct
    rw [update]
    split
    next same =>
      subst same
      refine (changed node here).bind fun after sound => .ok ⟨?_, ?_⟩
      · exact distinct_cons.mpr ⟨absent, sound, behind⟩
      · exact fun _ member => .inr member
    next differs =>
      refine (inductionHypothesis behind).bind fun after ⟨sound, known⟩ => .ok ⟨?_, ?_⟩
      · refine distinct_cons.mpr ⟨fun member => ?_, here, sound⟩
        exact (known other member).elim differs absent
      · intro name member
        obtain rfl | member := List.mem_cons.mp member
        · exact .inr List.mem_cons_self
        · exact (known name member).imp_right (List.mem_cons_of_mem other)

/-- What a change must do for the drafts along a path to keep their keys apart. -/
abbrev Keeps (room : Nat) (text : List Char) (change : Draft → Except ReadError Draft) : Prop :=
  ∀ draft, Distinct draft → Reads room text Distinct (change draft)

theorem keeps_update {change : Option Node → Except ReadError Node}
    (fresh : Reads room text Node.Distinct (change none))
    (changed : ∀ node, node.Distinct → Reads room text Node.Distinct (change (some node))) :
    Keeps room text (update key change) :=
  fun _ distinct => (reads_update fresh changed distinct).weaken fun _ => And.left

theorem keeps_put {value : Value} (distinct : value.Distinct) : Keeps room text (put key value) :=
  keeps_update (.ok (.value distinct)) fun _ _ => .invalid

theorem keeps_openTable : Keeps room text (openTable key) := by
  refine keeps_update (.ok (Distinct.nil.table .header)) fun node distinct => ?_
  match node, distinct with
  | .table .implied entries, distinct => exact .ok ((Distinct.of_table distinct).table .header)
  | .table .header _, _ | .table (.dotted _) _, _ | .value _, _ | .tables _ _, _ => exact .invalid

theorem keeps_addTable : Keeps room text (addTable key) := by
  refine keeps_update (.ok (.tables nofun List.nodup_nil nofun)) fun node distinct => ?_
  cases distinct with
  | value _ => exact .invalid
  | table _ _ => exact .invalid
  | @tables earlier latest values keys nodes =>
    refine .ok (.tables (fun value member => ?_) List.nodup_nil nofun)
    obtain before | last := List.mem_append.mp member
    · exact values value before
    · obtain rfl := List.mem_singleton.mp last
      exact Distinct.finish ⟨keys, nodes⟩

theorem keeps_alongHeader {change : Draft → Except ReadError Draft} (keeps : Keeps room text change)
    (path : List String) : Keeps room text (alongHeader path change) := by
  induction path with
  | nil => exact keeps
  | cons key path inductionHypothesis =>
    refine keeps_update ?_ fun node distinct => ?_
    · exact (inductionHypothesis [] .nil).map fun entries sound => sound.table .implied
    · cases distinct with
      | value _ => exact .invalid
      | @table origin entries keys nodes =>
        exact (inductionHypothesis entries ⟨keys, nodes⟩).map fun _ sound => sound.table origin
      | @tables earlier latest values keys nodes =>
        exact (inductionHypothesis latest ⟨keys, nodes⟩).map fun _ sound =>
          .tables values sound.keys sound.nodes

theorem keeps_alongDots {change : Draft → Except ReadError Draft} (keeps : Keeps room text change)
    (part : Nat) (path : List String) : Keeps room text (alongDots part path change) := by
  induction path with
  | nil => exact keeps
  | cons key path inductionHypothesis =>
    have within : ∀ entries, Distinct entries →
        Reads room text Node.Distinct
          (.table (.dotted part) <$> alongDots part path change entries) :=
      fun entries distinct =>
        (inductionHypothesis entries distinct).map fun _ sound => sound.table (.dotted part)
    refine keeps_update (within [] .nil) fun node distinct => ?_
    match node, distinct with
    | .table .implied entries, distinct => exact within entries (.of_table distinct)
    | .table (.dotted earlier) entries, distinct =>
      dsimp only
      split
      · exact within entries (.of_table distinct)
      · exact .invalid
    | .table .header _, _ | .value _, _ | .tables _ _, _ => exact .invalid

end Draft

end RingCalc.Toml
