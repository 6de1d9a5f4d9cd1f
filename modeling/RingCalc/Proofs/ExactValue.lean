import RingCalc.Proofs.Evaluation
import RingCalc.Proofs.Ring.CheckedInt

/-!
# Checked evaluation and exact arithmetic

Over checked integers a tree either has its exact rational value or it fails, and the failure is
that of the first subexpression, operands before operations and left before right, whose exact value
is no integer of the range.  So a value that is given is never wrong.
-/

namespace RingCalc

variable {σ : Type}

/-! ## Exact values and faults -/

namespace Expr

/-- The value of a tree in exact rational arithmetic, where no division is by zero. -/
def rational? : Expr CheckedInt → Option ℚ
  | .leaf element => some element.val
  | .group inner => inner.rational?
  | .negate operand => operand.rational?.map fun value => 0 - value
  | .binary op left right =>
    left.rational?.bind fun first => right.rational?.bind fun second => op.rational? first second
  | .foreign _ => none

/-- The subexpressions of a tree, each after its own, those of the left operand first. -/
def postorder {α : Type} : Expr α → List (Expr α)
  | .leaf element => [.leaf element]
  | .group inner => inner.postorder ++ [.group inner]
  | .negate operand => operand.postorder ++ [.negate operand]
  | .binary op left right => left.postorder ++ right.postorder ++ [.binary op left right]
  | .foreign typeName => [.foreign typeName]

/-- The exact value of a tree is an integer of the range. -/
def InRange (expr : Expr CheckedInt) : Prop :=
  ∃ value : Int, expr.rational? = some (value : ℚ) ∧
    CheckedInt.minVal ≤ value ∧ value ≤ CheckedInt.maxVal

/-- What is wrong with a tree at its root. -/
inductive Faulty : Expr CheckedInt → EvalError → Prop where
  | divisionByZero {left right : Expr CheckedInt} (zero : right.rational? = some 0) :
      Faulty (.binary .div left right) (.ring .divisionByZero)
  | inexact {left right : Expr CheckedInt} {quotient : ℚ}
      (exact : (Expr.binary .div left right).rational? = some quotient)
      (fraction : ∀ value : Int, quotient ≠ value) :
      Faulty (.binary .div left right) (.ring .notInRing)
  | outside {expr : Expr CheckedInt} {value : Int} (exact : expr.rational? = some (value : ℚ))
      (outside : value < CheckedInt.minVal ∨ CheckedInt.maxVal < value) :
      Faulty expr (.ring .overflow)
  | foreign (typeName : String) : Faulty (.foreign typeName) (.unknownType typeName)

/-- The first tree of a list whose value is not in range has a given fault. -/
inductive FirstFault : List (Expr CheckedInt) → EvalError → Prop where
  | here {part : Expr CheckedInt} {error : EvalError} {rest : List (Expr CheckedInt)}
      (fault : part.Faulty error) : FirstFault (part :: rest) error
  | later {part : Expr CheckedInt} {error : EvalError} {rest : List (Expr CheckedInt)}
      (sound : part.InRange) (fault : FirstFault rest error) : FirstFault (part :: rest) error

/-! ## Faults exclude each other -/

theorem rational?_div_ne_some {left right : Expr CheckedInt} (zero : right.rational? = some 0)
    (value : ℚ) : (Expr.binary .div left right).rational? ≠ some value := by
  simp only [rational?, zero, Option.bind_some, Operator.rational?, if_true]
  cases left.rational? <;> exact nofun

theorem Faulty.not_inRange {expr : Expr CheckedInt} {error : EvalError}
    (fault : expr.Faulty error) : ¬ expr.InRange := by
  rintro ⟨value, found, least, most⟩
  cases fault with
  | divisionByZero zero => exact rational?_div_ne_some zero _ found
  | inexact exact fraction =>
    rw [exact] at found
    exact fraction value (Option.some.inj found)
  | @outside _ other exact outside =>
    rw [exact] at found
    have same : other = value := Int.cast_injective (Option.some.inj found)
    omega
  | foreign typeName => cases found

theorem Faulty.unique {expr : Expr CheckedInt} {first second : EvalError}
    (left : expr.Faulty first) (right : expr.Faulty second) : first = second := by
  cases left with
  | divisionByZero zero =>
    cases right with
    | divisionByZero _ => rfl
    | inexact exact _ | outside exact _ => exact absurd exact (rational?_div_ne_some zero _)
  | inexact exact fraction =>
    cases right with
    | divisionByZero zero => exact absurd exact (rational?_div_ne_some zero _)
    | inexact _ _ => rfl
    | outside whole _ => exact absurd (Option.some.inj (exact.symm.trans whole)) (fraction _)
  | outside whole _ =>
    cases right with
    | divisionByZero zero => exact absurd whole (rational?_div_ne_some zero _)
    | inexact exact fraction =>
      exact absurd (Option.some.inj (exact.symm.trans whole)) (fraction _)
    | outside _ _ => rfl
    | foreign typeName => cases whole
  | foreign typeName =>
    cases right with
    | outside exact _ => cases exact
    | foreign _ => rfl

theorem FirstFault.unique {parts : List (Expr CheckedInt)} {first second : EvalError}
    (left : FirstFault parts first) (right : FirstFault parts second) : first = second := by
  induction left with
  | here fault =>
    cases right with
    | here other => exact fault.unique other
    | later sound _ => exact absurd sound fault.not_inRange
  | later sound _ inductionHypothesis =>
    cases right with
    | here other => exact absurd sound other.not_inRange
    | later _ rest => exact inductionHypothesis rest

theorem FirstFault.not_all_inRange {parts : List (Expr CheckedInt)} {error : EvalError}
    (fault : FirstFault parts error) : ¬ ∀ part ∈ parts, part.InRange := by
  intro sound
  induction fault with
  | here fault => exact fault.not_inRange (sound _ List.mem_cons_self)
  | later _ _ inductionHypothesis =>
    exact inductionHypothesis fun part member => sound part (List.mem_cons_of_mem _ member)

theorem FirstFault.append_left {parts : List (Expr CheckedInt)} {error : EvalError}
    (fault : FirstFault parts error) (rest : List (Expr CheckedInt)) :
    FirstFault (parts ++ rest) error := by
  induction fault with
  | here fault => exact .here fault
  | later sound _ inductionHypothesis => exact .later sound inductionHypothesis

theorem FirstFault.append_right {parts rest : List (Expr CheckedInt)} {error : EvalError}
    (sound : ∀ part ∈ parts, part.InRange) (fault : FirstFault rest error) :
    FirstFault (parts ++ rest) error := by
  induction parts with
  | nil => exact fault
  | cons part parts inductionHypothesis =>
    rw [List.forall_mem_cons] at sound
    exact .later sound.1 (inductionHypothesis sound.2)

/-! ## Evaluation -/

/-- What evaluation makes of a tree: its exact value if every part of it is in range, and else the
first fault. -/
inductive Judged (expr : Expr CheckedInt) : Except EvalError CheckedInt → Prop where
  | sound {value : CheckedInt} (inRange : ∀ part ∈ expr.postorder, part.InRange)
      (exact : expr.rational? = some (value.val : ℚ)) : Judged expr (.ok value)
  | faulty {error : EvalError} (fault : FirstFault expr.postorder error) :
      Judged expr (.error error)

theorem inRange_of_rational? {expr : Expr CheckedInt} {value : CheckedInt}
    (exact : expr.rational? = some (value.val : ℚ)) : expr.InRange :=
  ⟨value.val, exact, value.min_le, value.le_max⟩

theorem judged_root {expr : Expr CheckedInt} {parts : List (Expr CheckedInt)} {error : EvalError}
    (sound : ∀ part ∈ parts, part.InRange) (fault : expr.Faulty error)
    (order : expr.postorder = parts ++ [expr]) : Judged expr (.error error) := by
  apply Judged.faulty
  rw [order]
  exact .append_right sound (.here fault)

/-- A root over sound parts is judged by the check of its exact value. -/
theorem judged_ofInt {expr : Expr CheckedInt} {parts : List (Expr CheckedInt)} {value : Int}
    (order : expr.postorder = parts ++ [expr]) (sound : ∀ part ∈ parts, part.InRange)
    (exact : expr.rational? = some (value : ℚ)) :
    Judged expr ((CheckedInt.ofInt value).mapError .ring) := by
  cases checked : CheckedInt.ofInt value with
  | ok element =>
    have same := CheckedInt.ofInt_eq_ok_iff.mp checked
    rw [← same] at exact
    refine .sound ?_ exact
    rw [order, List.forall_mem_append]
    exact ⟨sound, List.forall_mem_singleton.mpr (inRange_of_rational? exact)⟩
  | error error =>
    obtain ⟨rfl, outside⟩ := CheckedInt.ofInt_eq_error_iff.mp checked
    exact judged_root sound (.outside exact outside) order

theorem evalAction_steady {α : Type} (result : Except RingError α) (memory : σ) :
    evalAction (Action.steady result) memory = (result.mapError .ring, memory) := by
  cases result <;> rfl

theorem apply_judged (op : Operator) {left right : Expr CheckedInt} {first second : CheckedInt}
    (memory : σ) (sound : ∀ part ∈ left.postorder ++ right.postorder, part.InRange)
    (leftExact : left.rational? = some (first.val : ℚ))
    (rightExact : right.rational? = some (second.val : ℚ)) :
    ∃ result, evalAction ((CheckedInt.ring σ).apply op first second) memory = (result, memory) ∧
      Judged (.binary op left right) result := by
  have whole : (Expr.binary op left right).rational? = op.rational? first.val second.val := by
    rw [rational?, leftExact, rightExact]
    rfl
  by_cases integer : ∃ value : Int, op.rational? first.val second.val = some (value : ℚ)
  · obtain ⟨value, exact⟩ := integer
    rw [CheckedInt.apply_of_rational? exact]
    exact ⟨_, evalAction_steady _ memory, judged_ofInt rfl sound (whole.trans exact)⟩
  · -- Only divisions are left, by zero or with a fraction for their quotient.
    rw [not_exists] at integer
    obtain ⟨rfl, ⟨zero, applied⟩ | ⟨nonzero, applied⟩⟩ :=
      CheckedInt.apply_of_not_integer (σ := σ) integer
    · rw [zero, Int.cast_zero] at rightExact
      rw [applied]
      exact ⟨_, evalAction_steady _ memory, judged_root sound (.divisionByZero rightExact) rfl⟩
    · rw [CheckedInt.rational?_div_of_ne_zero first nonzero] at whole integer
      have fraction : ∀ value : Int, (first.val : ℚ) / second.val ≠ value := fun value same =>
        integer value (congrArg some same)
      rw [applied]
      exact ⟨_, evalAction_steady _ memory, judged_root sound (.inexact whole fraction) rfl⟩

theorem value_judged (expr : Expr CheckedInt) (memory : σ) :
    ∃ result, expr.value (CheckedInt.ring σ) memory = (result, memory) ∧ expr.Judged result := by
  induction expr generalizing memory with
  | leaf element =>
    refine ⟨.ok element, rfl, .sound ?_ rfl⟩
    exact List.forall_mem_singleton.mpr (inRange_of_rational? rfl)
  | group inner inductionHypothesis =>
    obtain ⟨result, found, judged⟩ := inductionHypothesis memory
    refine ⟨result, found, ?_⟩
    cases judged with
    | faulty fault => exact .faulty (fault.append_left _)
    | sound inRange exact =>
      refine .sound ?_ exact
      rw [postorder, List.forall_mem_append]
      exact ⟨inRange, List.forall_mem_singleton.mpr (inRange_of_rational? exact)⟩
  | negate operand inductionHypothesis =>
    obtain ⟨result, found, judged⟩ := inductionHypothesis memory
    simp only [value, found]
    cases judged with
    | faulty fault => exact ⟨_, rfl, .faulty (fault.append_left _)⟩
    | @sound element inRange exact =>
      refine ⟨_, evalAction_steady (CheckedInt.ofInt (0 - element.val)) memory, ?_⟩
      apply judged_ofInt rfl inRange
      rw [rational?, exact]
      push_cast
      rfl
  | binary op left right leftHypothesis rightHypothesis =>
    obtain ⟨leftResult, leftFound, leftJudged⟩ := leftHypothesis memory
    obtain ⟨rightResult, rightFound, rightJudged⟩ := rightHypothesis memory
    simp only [value, leftFound]
    -- The right operand is evaluated only after a sound left one, so the first fault of the left
    -- operand is that of the whole tree.
    cases leftJudged with
    | faulty fault => exact ⟨_, rfl, .faulty ((fault.append_left _).append_left _)⟩
    | @sound first leftSound leftExact =>
      simp only [rightFound]
      cases rightJudged with
      | faulty fault => exact ⟨_, rfl, .faulty ((fault.append_right leftSound).append_left _)⟩
      | @sound second rightSound rightExact =>
        exact apply_judged op memory (List.forall_mem_append.mpr ⟨leftSound, rightSound⟩)
          leftExact rightExact
  | foreign typeName => exact ⟨_, rfl, .faulty (.here (.foreign typeName))⟩

end Expr

/-- Checked evaluation is exact arithmetic.  A tree has a value just where all its parts are in
range, and then it is the exact one; else its error is that of the first part that is not. -/
theorem evaluate_exact (expr : Expr CheckedInt) (memory : σ) :
    (∀ value, evaluate (CheckedInt.ring σ) expr memory = (.ok value, memory) ↔
      (∀ part ∈ expr.postorder, part.InRange) ∧ expr.rational? = some (value.val : ℚ)) ∧
    (∀ error, evaluate (CheckedInt.ring σ) expr memory = (.error (.refused error), memory) ↔
      Expr.FirstFault expr.postorder error) ∧
    ((∃ value, evaluate (CheckedInt.ring σ) expr memory = (.ok value, memory)) ∨
      ∃ error, evaluate (CheckedInt.ring σ) expr memory = (.error (.refused error), memory)) := by
  obtain ⟨result, found, judged⟩ := expr.value_judged memory
  have outcome : evaluate (CheckedInt.ring σ) expr memory =
      (result.mapError .refused, memory) := by
    rw [evaluate_eq_value, found]
  rw [outcome]
  cases judged with
  | @sound element inRange exact =>
    refine ⟨fun value => ?_, fun error => ?_, .inl ⟨element, rfl⟩⟩
    · constructor
      · rintro ⟨⟩
        exact ⟨inRange, exact⟩
      · rintro ⟨_, other⟩
        have same : element.val = value.val :=
          Int.cast_injective (Option.some.inj (exact.symm.trans other))
        rw [CheckedInt.ext same]
        rfl
    · exact ⟨fun failed => (by cases failed), fun fault => absurd inRange fault.not_all_inRange⟩
  | @faulty error fault =>
    refine ⟨fun value => ?_, fun other => ?_, .inr ⟨error, rfl⟩⟩
    · exact ⟨fun succeeded => (by cases succeeded),
        fun sound => absurd sound.1 fault.not_all_inRange⟩
    · constructor
      · rintro ⟨⟩
        exact fault
      · intro same
        rw [fault.unique same]
        rfl

end RingCalc
