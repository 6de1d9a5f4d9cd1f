import RingCalc.Expr.Canonical

/-!
# The grammar of expressions

A canonical tree is the reading of a sentence in which multiplication and division bind tighter than
addition and subtraction, and operators of one precedence associate to the left.  Attaching an
operator and an atom to the right of a canonical tree keeps it canonical, with the symbols in order;
so every sentence has a canonical tree, and the symbols of a canonical tree are a sentence.
-/

namespace RingCalc

variable {α : Type}

/-! ## Canonical trees -/

namespace Expr

/-- Whether a tree can stand as the right operand of every operator. -/
def isSealed (expr : Expr α) : Bool := expr.isAtom && expr.isCanonical false

theorem isAtom_of_isSealed {expr : Expr α} (sealed : expr.isSealed = true) :
    expr.isAtom = true := by
  rw [isSealed, Bool.and_eq_true] at sealed
  exact sealed.1

theorem isCanonical_of_isSealed {expr : Expr α} (sealed : expr.isSealed = true) (atFront : Bool) :
    expr.isCanonical atFront = true := by
  cases expr <;> simp_all [isSealed, isAtom, isCanonical]

theorem bindsFrom_of_isSealed {expr : Expr α} (sealed : expr.isSealed = true) (op : Operator) :
    expr.bindsFrom (op.precedence + 1) = true := by
  have low := op.precedence_le_one
  cases expr <;> simp_all [isSealed, isAtom, bindsFrom, precedence, atomicPrecedence]
  all_goals omega

theorem isSealed_group {inner : Expr α} (canonical : inner.isCanonical true = true) :
    (Expr.group inner).isSealed = true :=
  canonical

theorem isCanonical_negate {operand : Expr α} (sealed : operand.isSealed = true) :
    (Expr.negate operand).isCanonical true = true :=
  sealed

theorem bindsFrom_of_le {expr : Expr α} {least most : Nat} (le : least ≤ most)
    (binds : expr.bindsFrom most = true) : expr.bindsFrom least = true := by
  simp only [bindsFrom, decide_eq_true_eq] at binds ⊢
  omega

theorem isCanonical_attach {left right : Expr α} {atFront : Bool} (op : Operator)
    (canonical : left.isCanonical atFront = true) (sealed : right.isSealed = true) :
    (left.attach op right).isCanonical atFront = true := by
  have rightCanonical := isCanonical_of_isSealed sealed false
  have rightBinds := bindsFrom_of_isSealed sealed op
  by_cases tight : op.precedence ≤ left.precedence
  · have leftBinds : left.bindsFrom op.precedence = true := decide_eq_true tight
    rw [attach_of_le tight, isCanonical, leftBinds, rightBinds, canonical, rightCanonical]
    rfl
  · have low := op.precedence_le_one
    cases left with
    | binary looser first second =>
      have loose : looser.precedence < op.precedence := Nat.lt_of_not_le tight
      simp only [isCanonical, Bool.and_eq_true] at canonical
      obtain ⟨⟨⟨firstBinds, secondBinds⟩, firstCanonical⟩, secondCanonical⟩ := canonical
      -- There are only two levels, so what binds more tightly than the looser operator binds
      -- as tightly as the new one.
      have taken : second.bindsFrom op.precedence = true :=
        bindsFrom_of_le (by omega) secondBinds
      have inner : (Expr.binary op second right).bindsFrom (looser.precedence + 1) = true :=
        decide_eq_true loose
      rw [attach_of_lt loose, isCanonical, isCanonical, firstBinds, inner, firstCanonical, taken,
        rightBinds, secondCanonical, rightCanonical]
      rfl
    | _ => exact absurd (Nat.le_trans low (by simp [precedence, atomicPrecedence])) tight

theorem symbols_attach (literal : α → Int) (op : Operator) (left right : Expr α) :
    (left.attach op right).symbols literal =
      left.symbols literal ++ .operator op :: right.symbols literal := by
  cases left with
  | binary looser first second =>
    by_cases loose : looser.precedence < op.precedence
    · rw [attach_of_lt loose]
      simp only [symbols, List.append_assoc, List.cons_append]
    · have tight : op.precedence ≤ (Expr.binary looser first second).precedence :=
        Nat.le_of_not_lt loose
      rw [attach_of_le tight]
      rfl
  | _ => rfl

end Expr

/-! ## Sentences -/

/-- The kinds of phrase: an expression, a row of atoms joined by operators, a single atom. -/
inductive Phrase where
  | expression
  | row
  | atom
  deriving DecidableEq

/-- The grammar `E := ['-'] A (op A)*` with `A := INT | '(' E ')'`. -/
inductive Derives : Phrase → List Symbol → Prop where
  | number (value : Int) : Derives .atom [.number (some value)]
  | group {inner : List Symbol} (derived : Derives .expression inner) :
      Derives .atom (.leftParen :: (inner ++ [.rightParen]))
  | single {symbols : List Symbol} (derived : Derives .atom symbols) : Derives .row symbols
  | join {left right : List Symbol} (op : Operator) (row : Derives .row left)
      (atom : Derives .atom right) : Derives .row (left ++ .operator op :: right)
  | plain {symbols : List Symbol} (row : Derives .row symbols) : Derives .expression symbols
  | signed {symbols : List Symbol} (row : Derives .row symbols) :
      Derives .expression (.operator .sub :: symbols)

namespace Derives

theorem append {left right : List Symbol} {phrase : Phrase} (op : Operator)
    (row : Derives .row left) (other : Derives phrase right) (short : phrase ≠ .expression) :
    Derives .row (left ++ .operator op :: right) := by
  induction other with
  | number value => exact row.join op (.number value)
  | group derived _ => exact row.join op (.group derived)
  | single _ inductionHypothesis => exact inductionHypothesis (by decide)
  | join between _ atom inductionHypothesis _ =>
    have longer := (inductionHypothesis (by decide)).join between atom
    simpa only [List.append_assoc, List.cons_append] using longer
  | plain _ _ | signed _ _ => exact absurd rfl short

theorem append_expression {left right : List Symbol} (op : Operator)
    (expression : Derives .expression left) (row : Derives .row right) :
    Derives .expression (left ++ .operator op :: right) := by
  cases expression with
  | plain first => exact .plain (first.append op row (by decide))
  | signed first => exact .signed (first.append op row (by decide))

/-- The symbols of a canonical tree are a sentence. -/
theorem of_isCanonical (literal : α → Int) (expr : Expr α) :
    (expr.isSealed = true → Derives .atom (expr.symbols literal)) ∧
    (expr.isCanonical false = true → Derives .row (expr.symbols literal)) ∧
    (expr.isCanonical true = true → Derives .expression (expr.symbols literal)) := by
  induction expr with
  | leaf element =>
    have atom : Derives .atom (Expr.symbols literal (.leaf element)) := .number _
    exact ⟨fun _ => atom, fun _ => .single atom, fun _ => .plain (.single atom)⟩
  | group inner inductionHypothesis =>
    have atom : inner.isCanonical true = true →
        Derives .atom ((Expr.group inner).symbols literal) :=
      fun canonical => .group (inductionHypothesis.2.2 canonical)
    exact ⟨atom, fun canonical => .single (atom canonical),
      fun canonical => .plain (.single (atom canonical))⟩
  | negate operand inductionHypothesis =>
    refine ⟨fun sealed => (by cases sealed), fun canonical => (by cases canonical), ?_⟩
    exact fun canonical => .signed (.single (inductionHypothesis.1 canonical))
  | binary op left right leftHypothesis rightHypothesis =>
    refine ⟨fun sealed => (by cases sealed), fun canonical => ?_, fun canonical => ?_⟩
    · simp only [Expr.isCanonical, Bool.and_eq_true] at canonical
      exact (leftHypothesis.2.1 canonical.1.2).append op (rightHypothesis.2.1 canonical.2)
        (by decide)
    · simp only [Expr.isCanonical, Bool.and_eq_true] at canonical
      exact (leftHypothesis.2.2 canonical.1.2).append_expression op
        (rightHypothesis.2.1 canonical.2)
  | foreign typeName =>
    exact ⟨fun sealed => (by cases sealed), fun canonical => (by cases canonical),
      fun canonical => (by cases canonical)⟩

/-- Whether there is an element for every number in some symbols. -/
def Covered (literal : α → Int) (symbols : List Symbol) : Prop :=
  ∀ value, .number (some value) ∈ symbols → ∃ element, literal element = value

/-- What a phrase is read as: an atom as a sealed tree, a row as a canonical tree with or without a
sign before it, an expression as a canonical tree. -/
def HasTree (literal : α → Int) : Phrase → List Symbol → Prop
  | .atom, symbols => ∃ expr : Expr α, expr.isSealed = true ∧ expr.symbols literal = symbols
  | .row, symbols =>
    (∃ expr : Expr α, expr.isCanonical true = true ∧ expr.symbols literal = symbols) ∧
    ∃ expr : Expr α, expr.isCanonical true = true ∧
      expr.symbols literal = .operator .sub :: symbols
  | .expression, symbols =>
    ∃ expr : Expr α, expr.isCanonical true = true ∧ expr.symbols literal = symbols

theorem hasTree {literal : α → Int} {phrase : Phrase} {symbols : List Symbol}
    (derived : Derives phrase symbols) (covered : Covered literal symbols) :
    HasTree literal phrase symbols := by
  induction derived with
  | number value =>
    obtain ⟨element, same⟩ := covered value List.mem_cons_self
    exact ⟨.leaf element, rfl, by rw [Expr.symbols, same]⟩
  | group _ inductionHypothesis =>
    obtain ⟨inner, canonical, same⟩ := inductionHypothesis fun value member =>
      covered value (List.mem_cons_of_mem _ (List.mem_append_left _ member))
    exact ⟨.group inner, Expr.isSealed_group canonical, by rw [Expr.symbols, same]⟩
  | single _ inductionHypothesis =>
    obtain ⟨atom, sealed, same⟩ := inductionHypothesis covered
    exact ⟨⟨atom, Expr.isCanonical_of_isSealed sealed true, same⟩,
      .negate atom, Expr.isCanonical_negate sealed, by rw [Expr.symbols, same]⟩
  | join op _ _ rowHypothesis atomHypothesis =>
    obtain ⟨⟨plain, plainCanonical, plainSame⟩, signed, signedCanonical, signedSame⟩ :=
      rowHypothesis fun value member => covered value (List.mem_append_left _ member)
    obtain ⟨atom, sealed, same⟩ := atomHypothesis fun value member =>
      covered value (List.mem_append_right _ (List.mem_cons_of_mem _ member))
    refine ⟨⟨plain.attach op atom, Expr.isCanonical_attach op plainCanonical sealed, ?_⟩,
      signed.attach op atom, Expr.isCanonical_attach op signedCanonical sealed, ?_⟩
    · rw [Expr.symbols_attach, plainSame, same]
    · rw [Expr.symbols_attach, signedSame, same, List.cons_append]
  | plain _ inductionHypothesis => exact (inductionHypothesis covered).1
  | signed _ inductionHypothesis =>
    exact (inductionHypothesis fun value member =>
      covered value (List.mem_cons_of_mem _ member)).2

/-- The sentences are the symbols of canonical trees. -/
theorem iff_exists_canonical {literal : α → Int} {symbols : List Symbol}
    (covered : Covered literal symbols) :
    Derives .expression symbols ↔
      ∃ expr : Expr α, expr.isCanonical true = true ∧ expr.symbols literal = symbols := by
  constructor
  · exact fun derived => derived.hasTree covered
  · rintro ⟨expr, canonical, rfl⟩
    exact (of_isCanonical literal expr).2.2 canonical

end Derives

end RingCalc
