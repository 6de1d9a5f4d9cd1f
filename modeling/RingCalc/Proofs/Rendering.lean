import RingCalc.Proofs.Evaluation
import RingCalc.Proofs.Parser.Source

/-!
# The text of a tree

The text of a parsed tree can be parsed again.  Every binary operation comes back in a group and
nothing else is changed, so the tree has the same value and asks a ring for the same operations.
The text also tells parsed trees apart.

None of this holds of every tree: the text of `1 - (-2)`, with the negation in no group, is refused.
Parsed trees are canonical, with literals that can be written, and that is what is needed.
-/

namespace RingCalc

/-! ## Wrapped trees -/

namespace Expr

variable {α : Type}

theorem isCanonical_of_false {expr : Expr α} (canonical : expr.isCanonical false = true)
    (atFront : Bool) : expr.isCanonical atFront = true := by
  induction expr with
  | leaf element => rfl
  | group inner _ => exact canonical
  | negate operand _ => cases canonical
  | binary op left right leftHypothesis _ =>
    simp only [isCanonical, Bool.and_eq_true] at canonical ⊢
    exact ⟨⟨canonical.1.1, leftHypothesis canonical.1.2⟩, canonical.2⟩
  | foreign typeName => cases canonical

theorem bindsFrom_wrap (expr : Expr α) {least : Nat} (low : least ≤ atomicPrecedence) :
    expr.wrap.bindsFrom least = true := by
  cases expr <;> exact decide_eq_true low

theorem isAtom_wrap {expr : Expr α} (atom : expr.isAtom = true) : expr.wrap.isAtom = true := by
  cases expr with
  | leaf _ | group _ => rfl
  | _ => cases atom

theorem isCanonical_wrap {expr : Expr α} {atFront : Bool}
    (canonical : expr.isCanonical atFront = true) : expr.wrap.isCanonical atFront = true := by
  induction expr generalizing atFront with
  | leaf element => rfl
  | group inner inductionHypothesis =>
    have inside : inner.isCanonical true = true := canonical
    exact inductionHypothesis inside
  | negate operand inductionHypothesis =>
    simp only [isCanonical, wrap, Bool.and_eq_true] at canonical ⊢
    exact ⟨⟨canonical.1.1, isAtom_wrap canonical.1.2⟩, inductionHypothesis canonical.2⟩
  | binary op left right leftHypothesis rightHypothesis =>
    have low : op.precedence + 1 ≤ atomicPrecedence := by
      have level := op.precedence_le_one
      simp only [atomicPrecedence]
      omega
    simp only [isCanonical, wrap, Bool.and_eq_true] at canonical ⊢
    -- The group begins anew, so a sign at its front is allowed wherever it stands.
    have front : left.wrap.isCanonical true = true := by
      have kept := leftHypothesis canonical.1.2
      cases atFront with
      | true => exact kept
      | false => exact isCanonical_of_false kept true
    exact ⟨⟨⟨left.bindsFrom_wrap (Nat.le_of_succ_le low), right.bindsFrom_wrap low⟩, front⟩,
      rightHypothesis canonical.2⟩
  | foreign typeName => cases canonical

/-- A wrapped tree shows which of its groups are new: those around a binary operation. -/
theorem wrap_injective {first second : Expr α} (same : first.wrap = second.wrap) :
    first = second := by
  have apart : ∀ {op : Operator} {left right inner : Expr α},
      Expr.binary op left right ≠ inner.wrap := by
    intro op left right inner
    cases inner <;> exact nofun
  induction first generalizing second with
  | leaf element =>
    cases second <;> simp_all [wrap]
  | group inner inductionHypothesis =>
    cases second with
    | group other => rw [inductionHypothesis (Expr.group.inj same)]
    | binary op left right => exact absurd (Expr.group.inj same).symm apart
    | _ => cases same
  | negate operand inductionHypothesis =>
    cases second with
    | negate other => rw [inductionHypothesis (Expr.negate.inj same)]
    | _ => cases same
  | binary op left right leftHypothesis rightHypothesis =>
    cases second with
    | group other => exact absurd (Expr.group.inj same) apart
    | binary otherOp otherLeft otherRight =>
      obtain ⟨rfl, leftSame, rightSame⟩ := Expr.binary.inj (Expr.group.inj same)
      rw [leftHypothesis leftSame, rightHypothesis rightSame]
    | _ => cases same
  | foreign typeName =>
    cases second <;> simp_all [wrap]

theorem value_wrap {σ : Type} (ring : Ring σ α) (expr : Expr α) (memory : σ) :
    expr.wrap.value ring memory = expr.value ring memory := by
  induction expr generalizing memory with
  | leaf _ | foreign _ => rfl
  | group inner inductionHypothesis => exact inductionHypothesis memory
  | negate operand inductionHypothesis => simp only [wrap, value, inductionHypothesis]
  | binary op left right leftHypothesis rightHypothesis =>
    simp only [wrap, value, leftHypothesis, rightHypothesis]

theorem evaluate_wrap {σ : Type} (ring : Ring σ α) (expr : Expr α) (memory : σ) :
    evaluate ring expr.wrap memory = evaluate ring expr memory := by
  rw [evaluate_eq_value, evaluate_eq_value, value_wrap]

end Expr

/-! ## What a text spells -/

theorem Expr.spells_text {tree : Expr CheckedInt} {atFront : Bool}
    (canonical : tree.isCanonical atFront = true)
    (writable : ∀ symbol ∈ tree.symbols CheckedInt.val, symbol.Writable) :
    Spells (tree.text toString).toList (tree.wrap.symbols CheckedInt.val) := by
  induction tree generalizing atFront with
  | leaf element =>
    exact .of_lexeme (writable _ List.mem_cons_self).lexeme_text
  | group inner inductionHypothesis =>
    have written : ((Expr.group inner).text toString).toList =
        '(' :: ((inner.text toString).toList ++ [')']) := by simp [text]
    have inside : inner.isCanonical true = true := canonical
    rw [written]
    refine (inductionHypothesis inside fun symbol member => ?_).group
    exact writable symbol (List.mem_cons_of_mem _ (List.mem_append_left _ member))
  | negate operand inductionHypothesis =>
    have written : ((Expr.negate operand).text toString).toList =
        ['-'] ++ (operand.text toString).toList := by simp [text]
    simp only [isCanonical, Bool.and_eq_true] at canonical
    rw [written]
    refine .cons (.operator .sub) rfl (inductionHypothesis canonical.2 fun symbol member => ?_)
    exact writable symbol (List.mem_cons_of_mem _ member)
  | binary op left right leftHypothesis rightHypothesis =>
    have written : ((Expr.binary op left right).text toString).toList =
        '(' :: ((left.text toString).toList ++
          ' ' :: ([op.sign] ++ ' ' :: (right.text toString).toList) ++ [')']) := by
      simp [text, Char.toString_eq_singleton]
    simp only [isCanonical, Bool.and_eq_true] at canonical
    have leftSpells := leftHypothesis canonical.1.2 fun symbol member =>
      writable symbol (List.mem_append_left _ member)
    have rightSpells := rightHypothesis canonical.2 fun symbol member =>
      writable symbol (List.mem_append_right _ (List.mem_cons_of_mem _ member))
    have behind := (Spells.cons (.operator op) rfl rightSpells.space).space
    rw [written]
    exact (leftSpells.append behind (Text.cutsDigits_of_head _ _ rfl)).group
  | foreign typeName => cases canonical

/-- The text of a parsed tree is parsed as the tree with its operations in groups. -/
theorem parse_text_of_parse {σ : Type} {source : String} {memory after : σ} {tree : Expr CheckedInt}
    (parsed : parse (CheckedInt.ring σ) source memory = (.ok tree, after)) (later : σ) :
    parse (CheckedInt.ring σ) (tree.text toString) later = (.ok tree.wrap, later) := by
  obtain ⟨-, canonical, spells⟩ := parse_checked_eq_ok_iff.mp parsed
  exact parse_checked_eq_ok_iff.mpr
    ⟨rfl, Expr.isCanonical_wrap canonical, Expr.spells_text canonical spells.writable⟩

/-- Parsed trees survive being shown and parsed again, but for the groups around their operations:
no ring can tell the two trees apart, by the outcome or by the calls it is asked for, and trees with
the same text are the same. -/
theorem parse_text {σ : Type} {source : String} {memory after : σ} {tree : Expr CheckedInt}
    (parsed : parse (CheckedInt.ring σ) source memory = (.ok tree, after)) :
    parse (CheckedInt.ring σ) (tree.text toString) memory = (.ok tree.wrap, memory) ∧
    (∀ {τ : Type} (ring : Ring τ CheckedInt) (state : τ) (earlier : List (RingCall CheckedInt)),
      evaluate ring tree.wrap state = evaluate ring tree state ∧
      evaluate ring.recorded tree.wrap (state, earlier) =
        evaluate ring.recorded tree (state, earlier)) ∧
    ∀ (otherSource : String) (other : Expr CheckedInt) (otherMemory last : σ),
      parse (CheckedInt.ring σ) otherSource otherMemory = (.ok other, last) →
      other.text toString = tree.text toString → other = tree := by
  have again := parse_text_of_parse parsed memory
  refine ⟨again, fun ring state earlier => ⟨?_, ?_⟩, ?_⟩
  · exact Expr.evaluate_wrap ring tree state
  · exact Expr.evaluate_wrap ring.recorded tree (state, earlier)
  · intro otherSource other otherMemory last otherParsed same
    have otherAgain := parse_text_of_parse otherParsed memory
    rw [same, again] at otherAgain
    simp only [Prod.mk.injEq, Except.ok.injEq, and_true] at otherAgain
    exact (Expr.wrap_injective otherAgain).symm

/-- A sign in front of a product, and a number with a leading zero. -/
theorem parse_text_signed_product :
    parse (CheckedInt.ring Unit) "-1*02" () =
        (.ok (.binary .mul (.negate (.leaf ⟨1, by decide, by decide⟩))
          (.leaf ⟨2, by decide, by decide⟩)), ()) ∧
      parse (CheckedInt.ring Unit) "(-1 * 2)" () =
        (.ok (.group (.binary .mul (.negate (.leaf ⟨1, by decide, by decide⟩))
          (.leaf ⟨2, by decide, by decide⟩))), ()) := by
  have parsed : parse (CheckedInt.ring Unit) "-1*02" () =
      (.ok (.binary .mul (.negate (.leaf ⟨1, by decide, by decide⟩))
        (.leaf ⟨2, by decide, by decide⟩)), ()) := by decide +kernel
  have shown : (Expr.binary .mul (.negate (.leaf ⟨1, by decide, by decide⟩))
      (.leaf (⟨2, by decide, by decide⟩ : CheckedInt))).text toString = "(-1 * 2)" := by
    decide +kernel
  have again := (parse_text parsed).1
  rw [shown] at again
  exact ⟨parsed, again⟩

end RingCalc
