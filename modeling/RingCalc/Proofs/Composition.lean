import RingCalc.Proofs.ExactValue
import RingCalc.Proofs.Parser.Source

/-!
# Groups in the place of numbers

An expression in parentheses may stand wherever a number stands.  The tree of the longer text is the
tree of the shorter one with the group in the place of that one literal, whatever operators and
parentheses stand around it.  So a text has the same value, or the same error, when a number in it
is replaced by an expression of the same value.
-/

namespace RingCalc

/-! ## Contexts -/

/-- A tree with a hole in it. -/
inductive Expr.Context (α : Type) where
  | hole
  | group (inner : Context α)
  | negate (operand : Context α)
  | binaryLeft (op : Operator) (left : Context α) (right : Expr α)
  | binaryRight (op : Operator) (left : Expr α) (right : Context α)

namespace Expr.Context

variable {α : Type}

def fill (expr : Expr α) : Context α → Expr α
  | .hole => expr
  | .group inner => .group (inner.fill expr)
  | .negate operand => .negate (operand.fill expr)
  | .binaryLeft op left right => .binary op (left.fill expr) right
  | .binaryRight op left right => .binary op left (right.fill expr)

/-- The symbols to the left of the hole. -/
def before (literal : α → Int) : Context α → List Symbol
  | .hole => []
  | .group inner => .leftParen :: inner.before literal
  | .negate operand => .operator .sub :: operand.before literal
  | .binaryLeft _ left _ => left.before literal
  | .binaryRight op left right => left.symbols literal ++ .operator op :: right.before literal

/-- The symbols to the right of the hole. -/
def after (literal : α → Int) : Context α → List Symbol
  | .hole => []
  | .group inner => inner.after literal ++ [.rightParen]
  | .negate operand => operand.after literal
  | .binaryLeft op left right => left.after literal ++ .operator op :: right.symbols literal
  | .binaryRight _ _ right => right.after literal

theorem symbols_fill (literal : α → Int) (context : Context α) (expr : Expr α) :
    (context.fill expr).symbols literal =
      context.before literal ++ expr.symbols literal ++ context.after literal := by
  induction context with
  | hole => simp [fill, before, after]
  | _ => simp_all [fill, before, after, symbols]

/-! ### Canonical trees -/

variable {old new : Expr α}

theorem precedence_of_isSealed {expr : Expr α} (sealed : expr.isSealed = true) :
    expr.precedence = atomicPrecedence := by
  cases expr with
  | binary op left right => cases sealed
  | _ => rfl

theorem isAtom_fill (oldSealed : old.isSealed = true) (newSealed : new.isSealed = true)
    (context : Context α) : (context.fill new).isAtom = (context.fill old).isAtom := by
  cases context with
  | hole =>
    simp only [isSealed, Bool.and_eq_true] at oldSealed newSealed
    exact newSealed.1.trans oldSealed.1.symm
  | _ => rfl

theorem bindsFrom_fill (oldSealed : old.isSealed = true) (newSealed : new.isSealed = true)
    (context : Context α) (least : Nat) :
    (context.fill new).bindsFrom least = (context.fill old).bindsFrom least := by
  cases context with
  | hole =>
    simp only [fill, bindsFrom, precedence_of_isSealed oldSealed, precedence_of_isSealed newSealed]
  | _ => rfl

/-- Sealed trees may take each other's place in a canonical tree. -/
theorem isCanonical_fill (oldSealed : old.isSealed = true) (newSealed : new.isSealed = true)
    (context : Context α) (atFront : Bool) :
    (context.fill new).isCanonical atFront = (context.fill old).isCanonical atFront := by
  induction context generalizing atFront with
  | hole =>
    exact (isCanonical_of_isSealed newSealed atFront).trans
      (isCanonical_of_isSealed oldSealed atFront).symm
  | group inner inductionHypothesis => exact inductionHypothesis true
  | negate operand inductionHypothesis =>
    simp only [fill, isCanonical, inductionHypothesis, isAtom_fill oldSealed newSealed]
  | binaryLeft op left right inductionHypothesis =>
    simp only [fill, isCanonical, inductionHypothesis, bindsFrom_fill oldSealed newSealed]
  | binaryRight op left right inductionHypothesis =>
    simp only [fill, isCanonical, inductionHypothesis, bindsFrom_fill oldSealed newSealed]

/-! ### The hole of a number -/

theorem append_eq_append_cons {β : Type} {left right front back : List β} {x : β}
    (same : left ++ right = front ++ x :: back) :
    (∃ rest, left = front ++ x :: rest ∧ back = rest ++ right) ∨
      ∃ rest, front = left ++ rest ∧ right = rest ++ x :: back := by
  obtain ⟨rest, rfl, later⟩ | ⟨rest, rfl, later⟩ := List.append_eq_append_iff.mp same
  · exact .inr ⟨rest, rfl, later⟩
  · obtain _ | ⟨y, rest⟩ := rest
    · exact .inr ⟨[], by simp, by simpa using later.symm⟩
    · obtain ⟨rfl, rfl⟩ := List.cons_eq_cons.mp later
      exact .inl ⟨rest, rfl, rfl⟩

/-- Every number among the symbols of a tree is a literal of the tree. -/
theorem exists_fill {literal : α → Int} {expr : Expr α} {front back : List Symbol} {value : Int}
    (split : expr.symbols literal = front ++ .number (some value) :: back) :
    ∃ (context : Context α) (element : α), literal element = value ∧
      expr = context.fill (.leaf element) ∧ context.before literal = front ∧
      context.after literal = back := by
  -- A number is no parenthesis and no operator, so it lies among the symbols of a subtree.
  induction expr generalizing front back with
  | leaf element =>
    obtain _ | ⟨first, front⟩ := front
    · simp only [symbols, List.nil_append, List.cons.injEq, Symbol.number.injEq,
        Option.some.injEq] at split
      exact ⟨.hole, element, split.1, rfl, rfl, split.2⟩
    · simp [symbols] at split
  | group inner inductionHypothesis =>
    obtain _ | ⟨first, front⟩ := front
    · simp [symbols] at split
    · rw [symbols, List.cons_append, List.cons_eq_cons] at split
      obtain ⟨rfl, split⟩ := split
      obtain ⟨rest, inside, rfl⟩ | ⟨rest, rfl, outside⟩ := append_eq_append_cons split
      · obtain ⟨context, element, same, rfl, rfl, rfl⟩ := inductionHypothesis inside
        exact ⟨.group context, element, same, rfl, rfl, rfl⟩
      · obtain _ | ⟨first, rest⟩ := rest <;> simp at outside
  | negate operand inductionHypothesis =>
    obtain _ | ⟨first, front⟩ := front
    · simp [symbols] at split
    · rw [symbols, List.cons_append, List.cons_eq_cons] at split
      obtain ⟨rfl, inside⟩ := split
      obtain ⟨context, element, same, rfl, rfl, rfl⟩ := inductionHypothesis inside
      exact ⟨.negate context, element, same, rfl, rfl, rfl⟩
  | binary op left right leftHypothesis rightHypothesis =>
    obtain ⟨rest, inside, rfl⟩ | ⟨rest, rfl, behind⟩ := append_eq_append_cons split
    · obtain ⟨context, element, same, rfl, rfl, rfl⟩ := leftHypothesis inside
      exact ⟨.binaryLeft op context right, element, same, rfl, rfl, rfl⟩
    · obtain _ | ⟨first, rest⟩ := rest
      · simp at behind
      · rw [List.cons_append, List.cons_eq_cons] at behind
        obtain ⟨rfl, inside⟩ := behind
        obtain ⟨context, element, same, rfl, rfl, rfl⟩ := rightHypothesis inside
        exact ⟨.binaryRight op left context, element, same, rfl, rfl, rfl⟩
  | foreign typeName => simp [symbols] at split

/-! ### Values -/

/-- Over checked integers only the value of what fills the hole matters. -/
theorem value_fill {σ : Type} {old new : Expr CheckedInt} {memory : σ}
    (same : new.value (CheckedInt.ring σ) memory = old.value (CheckedInt.ring σ) memory)
    (context : Context CheckedInt) :
    (context.fill new).value (CheckedInt.ring σ) memory =
      (context.fill old).value (CheckedInt.ring σ) memory := by
  induction context with
  | hole => exact same
  | group inner inductionHypothesis => exact inductionHypothesis
  | negate operand inductionHypothesis => simp only [fill, value, inductionHypothesis]
  | binaryLeft op left right inductionHypothesis => simp only [fill, value, inductionHypothesis]
  | binaryRight op left right inductionHypothesis =>
    -- The left operand leaves the memory alone, so the hole is evaluated in the same memory.
    obtain ⟨result, found, -⟩ := left.value_judged memory
    simp only [fill, value, found]
    cases result with
    | error error => rfl
    | ok first => simp only [inductionHypothesis]

end Expr.Context

/-! ## Replacing a number -/

/-- A whole number of a text is one of its tokens, and what stands on its two sides can be read by
itself. -/
theorem WholeNumber.reads {u d v : String} {tokens : List Token}
    (number : WholeNumber u.toList d.toList v.toList) (read : tokenize (u ++ d ++ v) = .ok tokens) :
    ∃ left right : List Token, Spells u.toList (left.map Token.symbol) ∧
      Spells v.toList (right.map Token.symbol) ∧
      tokens = left ++
        ⟨.number (some (Nat.ofDigitChars 10 d.toList 0 : Nat)), (u.length : Nat)⟩ :: right := by
  obtain ⟨layout, whole, rfl⟩ := TokenStream.drain_eq_none_iff.mp (tokenize_eq_ok_iff.mp read)
  rw [String.toList_append, String.toList_append, List.append_assoc] at whole
  obtain ⟨left, word, right, split, isNumber, front, middle, back⟩ :=
    number.exists_word layout.apart layout.blank whole
  have apart := layout.apart
  rw [split] at apart
  refine ⟨Word.tokensFrom 0 left,
    Word.tokensFrom ((left.flatMap Word.text).length + word.text.length) right, ?_, ?_, ?_⟩
  · rw [front, Word.map_symbol_tokensFrom]
    exact ⟨⟨left, word.blanks, apart.left_of_append, word.blank⟩, rfl, rfl⟩
  · rw [back, Word.map_symbol_tokensFrom]
    exact ⟨⟨right, layout.tail, apart.right_of_append.of_cons, layout.blank⟩, rfl, rfl⟩
  · rw [Layout.tokens, split, Word.tokensFrom_append, Word.tokensFrom, middle,
      ← word.lexeme.eq_number isNumber, ← String.length_toList, front, Word.textOf,
      List.length_append, Nat.zero_add]

variable {σ : Type}

/-- A group in the place of a number is parsed as itself, with nothing changed around it.  Where the
group has the value of the number, the text has the value or the error that it had. -/
theorem parse_group_for_number {u d v w : String} {memory after last : σ}
    {tree inner : Expr CheckedInt} (number : WholeNumber u.toList d.toList v.toList)
    (parsed : parse (CheckedInt.ring σ) (u ++ d ++ v) memory = (.ok tree, after))
    (inside : parse (CheckedInt.ring σ) w memory = (.ok inner, last)) :
    ∃ (context : Expr.Context CheckedInt) (literal : CheckedInt) (left right : List Token),
      tokenize (u ++ d ++ v) =
        .ok (left ++ ⟨.number (some literal.val), (u.length : Nat)⟩ :: right) ∧
      literal.val = Nat.ofDigitChars 10 d.toList 0 ∧
      context.before CheckedInt.val = left.map Token.symbol ∧
      context.after CheckedInt.val = right.map Token.symbol ∧
      tree = context.fill (.leaf literal) ∧
      parse (CheckedInt.ring σ) (u ++ "(" ++ w ++ ")" ++ v) memory =
        (.ok (context.fill (.group inner)), memory) ∧
      ((evaluate (CheckedInt.ring σ) inner memory).1 = .ok literal →
        evaluate (CheckedInt.ring σ) (context.fill (.group inner)) memory =
          evaluate (CheckedInt.ring σ) tree memory) := by
  obtain ⟨-, canonical, spells⟩ := parse_checked_eq_ok_iff.mp parsed
  obtain ⟨-, innerCanonical, innerSpells⟩ := parse_checked_eq_ok_iff.mp inside
  obtain ⟨tokens, read, spelled⟩ := tokenize_of_spells spells
  obtain ⟨left, right, before, behind, rfl⟩ := number.reads read
  rw [List.map_append, List.map_cons] at spelled
  obtain ⟨context, literal, value, rfl, front, back⟩ := Expr.Context.exists_fill spelled.symm
  have literalSealed : (Expr.leaf literal).isSealed = true := rfl
  have groupSealed : (Expr.group inner).isSealed = true := Expr.isSealed_group innerCanonical
  refine ⟨context, literal, left, right, ?_, value, front, back, rfl, ?_, ?_⟩
  · rw [read, value]
  · refine parse_checked_eq_ok_iff.mpr ⟨rfl, ?_, ?_⟩
    · rw [Expr.Context.isCanonical_fill literalSealed groupSealed, canonical]
    · have whole := before.group_between innerSpells behind
      rw [Expr.Context.symbols_fill, front, back, Expr.symbols]
      simpa using whole
  · intro same
    -- The ring leaves the memory alone, so an outcome is no more than its value.
    obtain ⟨result, found, -⟩ := inner.value_judged memory
    rw [evaluate_eq_value, found] at same
    have equal : (Expr.group inner).value (CheckedInt.ring σ) memory =
        (Expr.leaf literal).value (CheckedInt.ring σ) memory := by
      cases result with
      | error error => cases same
      | ok value =>
        obtain rfl := Except.ok.inj same
        exact found
    rw [evaluate_eq_value, evaluate_eq_value, Expr.Context.value_fill equal]

/-- A factor of a product is replaced, and the sum around it is what it was. -/
theorem parse_group_for_number_in_product :
    ∃ (context : Expr.Context CheckedInt) (two four : CheckedInt),
      two.val = 2 ∧ four.val = 4 ∧
      parse (CheckedInt.ring Unit) "1+2*3" () = (.ok (context.fill (.leaf two)), ()) ∧
      parse (CheckedInt.ring Unit) "1+(4-2)*3" () =
        (.ok (context.fill (.group (.binary .sub (.leaf four) (.leaf two)))), ()) ∧
      evaluate (CheckedInt.ring Unit)
          (context.fill (.group (.binary .sub (.leaf four) (.leaf two)))) () =
        evaluate (CheckedInt.ring Unit) (context.fill (.leaf two)) () := by
  let one : CheckedInt := ⟨1, by decide, by decide⟩
  let two : CheckedInt := ⟨2, by decide, by decide⟩
  let three : CheckedInt := ⟨3, by decide, by decide⟩
  let four : CheckedInt := ⟨4, by decide, by decide⟩
  have number : WholeNumber "1+".toList "2".toList "*3".toList :=
    ⟨by simp, by simp, by simp [Text.cutsDigits], by simp [Text.cutsDigits]⟩
  have parsed : parse (CheckedInt.ring Unit) ("1+" ++ "2" ++ "*3") () =
      (.ok (.binary .add (.leaf one) (.binary .mul (.leaf two) (.leaf three))), ()) := by
    decide +kernel
  have inside : parse (CheckedInt.ring Unit) "4-2" () =
      (.ok (.binary .sub (.leaf four) (.leaf two)), ()) := by decide +kernel
  obtain ⟨context, literal, left, right, -, value, -, -, tree, replaced, same⟩ :=
    parse_group_for_number number parsed inside
  have isTwo : literal = two := CheckedInt.ext (value.trans (by decide +kernel))
  subst isTwo
  refine ⟨context, two, four, rfl, rfl, ?_, replaced, ?_⟩
  · rw [← tree]
    exact parsed
  · rw [← tree]
    exact same (by decide +kernel)

end RingCalc
