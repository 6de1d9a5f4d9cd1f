import RingCalc.Proofs.Evaluation
import RingCalc.Proofs.Parser.Source

/-!
# Integers as they are written

A numeral is one of the ways to write an integer: with blanks around the sign and the number, and
with zeros in front of its digits.  Every numeral of an integer in reach is parsed and evaluated to
the integer, a negative one by way of its magnitude.  Every other numeral is refused at its first
digit, whether its length or its value gives it away.
-/

namespace RingCalc

variable {σ : Type} {value : Int}

/-- A way to write an integer.  The blanks behind the sign stand only where there is a sign. -/
structure Numeral (value : Int) where
  before : List Char
  between : List Char
  zeros : Nat
  after : List Char
  beforeBlank : ∀ c ∈ before, Text.isBlank c = true
  betweenBlank : ∀ c ∈ between, Text.isBlank c = true
  afterBlank : ∀ c ∈ after, Text.isBlank c = true

namespace Numeral

/-- What stands before the digits. -/
def front (numeral : Numeral value) : List Char :=
  if value < 0 then numeral.before ++ '-' :: numeral.between else numeral.before

def digits (numeral : Numeral value) : List Char :=
  List.replicate numeral.zeros '0' ++ Nat.toDigits 10 value.natAbs

def text (numeral : Numeral value) : String :=
  String.ofList (numeral.front ++ (numeral.digits ++ numeral.after))

/-! ## The parts of a numeral -/

variable (numeral : Numeral value)

theorem digits_ne_nil : numeral.digits ≠ [] :=
  List.append_ne_nil_of_right_ne_nil _ Nat.toDigits_ne_nil

theorem isDigit_digits : ∀ c ∈ numeral.digits, c.isDigit = true := by
  intro c member
  obtain zero | digit := List.mem_append.mp member
  · rw [List.eq_of_mem_replicate zero]
    rfl
  · exact Nat.isDigit_of_mem_toDigits (by decide) (by decide) digit

theorem ofDigitChars_digits : Nat.ofDigitChars 10 numeral.digits 0 = value.natAbs := by
  rw [digits, Nat.ofDigitChars_append, Nat.ofDigitChars_replicate_zero, Nat.mul_zero,
    Nat.ofDigitChars_ten_toDigits]

theorem isDigit_front : ∀ c ∈ numeral.front, c.isDigit = false := by
  have before := fun c member => Text.isDigit_of_isBlank (numeral.beforeBlank c member)
  have between := fun c member => Text.isDigit_of_isBlank (numeral.betweenBlank c member)
  intro c member
  unfold front at member
  split at member
  · simp only [List.mem_append, List.mem_cons] at member
    obtain member | rfl | member := member
    · exact before c member
    · rfl
    · exact between c member
  · exact before c member

/-- The front of a numeral is its sign. -/
theorem spells_front :
    Spells numeral.front (if value < 0 then [.operator .sub] else []) := by
  unfold front
  split
  · refine (Spells.of_blank numeral.beforeBlank).append ?_ (Text.cutsDigits_of_head _ _ rfl)
    exact .cons (.operator .sub) rfl (.of_blank numeral.betweenBlank)
  · exact .of_blank numeral.beforeBlank

theorem cutsDigits_front :
    Text.cutsDigits numeral.front (numeral.digits ++ numeral.after) = false :=
  Text.cutsDigits_of_left _ numeral.isDigit_front

theorem cutsDigits_digits : Text.cutsDigits numeral.digits numeral.after = false :=
  Word.cutsDigits_of_isBlank _ numeral.afterBlank

/-! ## Integers in reach -/

theorem spells_text (small : value.natAbs ≤ maxLiteral) :
    Spells numeral.text.toList
      ((if value < 0 then [.operator .sub] else []) ++ [.number (some (value.natAbs : Int))]) := by
  have lexeme : Lexeme (.number (some (value.natAbs : Int))) numeral.digits :=
    .number numeral.digits_ne_nil numeral.isDigit_digits numeral.ofDigitChars_digits small
  have number : Spells (numeral.digits ++ numeral.after) [.number (some (value.natAbs : Int))] := by
    rw [← List.append_nil [Symbol.number _]]
    exact (Spells.of_lexeme lexeme).append (.of_blank numeral.afterBlank) numeral.cutsDigits_digits
  rw [text, String.toList_ofList]
  exact numeral.spells_front.append number numeral.cutsDigits_front

end Numeral

/-- The range reaches as far below zero as it does above, and by one more. -/
theorem CheckedInt.exists_val_eq (small : value.natAbs ≤ maxLiteral) :
    ∃ element : CheckedInt, element.val = value := by
  simp only [maxLiteral] at small
  have least : minVal ≤ value := by
    simp only [minVal]
    omega
  have most : value ≤ maxVal := by
    simp only [maxVal]
    omega
  exact ⟨⟨value, least, most⟩, rfl⟩

/-- The tree of an integer: its magnitude, behind a sign if the integer is negative. -/
def Expr.signed (value : Int) (magnitude : CheckedInt) : Expr CheckedInt :=
  if value < 0 then .negate (.leaf magnitude) else .leaf magnitude

theorem Expr.isCanonical_signed (value : Int) (magnitude : CheckedInt) :
    (Expr.signed value magnitude).isCanonical true = true := by
  unfold Expr.signed
  split <;> rfl

theorem Expr.symbols_signed (value : Int) (magnitude : CheckedInt) :
    (Expr.signed value magnitude).symbols CheckedInt.val =
      (if value < 0 then [.operator .sub] else []) ++ [.number (some magnitude.val)] := by
  unfold Expr.signed
  split <;> rfl

/-- The sign takes zero less the magnitude, which stays in the range. -/
theorem evaluate_signed {magnitude element : CheckedInt} (size : magnitude.val = value.natAbs)
    (same : element.val = value) (memory : σ) :
    evaluate (CheckedInt.ring σ) (Expr.signed value magnitude) memory = (.ok element, memory) := by
  rw [evaluate_eq_value]
  unfold Expr.signed
  split
  next negative =>
    have difference : CheckedInt.ofInt (0 - magnitude.val) = .ok element := by
      rw [CheckedInt.ofInt_eq_ok_iff]
      omega
    have negated :
        evalAction ((CheckedInt.ring σ).negate magnitude) memory = (.ok element, memory) := by
      change evalAction (Action.steady (CheckedInt.ofInt (0 - magnitude.val))) memory = _
      rw [difference]
      rfl
    simp only [Expr.value, negated]
    rfl
  next positive =>
    have kept : magnitude = element := CheckedInt.ext (by omega)
    rw [kept]
    rfl

theorem Numeral.parse_eq (numeral : Numeral value) {magnitude : CheckedInt}
    (size : magnitude.val = value.natAbs) (memory : σ) :
    parse (CheckedInt.ring σ) numeral.text memory =
      (.ok (Expr.signed value magnitude), memory) := by
  have small : value.natAbs ≤ maxLiteral := by
    have most := magnitude.le_max
    simp only [CheckedInt.maxVal, maxLiteral] at most ⊢
    omega
  refine parse_checked_eq_ok_iff.mpr ⟨rfl, Expr.isCanonical_signed value magnitude, ?_⟩
  rw [Expr.symbols_signed, size]
  exact numeral.spells_text small

/-! ## Integers out of reach -/

/-- The digits of a number that is too big are where reading stops. -/
theorem Numeral.flaw (numeral : Numeral value) (big : maxLiteral < value.natAbs) :
    Flaw numeral.text.toList numeral.front (numeral.digits ++ numeral.after) := by
  have stuck : Stuck (numeral.digits ++ numeral.after) := by
    -- The run of digits ends with the numeral's own, so their value decides.
    have digit := numeral.isDigit_digits
    have ends := numeral.cutsDigits_digits
    have decimal := numeral.ofDigitChars_digits
    obtain ⟨c, more, split⟩ := List.exists_cons_of_ne_nil numeral.digits_ne_nil
    rw [split] at digit ends decimal ⊢
    refine ⟨c, more ++ numeral.after, .numberTooBig, rfl,
      Text.isBlank_of_isDigit (digit c List.mem_cons_self), ?_⟩
    rw [Symbol.front_digits digit ends, decimal, if_neg (Nat.not_le_of_lt big)]
  obtain ⟨layout, whole, -⟩ := numeral.spells_front
  have ends := numeral.cutsDigits_front
  rw [text, String.toList_ofList, ← whole]
  rw [← whole] at ends
  exact .of_stuck ends stuck

theorem Numeral.tokenize_eq (numeral : Numeral value) (big : maxLiteral < value.natAbs) :
    tokenize numeral.text = .error ⟨.numberTooBig, numeral.front.length⟩ := by
  have cause : TokenStream.causeAt (numeral.digits ++ numeral.after) = .numberTooBig := by
    have digit := numeral.isDigit_digits
    obtain ⟨c, more, split⟩ := List.exists_cons_of_ne_nil numeral.digits_ne_nil
    rw [split] at digit ⊢
    simp [TokenStream.causeAt, digit c List.mem_cons_self]
  rw [(numeral.flaw big).tokenize_eq, cause]

/-! ## All integers -/

/-- Every numeral of an integer in reach is worth the integer; every other one is refused at its
first digit.  The length of a run of digits and its value refuse the same runs. -/
theorem parse_numeral (numeral : Numeral value) (memory : σ) :
    (value.natAbs ≤ maxLiteral → ∃ magnitude element : CheckedInt,
      magnitude.val = value.natAbs ∧ element.val = value ∧
      parse (CheckedInt.ring σ) numeral.text memory = (.ok (.signed value magnitude), memory) ∧
      evaluate (CheckedInt.ring σ) (.signed value magnitude) memory = (.ok element, memory)) ∧
    (maxLiteral < value.natAbs → ∃ error : ParseError,
      parse (CheckedInt.ring σ) numeral.text memory = (.error (.refused error), memory) ∧
      error.kind = .tokenParseError ∧ error.message = "Decimal number too big" ∧
      error.pos = (numeral.front.length : Nat)) ∧
    ∀ digits : List Char, (∀ c ∈ digits, c.isDigit = true) →
      literalValue? digits =
        if Nat.ofDigitChars 10 digits 0 ≤ maxLiteral then some (Nat.ofDigitChars 10 digits 0)
        else none := by
  refine ⟨fun small => ?_, fun big => ?_, fun digits digit => literalValue?_eq digit⟩
  · obtain ⟨element, same⟩ := CheckedInt.exists_val_eq small
    obtain ⟨magnitude, size⟩ : ∃ magnitude : CheckedInt, magnitude.val = value.natAbs :=
      CheckedInt.exists_val_eq (by rwa [Int.natAbs_natCast])
    exact ⟨magnitude, element, size, same, numeral.parse_eq size memory,
      evaluate_signed size same memory⟩
  · refine ⟨⟨.lexical .numberTooBig, (numeral.front.length : Nat)⟩, ?_, rfl, rfl, rfl⟩
    rw [parse, numeral.tokenize_eq big]
    rfl

/-- The integers on both sides of the bound, the one in reach with a sign. -/
theorem parse_numeral_at_bound :
    (∃ tree, parse (CheckedInt.ring Unit) "\t- 009223372036854775807 " () = (.ok tree, ()) ∧
      evaluate (CheckedInt.ring Unit) tree () =
        (.ok ⟨-9223372036854775807, by decide, by decide⟩, ())) ∧
      ∃ error : ParseError,
        parse (CheckedInt.ring Unit) "  009223372036854775808" () = (.error (.refused error), ()) ∧
        error.message = "Decimal number too big" ∧ error.pos = 2 := by
  let inReach : Numeral (-9223372036854775807) :=
    ⟨['\t'], [' '], 2, [' '], List.all_eq_true.mp rfl, List.all_eq_true.mp rfl,
      List.all_eq_true.mp rfl⟩
  let outOfReach : Numeral 9223372036854775808 :=
    ⟨[' ', ' '], [], 2, [], List.all_eq_true.mp rfl, List.all_eq_true.mp rfl,
      List.all_eq_true.mp rfl⟩
  have written : inReach.text = "\t- 009223372036854775807 " := by decide +kernel
  have tooBig : outOfReach.text = "  009223372036854775808" := by decide +kernel
  obtain ⟨magnitude, element, -, same, parsed, evaluated⟩ :=
    (parse_numeral inReach ()).1 (by decide)
  obtain ⟨error, refused, -, message, place⟩ := (parse_numeral outOfReach ()).2.1 (by decide)
  have worth : element = ⟨-9223372036854775807, by decide, by decide⟩ := CheckedInt.ext same
  rw [written] at parsed
  rw [tooBig] at refused
  rw [worth] at evaluated
  exact ⟨⟨_, parsed, evaluated⟩, error, refused, message, place⟩

end RingCalc
