import Mathlib.Algebra.Group.Nat.Defs
import Mathlib.Data.List.Chain
import Mathlib.Data.List.TakeWhile
import RingCalc.Token.Stream

/-!
# Lexemes

What each symbol is written as, and what the front of a text is read as.  The two agree as long as a
run of digits is taken whole: the front of a text is a symbol exactly when a lexeme of the symbol
stands there and the text is not cut inside a run of digits after it.

A number is refused by its length before its value is worked out.  That changes nothing: a number
with more digits than the largest one, leading zeros apart, is larger.
-/

namespace RingCalc

/-! ## Digits -/

namespace Text

/-- Whether a cut between two texts goes through a run of digits. -/
def cutsDigits (left right : List Char) : Bool :=
  left.getLast?.any Char.isDigit && right.head?.any Char.isDigit

variable {left right : List Char}

theorem cutsDigits_nil_left (right : List Char) : cutsDigits [] right = false := rfl

theorem cutsDigits_nil_right (left : List Char) : cutsDigits left [] = false := by
  simp [cutsDigits]

theorem cutsDigits_append_left (before : List Char) (visible : left ≠ []) :
    cutsDigits (before ++ left) right = cutsDigits left right := by
  rw [cutsDigits, List.getLast?_append_of_ne_nil before visible, cutsDigits]

theorem cutsDigits_append_right (after : List Char) (visible : right ≠ []) :
    cutsDigits left (right ++ after) = cutsDigits left right := by
  rw [cutsDigits, List.head?_append_of_ne_nil right visible, cutsDigits]

theorem cutsDigits_of_append_left {before : List Char}
    (ends : cutsDigits (before ++ left) right = false) : cutsDigits left right = false := by
  obtain rfl | visible := eq_or_ne left []
  · exact cutsDigits_nil_left right
  · rwa [cutsDigits_append_left before visible] at ends

theorem cutsDigits_of_append_right {after : List Char}
    (ends : cutsDigits left (right ++ after) = false) : cutsDigits left right = false := by
  obtain rfl | visible := eq_or_ne right []
  · exact cutsDigits_nil_right left
  · rwa [cutsDigits_append_right after visible] at ends

/-- A cut behind two parts is a cut behind the second or, where that is empty, behind the first. -/
theorem cutsDigits_append {middle : List Char} (before : List Char) (visible : left ≠ [])
    (first : cutsDigits left (middle ++ right) = false) (second : cutsDigits middle right = false) :
    cutsDigits (before ++ left ++ middle) right = false := by
  obtain rfl | between := eq_or_ne middle []
  · rwa [List.append_nil, cutsDigits_append_left before visible]
  · rwa [cutsDigits_append_left _ between]

theorem cutsDigits_of_left (right : List Char) (plain : ∀ c ∈ left, c.isDigit = false) :
    cutsDigits left right = false := by
  rw [cutsDigits]
  cases last : left.getLast? with
  | none => rfl
  | some c => simp [plain c (List.mem_of_getLast? last)]

theorem cutsDigits_of_right (left : List Char) (plain : ∀ c ∈ right, c.isDigit = false) :
    cutsDigits left right = false := by
  rw [cutsDigits]
  cases first : right.head? with
  | none => simp
  | some c => simp [plain c (List.mem_of_head? first)]

theorem cutsDigits_of_head {c : Char} (left after : List Char) (plain : c.isDigit = false) :
    cutsDigits left (c :: after) = false := by
  simp [cutsDigits, plain]

theorem cutsDigits_of_digits (leftVisible : left ≠ []) (leftDigit : ∀ c ∈ left, c.isDigit = true)
    (rightVisible : right ≠ []) (rightDigit : ∀ c ∈ right, c.isDigit = true) :
    cutsDigits left right = true := by
  simp [cutsDigits, List.getLast?_eq_getLast_of_ne_nil leftVisible,
    List.head?_eq_some_head rightVisible, leftDigit _ (List.getLast_mem _),
    rightDigit _ (List.head_mem _)]

/-- Digits that are not cut from what follows are the run at the front of the text. -/
theorem takeWhile_isDigit (visible : left ≠ []) (digit : ∀ c ∈ left, c.isDigit = true)
    (ends : cutsDigits left right = false) : (left ++ right).takeWhile Char.isDigit = left := by
  have stops : right.takeWhile Char.isDigit = [] := by
    obtain _ | ⟨d, rest⟩ := right
    · rfl
    · have last : left.getLast?.any Char.isDigit = true := by
        simp [List.getLast?_eq_getLast_of_ne_nil visible, digit _ (List.getLast_mem _)]
      rw [cutsDigits, last] at ends
      exact List.takeWhile_cons_of_neg (by simpa using ends)
  rw [List.takeWhile_append_of_pos digit, stops, List.append_nil]

theorem isBlank_of_isDigit {c : Char} (digit : c.isDigit = true) : isBlank c = false := by
  have range : 48 ≤ c.toNat ∧ c.toNat ≤ 57 := by
    simpa [Char.isDigit, UInt32.le_iff_toNat_le] using digit
  simp [isBlank, blankRanges]
  omega

theorem isDigit_of_isBlank {c : Char} (blank : isBlank c = true) : c.isDigit = false := by
  cases digit : c.isDigit with
  | false => rfl
  | true => exact absurd blank (by simp [isBlank_of_isDigit digit])

end Text

/-! ## Numbers -/

section

variable {digits : List Char}

theorem ofDigitChars_dropWhile_zero (digits : List Char) :
    Nat.ofDigitChars 10 (digits.dropWhile (· = '0')) 0 = Nat.ofDigitChars 10 digits 0 := by
  induction digits with
  | nil => rfl
  | cons c rest inductionHypothesis =>
    by_cases zero : c = '0'
    · subst zero
      simpa [Nat.ofDigitChars_cons] using inductionHypothesis
    · simp [zero]

/-- A number that begins with another digit than zero has at least the value of its first place. -/
theorem pow_le_ofDigitChars {c : Char} (rest : List Char) (digit : c.isDigit = true)
    (nonzero : c ≠ '0') : 10 ^ rest.length ≤ Nat.ofDigitChars 10 (c :: rest) 0 := by
  have value : 48 < c.toNat := by
    have least : 48 ≤ c.toNat := by
      have range := digit
      simp [Char.isDigit, UInt32.le_iff_toNat_le] at range
      exact range.1
    have other : c.toNat ≠ 48 := fun same => nonzero (Char.toNat_inj.mp same)
    omega
  rw [Nat.ofDigitChars_cons, Nat.ofDigitChars_eq_ofDigitChars_zero]
  have place : 1 ≤ 10 * 0 + (c.toNat - '0'.toNat) := by
    change 1 ≤ 10 * 0 + (c.toNat - 48)
    omega
  exact Nat.le_trans (Nat.le_mul_of_pos_right _ place) (Nat.le_add_right _ _)

/-- The check of the length refuses only numbers that are too big anyway. -/
theorem literalValue?_eq (digit : ∀ c ∈ digits, c.isDigit = true) :
    literalValue? digits =
      if Nat.ofDigitChars 10 digits 0 ≤ maxLiteral then some (Nat.ofDigitChars 10 digits 0)
      else none := by
  rw [literalValue?, ← ofDigitChars_dropWhile_zero digits]
  generalize split : digits.dropWhile (fun c => decide (c = '0')) = significant
  dsimp only
  by_cases long : maxLiteralDigits < significant.length
  · have big : maxLiteral < Nat.ofDigitChars 10 significant 0 := by
      obtain _ | ⟨c, rest⟩ := significant
      · cases long
      · have member : c ∈ digits := by
          apply (List.dropWhile_sublist fun c => decide (c = '0')).mem
          simp [split]
        have nonzero : c ≠ '0' := by
          have stops := List.head?_dropWhile_not (fun c => decide (c = '0')) digits
          simpa [split] using stops
        have places : 10 ^ 19 ≤ 10 ^ rest.length :=
          Nat.pow_le_pow_right (by decide) (Nat.le_of_lt_succ long)
        have least := pow_le_ofDigitChars rest (digit c member) nonzero
        simp only [maxLiteral]
        omega
    rw [if_pos long, if_neg (Nat.not_le_of_lt big)]
  · rw [if_neg long]
    by_cases big : maxLiteral < Nat.ofDigitChars 10 significant 0
    · rw [if_pos big, if_neg (Nat.not_le_of_lt big)]
    · rw [if_neg big, if_pos (Nat.le_of_not_lt big)]

end

/-! ## Lexemes -/

/-- What a symbol is written as.  A number may have leading zeros. -/
inductive Lexeme : Symbol → List Char → Prop where
  | leftParen : Lexeme .leftParen ['(']
  | rightParen : Lexeme .rightParen [')']
  | operator (op : Operator) : Lexeme (.operator op) [op.sign]
  | mod : Lexeme .mod ['m', 'o', 'd']
  | number {digits : List Char} {value : Nat} (nonempty : digits ≠ [])
      (digit : ∀ c ∈ digits, c.isDigit = true) (decimal : Nat.ofDigitChars 10 digits 0 = value)
      (small : value ≤ maxLiteral) : Lexeme (.number (some value)) digits

def Symbol.isNumber : Symbol → Bool
  | .number _ => true
  | _ => false

namespace Lexeme

variable {symbol : Symbol} {letters : List Char}

theorem ne_nil (lexeme : Lexeme symbol letters) : letters ≠ [] := by
  cases lexeme with
  | number nonempty _ _ _ => exact nonempty
  | _ => exact List.cons_ne_nil _ _

theorem not_isBlank (lexeme : Lexeme symbol letters) : ∀ c ∈ letters, Text.isBlank c = false := by
  cases lexeme with
  | operator op => cases op <;> simp [Operator.sign, Text.isBlank, Text.blankRanges]
  | number _ digit _ _ => exact fun c member => Text.isBlank_of_isDigit (digit c member)
  | _ => simp [Text.isBlank, Text.blankRanges]

theorem isDigit (lexeme : Lexeme symbol letters) (number : symbol.isNumber = true) :
    ∀ c ∈ letters, c.isDigit = true := by
  cases lexeme with
  | number _ digit _ _ => exact digit
  | _ => cases number

theorem not_isDigit (lexeme : Lexeme symbol letters) (word : symbol.isNumber = false) :
    ∀ c ∈ letters, c.isDigit = false := by
  cases lexeme with
  | operator op => cases op <;> simp [Operator.sign]
  | number _ _ _ _ => cases word
  | _ => simp

theorem eq_number (lexeme : Lexeme symbol letters) (number : symbol.isNumber = true) :
    symbol = .number (some (Nat.ofDigitChars 10 letters 0 : Nat)) := by
  cases lexeme with
  | number _ _ decimal _ => rw [decimal]
  | _ => cases number

theorem isNumber_of_isDigit (lexeme : Lexeme symbol letters) {c : Char} (member : c ∈ letters)
    (digit : c.isDigit = true) : symbol.isNumber = true := by
  by_contra word
  have plain := lexeme.not_isDigit (by simpa using word) c member
  rw [digit] at plain
  cases plain

end Lexeme

/-- A symbol that can be written. -/
def Symbol.Writable (symbol : Symbol) : Prop := ∃ letters, Lexeme symbol letters

theorem Lexeme.toDigits {value : Nat} (small : value ≤ maxLiteral) :
    Lexeme (.number (some value)) (Nat.toDigits 10 value) :=
  .number Nat.toDigits_ne_nil (fun _ => Nat.isDigit_of_mem_toDigits (by decide) (by decide))
    Nat.ofDigitChars_ten_toDigits small

/-- A symbol that can be written is written as its text. -/
theorem Symbol.Writable.lexeme_text {symbol : Symbol} (writable : symbol.Writable) :
    Lexeme symbol symbol.text.toList := by
  obtain ⟨letters, lexeme⟩ := writable
  cases lexeme with
  | leftParen => exact .leftParen
  | rightParen => exact .rightParen
  | operator op =>
    rw [Symbol.text, Char.toString_eq_singleton, String.toList_singleton]
    exact .operator op
  | mod => exact .mod
  | @number _ value _ _ _ small =>
    rw [Symbol.text, Int.toString_eq_repr, Int.repr_eq_if, if_pos (Int.natCast_nonneg value),
      Int.toNat_natCast, Nat.toList_repr]
    exact .toDigits small

/-! ## The front of a text -/

theorem Symbol.ofChar?_eq_some {c : Char} {symbol : Symbol}
    (found : Symbol.ofChar? c = some symbol) : Lexeme symbol [c] ∧ c.isDigit = false := by
  unfold Symbol.ofChar? at found
  split at found <;> cases found
  · exact ⟨.leftParen, rfl⟩
  · exact ⟨.rightParen, rfl⟩
  · exact ⟨.operator .add, rfl⟩
  · exact ⟨.operator .sub, rfl⟩
  · exact ⟨.operator .mul, rfl⟩
  · exact ⟨.operator .div, rfl⟩

theorem Symbol.ofChar?_of_isDigit {c : Char} (digit : c.isDigit = true) :
    Symbol.ofChar? c = none := by
  cases found : Symbol.ofChar? c with
  | none => rfl
  | some symbol =>
    rw [(Symbol.ofChar?_eq_some found).2] at digit
    cases digit

/-- A run of digits is read as a number, and as the whole of the run. -/
theorem Symbol.front_digits {c : Char} {more after : List Char}
    (digit : ∀ d ∈ c :: more, d.isDigit = true)
    (ends : Text.cutsDigits (c :: more) after = false) :
    Symbol.front c (more ++ after) =
      if Nat.ofDigitChars 10 (c :: more) 0 ≤ maxLiteral then
        .ok (.number (some (Nat.ofDigitChars 10 (c :: more) 0 : Nat)), (c :: more).length)
      else .error .numberTooBig := by
  have first := digit c List.mem_cons_self
  have letter : c ≠ 'm' := by
    rintro rfl
    cases first
  have run : (more ++ after).takeWhile Char.isDigit = more := by
    have whole := Text.takeWhile_isDigit (List.cons_ne_nil c more) digit ends
    rw [List.cons_append, List.takeWhile_cons_of_pos first] at whole
    exact (List.cons.inj whole).2
  rw [Symbol.front, Symbol.ofChar?_of_isDigit first, run]
  simp only [letter, first, if_false, if_true, literalValue?_eq digit]
  by_cases small : Nat.ofDigitChars 10 (c :: more) 0 ≤ maxLiteral
  · simp only [small, if_true]
  · simp only [small, if_false]

/-- A lexeme at the front of a text is read as its symbol. -/
theorem Symbol.front_of_lexeme {symbol : Symbol} {c : Char} {more after : List Char}
    (lexeme : Lexeme symbol (c :: more)) (ends : Text.cutsDigits (c :: more) after = false) :
    Symbol.front c (more ++ after) = .ok (symbol, (c :: more).length) := by
  cases lexeme with
  | operator op => cases op <;> rfl
  | number _ digit decimal small =>
    rw [Symbol.front_digits digit ends, decimal, if_pos small]
  | _ => rfl

/-- What is read at the front of a text stands there as a lexeme, with all its digits. -/
theorem Symbol.lexeme_of_front {symbol : Symbol} {c : Char} {rest : List Char} {width : Nat}
    (found : Symbol.front c rest = .ok (symbol, width)) :
    ∃ more after, rest = more ++ after ∧ width = (c :: more).length ∧
      Lexeme symbol (c :: more) ∧ Text.cutsDigits (c :: more) after = false := by
  cases single : Symbol.ofChar? c with
  | some other =>
    have lexeme := Symbol.ofChar?_eq_some single
    simp only [Symbol.front, single, Except.ok.injEq, Prod.mk.injEq] at found
    obtain ⟨rfl, rfl⟩ := found
    exact ⟨[], rest, rfl, rfl, lexeme.1, Text.cutsDigits_of_left rest (by simpa using lexeme.2)⟩
  | none =>
    by_cases letter : c = 'm'
    · subst letter
      simp only [Symbol.front, single, if_true] at found
      split at found
      next word =>
        cases found
        refine ⟨['o', 'd'], rest.drop 2, ?_, rfl, .mod, Text.cutsDigits_of_left _ (by simp)⟩
        rw [← word, List.take_append_drop]
      next => cases found
    · cases digit : c.isDigit with
      | false => simp [Symbol.front, single, letter, digit] at found
      | true =>
        -- The run ends where the digits do, so the number is not cut.
        have digits : ∀ d ∈ c :: rest.takeWhile Char.isDigit, d.isDigit = true :=
          List.forall_mem_cons.mpr ⟨digit, fun d => List.mem_takeWhile_imp⟩
        have ends : Text.cutsDigits (c :: rest.takeWhile Char.isDigit)
            (rest.dropWhile Char.isDigit) = false := by
          have stops := List.head?_dropWhile_not Char.isDigit rest
          rw [Text.cutsDigits]
          cases first : (rest.dropWhile Char.isDigit).head? with
          | none => simp
          | some d =>
            rw [first] at stops
            simp [stops]
        have whole : rest.takeWhile Char.isDigit ++ rest.dropWhile Char.isDigit = rest :=
          List.takeWhile_append_dropWhile
        rw [← whole, Symbol.front_digits digits ends] at found
        split at found
        next small =>
          cases found
          exact ⟨_, _, whole.symm, rfl, .number (List.cons_ne_nil _ _) digits rfl small, ends⟩
        next => cases found

/-- The front of a text is refused as a number where it is a digit. -/
theorem Symbol.cause_of_front {c : Char} {rest : List Char} {cause : LexCause}
    (failed : Symbol.front c rest = .error cause) :
    cause = if c.isDigit then .numberTooBig else .invalidToken := by
  cases single : Symbol.ofChar? c with
  | some symbol => simp [Symbol.front, single] at failed
  | none =>
    by_cases letter : c = 'm'
    · subst letter
      simp only [Symbol.front, single, if_true] at failed
      split at failed <;> cases failed
      rfl
    · simp only [Symbol.front, single, letter, if_false] at failed
      split at failed
      next digit =>
        split at failed <;> cases failed
        rw [if_pos digit]
      next plain =>
        cases failed
        rw [if_neg plain]

end RingCalc
