import RingCalc.Proofs.Token.Lexeme

/-!
# Layouts

A layout is a text taken apart: lexemes with blanks before, between and after them, where no two
numbers touch.  A row of words is read word by word, whatever stands behind it, so a text has at
most one layout.
-/

namespace RingCalc

/-! ## Words -/

/-- A symbol as it stands in a text, with the blanks before it. -/
structure Word where
  blanks : List Char
  letters : List Char
  symbol : Symbol
  blank : ∀ c ∈ blanks, Text.isBlank c = true
  lexeme : Lexeme symbol letters

namespace Word

def text (word : Word) : List Char := word.blanks ++ word.letters

/-- Two numbers in a row have blanks between them. -/
def Apart (first second : Word) : Prop :=
  first.symbol.isNumber = true → second.symbol.isNumber = true → second.blanks ≠ []

/-- The text of some words and of the blanks after the last one. -/
def textOf (words : List Word) (tail : List Char) : List Char :=
  words.flatMap text ++ tail

/-- The tokens of some words in a row that begins at a given place. -/
def tokensFrom (pos : Nat) : List Word → List Token
  | [] => []
  | word :: rest =>
    ⟨word.symbol, (pos + word.blanks.length : Nat)⟩ :: tokensFrom (pos + word.text.length) rest

theorem text_ne_nil (word : Word) : word.text ≠ [] :=
  List.append_ne_nil_of_right_ne_nil _ word.lexeme.ne_nil

theorem textOf_cons (word : Word) (words : List Word) (tail : List Char) :
    textOf (word :: words) tail = word.text ++ textOf words tail := by
  simp [textOf]

theorem map_symbol_tokensFrom (pos : Nat) (words : List Word) :
    (tokensFrom pos words).map Token.symbol = words.map symbol := by
  induction words generalizing pos with
  | nil => rfl
  | cons word rest inductionHypothesis => simp [tokensFrom, inductionHypothesis]

theorem le_pos_of_mem_tokensFrom {pos : Nat} {words : List Word} {token : Token}
    (member : token ∈ tokensFrom pos words) : (pos : Int) ≤ token.pos := by
  induction words generalizing pos with
  | nil => cases member
  | cons word rest inductionHypothesis =>
    obtain rfl | later := List.mem_cons.mp member
    · dsimp only
      omega
    · have bound := inductionHypothesis later
      omega

/-- At the place of a token stands its lexeme. -/
theorem exists_lexeme_of_mem_tokensFrom {pos : Nat} {words : List Word} {token : Token}
    (member : token ∈ tokensFrom pos words) (tail : List Char) :
    ∃ before letters after, before ++ letters ++ after = textOf words tail ∧
      Lexeme token.symbol letters ∧ token.pos = (pos + before.length : Nat) := by
  induction words generalizing pos with
  | nil => cases member
  | cons word rest inductionHypothesis =>
    rw [textOf_cons]
    obtain rfl | later := List.mem_cons.mp member
    · exact ⟨word.blanks, word.letters, textOf rest tail, rfl, word.lexeme, rfl⟩
    · obtain ⟨before, letters, after, whole, lexeme, place⟩ := inductionHypothesis later
      refine ⟨word.text ++ before, letters, after, ?_, lexeme, ?_⟩
      · rw [← whole, List.append_assoc, List.append_assoc, List.append_assoc]
      · rw [place, List.length_append, Nat.add_assoc]

theorem pairwise_tokensFrom (pos : Nat) (words : List Word) :
    (tokensFrom pos words).Pairwise fun first second => first.pos < second.pos := by
  induction words generalizing pos with
  | nil => exact .nil
  | cons word rest inductionHypothesis =>
    refine .cons (fun token member => ?_) (inductionHypothesis _)
    have bound := le_pos_of_mem_tokensFrom member
    have width := List.length_pos_of_ne_nil word.lexeme.ne_nil
    simp only [text, List.length_append] at bound
    dsimp only
    omega

theorem tokensFrom_append (pos : Nat) (left right : List Word) :
    tokensFrom pos (left ++ right) =
      tokensFrom pos left ++ tokensFrom (pos + (left.flatMap text).length) right := by
  induction left generalizing pos with
  | nil => rfl
  | cons word rest inductionHypothesis =>
    simp [tokensFrom, inductionHypothesis, Nat.add_assoc]

/-! ### Where words meet -/

theorem cutsDigits_of_apart {first second : Word} (apart : first.Apart second) :
    Text.cutsDigits first.letters second.text = false := by
  cases number : first.symbol.isNumber with
  | false => exact Text.cutsDigits_of_left _ (first.lexeme.not_isDigit number)
  | true =>
    by_cases touching : second.blanks = []
    · cases other : second.symbol.isNumber with
      | false =>
        rw [text, touching, List.nil_append]
        exact Text.cutsDigits_of_right _ (second.lexeme.not_isDigit other)
      | true => exact absurd touching (apart number other)
    · rw [text, Text.cutsDigits_append_right _ touching]
      exact Text.cutsDigits_of_right _ fun c member =>
        Text.isDigit_of_isBlank (second.blank c member)

theorem apart_of_cutsDigits {first second : Word}
    (ends : Text.cutsDigits first.letters second.text = false) : first.Apart second := by
  intro number other touching
  rw [text, touching, List.nil_append, Text.cutsDigits_of_digits first.lexeme.ne_nil
    (first.lexeme.isDigit number) second.lexeme.ne_nil (second.lexeme.isDigit other)] at ends
  cases ends

theorem cutsDigits_of_isBlank (left : List Char) {tail : List Char}
    (blank : ∀ c ∈ tail, Text.isBlank c = true) : Text.cutsDigits left tail = false :=
  Text.cutsDigits_of_right _ fun c member => Text.isDigit_of_isBlank (blank c member)

/-- A word is read as a whole if what follows the row does not go on with its digits. -/
theorem cutsDigits_textOf {word : Word} {words : List Word} {tail after : List Char}
    (apart : (word :: words).IsChain Apart) (blank : ∀ c ∈ tail, Text.isBlank c = true)
    (ends : Text.cutsDigits (textOf (word :: words) tail) after = false) :
    Text.cutsDigits word.letters (textOf words tail ++ after) = false := by
  -- Behind the word stands the next word, or a blank, or else what follows the row.
  obtain _ | ⟨next, rest⟩ := words
  · obtain _ | ⟨c, more⟩ := tail
    · simpa [textOf, text, Text.cutsDigits_append_left _ word.lexeme.ne_nil] using ends
    · have stops := cutsDigits_of_isBlank word.letters blank
      rw [← Text.cutsDigits_append_right after (List.cons_ne_nil c more)] at stops
      simpa [textOf] using stops
  · have stops := cutsDigits_of_apart apart.rel
    rw [textOf_cons, List.append_assoc, Text.cutsDigits_append_right _ next.text_ne_nil, stops]

theorem cutsDigits_following {word : Word} {words : List Word} {tail : List Char}
    (apart : (word :: words).IsChain Apart) (blank : ∀ c ∈ tail, Text.isBlank c = true) :
    Text.cutsDigits word.letters (textOf words tail) = false :=
  Text.cutsDigits_of_append_right (cutsDigits_textOf apart blank (Text.cutsDigits_nil_right _))

/-- A row that holds a word is not blank. -/
theorem textOf_cons_ne_blank {word : Word} {words : List Word} {tail blanks : List Char}
    (blank : ∀ c ∈ blanks, Text.isBlank c = true) : textOf (word :: words) tail ≠ blanks := by
  intro same
  obtain ⟨c, member⟩ := List.exists_mem_of_ne_nil _ word.lexeme.ne_nil
  have inside : c ∈ textOf (word :: words) tail := by
    simp [textOf_cons, text, member]
  rw [same] at inside
  have visible := word.lexeme.not_isBlank c member
  rw [blank c inside] at visible
  cases visible

end Word

/-! ## Whole numbers -/

/-- Digits of a text, between what stands before and what stands after them, with all the digits of
their run. -/
structure WholeNumber (before digits after : List Char) : Prop where
  visible : digits ≠ []
  digit : ∀ c ∈ digits, c.isDigit = true
  begins : Text.cutsDigits before digits = false
  ends : Text.cutsDigits digits after = false

namespace WholeNumber

variable {before digits after : List Char}

theorem of_append_left {front : List Char} (number : WholeNumber (front ++ before) digits after) :
    WholeNumber before digits after :=
  { number with begins := Text.cutsDigits_of_append_left number.begins }

theorem head_digit {c : Char} {more rest : List Char} (number : WholeNumber before digits after)
    (same : digits ++ after = (c :: more) ++ rest) : c.isDigit = true := by
  obtain _ | ⟨d, others⟩ := digits
  · exact absurd rfl number.visible
  · rw [List.cons_append, List.cons_append, List.cons_eq_cons] at same
    rw [← same.1]
    exact number.digit d List.mem_cons_self

/-- A whole number at the place of a word is that word. -/
theorem eq_word {word : Word} {rest : List Char} (number : WholeNumber before digits after)
    (stops : Text.cutsDigits word.letters rest = false)
    (same : digits ++ after = word.letters ++ rest) :
    word.symbol.isNumber = true ∧ digits = word.letters ∧ after = rest := by
  have isNumber : word.symbol.isNumber = true := by
    obtain ⟨c, more, letters⟩ := List.exists_cons_of_ne_nil word.lexeme.ne_nil
    rw [letters] at same
    exact word.lexeme.isNumber_of_isDigit (by simp [letters]) (number.head_digit same)
  have run := Text.takeWhile_isDigit number.visible number.digit number.ends
  rw [same, Text.takeWhile_isDigit word.lexeme.ne_nil (word.lexeme.isDigit isNumber) stops] at run
  rw [← run] at same
  exact ⟨isNumber, run.symm, List.append_cancel_left same⟩

/-- No whole number begins inside a word: only at the end of its blanks or behind it. -/
theorem place {word : Word} {rest : List Char} (number : WholeNumber before digits after)
    (whole : word.text ++ rest = before ++ (digits ++ after)) :
    before = word.blanks ∧ digits ++ after = word.letters ++ rest ∨
      ∃ more, before = word.text ++ more ∧ rest = more ++ (digits ++ after) := by
  obtain ⟨more, front, rests⟩ | ⟨inner, text, rests⟩ := List.append_eq_append_iff.mp whole
  · exact .inr ⟨more, front, rests⟩
  obtain _ | ⟨c, others⟩ := inner
  · exact .inr ⟨[], by simpa using text.symm, by simpa using rests.symm⟩
  have digit := number.head_digit rests
  obtain ⟨front, rfl, letters⟩ | ⟨blanks, split, cut⟩ := List.append_eq_append_iff.mp text
  · -- The digit at the cut makes the word a number, which has nothing but digits before it.
    have isNumber := word.lexeme.isNumber_of_isDigit (by simp [letters]) digit
    have empty : front = [] := by
      by_contra visible
      have inside : ∀ d ∈ front, d.isDigit = true := fun d member =>
        word.lexeme.isDigit isNumber d (by simp [letters, member])
      have begins := number.begins
      rw [Text.cutsDigits_append_left _ visible, Text.cutsDigits_of_digits visible inside
        number.visible number.digit] at begins
      cases begins
    subst empty
    rw [List.nil_append] at letters
    rw [← letters] at rests
    exact .inl ⟨List.append_nil _, rests⟩
  · obtain _ | ⟨d, more⟩ := blanks
    · rw [List.nil_append] at cut
      rw [cut] at rests
      exact .inl ⟨by simpa using split.symm, rests⟩
    · obtain ⟨rfl, -⟩ := List.cons_eq_cons.mp cut
      have visible := Text.isBlank_of_isDigit digit
      rw [word.blank c (by simp [split])] at visible
      cases visible

/-- A whole number in the text of some words is one of the words. -/
theorem exists_word {words : List Word} {tail : List Char}
    (number : WholeNumber before digits after) (apart : words.IsChain Word.Apart)
    (blank : ∀ c ∈ tail, Text.isBlank c = true)
    (whole : Word.textOf words tail = before ++ (digits ++ after)) :
    ∃ left word right, words = left ++ word :: right ∧ word.symbol.isNumber = true ∧
      before = Word.textOf left word.blanks ∧ digits = word.letters ∧
      after = Word.textOf right tail := by
  -- A word that stands before the number is taken off what stands before it.
  induction words generalizing before with
  | nil =>
    obtain ⟨c, member⟩ := List.exists_mem_of_ne_nil _ number.visible
    have inside : c ∈ tail := by
      change tail = before ++ (digits ++ after) at whole
      simp [whole, member]
    have visible := Text.isBlank_of_isDigit (number.digit c member)
    rw [blank c inside] at visible
    cases visible
  | cons word rest inductionHypothesis =>
    rw [Word.textOf_cons] at whole
    obtain ⟨front, same⟩ | ⟨more, rfl, rests⟩ := number.place whole
    · obtain ⟨isNumber, letters, behind⟩ :=
        number.eq_word (Word.cutsDigits_following apart blank) same
      exact ⟨[], word, rest, rfl, isNumber, front, letters, behind⟩
    · obtain ⟨left, other, right, rfl, isNumber, rfl, letters, behind⟩ :=
        inductionHypothesis number.of_append_left apart.of_cons rests
      exact ⟨word :: left, other, right, rfl, isNumber, (Word.textOf_cons ..).symm, letters, behind⟩

end WholeNumber

/-! ## Reading words -/

namespace TokenStream

/-- Draining, with the equation of the token left out. -/
theorem drain_eq (stream : TokenStream) :
    stream.drain =
      match stream.pull with
      | .token token after => (token :: after.drain.1, after.drain.2)
      | .failure error => ([], some error)
      | .finished => ([], none) := by
  rw [drain]
  split <;> rename_i pulled <;> rw [pulled]

theorem skipBlanks_append {blanks : List Char} (blank : ∀ c ∈ blanks, Text.isBlank c = true)
    (rest : List Char) (pos : Nat) :
    skipBlanks ⟨blanks ++ rest, pos⟩ = skipBlanks ⟨rest, pos + blanks.length⟩ := by
  simp [skipBlanks, List.takeWhile_append_of_pos blank, List.dropWhile_append_of_pos blank,
    Nat.add_assoc]

theorem drain_blanks {blanks : List Char} (blank : ∀ c ∈ blanks, Text.isBlank c = true)
    (rest : List Char) (pos : Nat) :
    drain ⟨blanks ++ rest, pos⟩ = drain ⟨rest, pos + blanks.length⟩ := by
  rw [drain_eq, pull, skipBlanks_append blank, ← pull, ← drain_eq]

theorem pull_word (word : Word) {rest : List Char}
    (ends : Text.cutsDigits word.letters rest = false) (pos : Nat) :
    pull ⟨word.text ++ rest, pos⟩ =
      .token ⟨word.symbol, (pos + word.blanks.length : Nat)⟩ ⟨rest, pos + word.text.length⟩ := by
  obtain ⟨blanks, letters, symbol, blank, lexeme⟩ := word
  obtain _ | ⟨c, more⟩ := letters
  · exact absurd rfl lexeme.ne_nil
  · have visible := lexeme.not_isBlank c List.mem_cons_self
    have front := Symbol.front_of_lexeme lexeme ends
    rw [Word.text, List.append_assoc, pull, skipBlanks_append blank]
    simp [skipBlanks, pullHere, visible, front, skip, Nat.add_assoc]

/-- Reading a row of words gives their tokens and goes on with what follows. -/
theorem drain_textOf {words : List Word} {tail after : List Char}
    (apart : words.IsChain Word.Apart) (blank : ∀ c ∈ tail, Text.isBlank c = true)
    (ends : Text.cutsDigits (Word.textOf words tail) after = false) (pos : Nat) :
    drain ⟨Word.textOf words tail ++ after, pos⟩ =
      (Word.tokensFrom pos words ++ (drain ⟨after, pos + (Word.textOf words tail).length⟩).1,
        (drain ⟨after, pos + (Word.textOf words tail).length⟩).2) := by
  induction words generalizing pos with
  | nil => exact drain_blanks blank after pos
  | cons word rest inductionHypothesis =>
    have stops := Word.cutsDigits_textOf apart blank ends
    rw [Word.textOf_cons] at ends
    have later := Text.cutsDigits_of_append_left ends
    rw [Word.textOf_cons, List.append_assoc, drain_eq, pull_word word stops]
    simp [inductionHypothesis apart.of_cons later, Word.tokensFrom, Nat.add_assoc]

end TokenStream

/-! ## Layouts -/

/-- A text taken apart into words and the blanks after the last one. -/
structure Layout where
  words : List Word
  tail : List Char
  apart : words.IsChain Word.Apart
  blank : ∀ c ∈ tail, Text.isBlank c = true

namespace Layout

def text (layout : Layout) : List Char := Word.textOf layout.words layout.tail

/-- The tokens of a layout; the place of a token is that of its lexeme in the text. -/
def tokens (layout : Layout) : List Token := Word.tokensFrom 0 layout.words

def ofBlanks (tail : List Char) (blank : ∀ c ∈ tail, Text.isBlank c = true) : Layout where
  words := []
  tail := tail
  apart := .nil
  blank := blank

theorem text_ofBlanks {tail : List Char} (blank : ∀ c ∈ tail, Text.isBlank c = true) :
    (ofBlanks tail blank).text = tail := rfl

/-- A word in front of a layout. -/
def cons (word : Word) (layout : Layout)
    (ends : Text.cutsDigits word.letters layout.text = false) : Layout where
  words := word :: layout.words
  tail := layout.tail
  apart := by
    refine layout.apart.cons fun next first => Word.apart_of_cutsDigits ?_
    obtain ⟨rest, split⟩ := List.head?_eq_some_iff.mp first
    rwa [text, split, Word.textOf_cons, Text.cutsDigits_append_right _ next.text_ne_nil] at ends
  blank := layout.blank

theorem text_cons {word : Word} {layout : Layout}
    (ends : Text.cutsDigits word.letters layout.text = false) :
    (layout.cons word ends).text = word.text ++ layout.text :=
  Word.textOf_cons word layout.words layout.tail

/-! ### At most one layout -/

/-- The text of a row of words shows where the words are. -/
theorem eq_of_textOf_eq {words others : List Word} {tail otherTail : List Char}
    (apart : words.IsChain Word.Apart) (otherApart : others.IsChain Word.Apart)
    (blank : ∀ c ∈ tail, Text.isBlank c = true)
    (otherBlank : ∀ c ∈ otherTail, Text.isBlank c = true)
    (same : Word.textOf words tail = Word.textOf others otherTail) :
    words = others ∧ tail = otherTail := by
  induction words generalizing others with
  | nil =>
    obtain _ | ⟨other, otherRest⟩ := others
    · exact ⟨rfl, same⟩
    · exact absurd same.symm (Word.textOf_cons_ne_blank blank)
  | cons word rest inductionHypothesis =>
    obtain _ | ⟨other, otherRest⟩ := others
    · exact absurd same (Word.textOf_cons_ne_blank otherBlank)
    · rw [Word.textOf_cons, Word.textOf_cons] at same
      -- Both words are what is read at the front of the text.
      have pulled := TokenStream.pull_word word (Word.cutsDigits_following apart blank) 0
      have stops := Word.cutsDigits_following otherApart otherBlank
      rw [same, TokenStream.pull_word other stops] at pulled
      simp only [TokenStream.Pull.token.injEq, Token.mk.injEq, TokenStream.mk.injEq] at pulled
      obtain ⟨⟨symbol, place⟩, remaining, -⟩ := pulled
      rw [remaining] at same
      obtain ⟨blanks, letters⟩ := List.append_inj (List.append_cancel_right same) (by omega)
      obtain ⟨rfl, rfl⟩ := inductionHypothesis apart.of_cons otherApart.of_cons remaining.symm
      cases word
      cases other
      simp_all

theorem text_injective {first second : Layout} (same : first.text = second.text) :
    first = second := by
  obtain ⟨words, tail⟩ :=
    eq_of_textOf_eq first.apart second.apart first.blank second.blank same
  cases first
  cases second
  simp_all

end Layout

end RingCalc
