import RingCalc.Proofs.Token.Layout

/-!
# What a text is read as

A text is read without an error exactly when it has a layout, and the tokens are those of the
layout.  Every other text falls into a part that is read without an error and a rest that begins
with a character that is no blank and no lexeme; there is only one such place, and the error is
reported there.
-/

namespace RingCalc

/-! ## The front of every text -/

/-- No token can be read at the front of a text, which is no blank. -/
def Stuck (text : List Char) : Prop :=
  ∃ c rest cause, text = c :: rest ∧ Text.isBlank c = false ∧ Symbol.front c rest = .error cause

theorem exists_layout (text : List Char) :
    ∃ (layout : Layout) (after : List Char), layout.text ++ after = text ∧
      Text.cutsDigits layout.text after = false ∧ (after = [] ∨ Stuck after) := by
  -- A word is followed by a shorter text.
  induction size : text.length using Nat.strongRecOn generalizing text with
  | _ count inductionHypothesis =>
    have blank : ∀ c ∈ text.takeWhile Text.isBlank, Text.isBlank c = true :=
      fun c => List.mem_takeWhile_imp
    have whole : text.takeWhile Text.isBlank ++ text.dropWhile Text.isBlank = text :=
      List.takeWhile_append_dropWhile
    have visible := List.head?_dropWhile_not Text.isBlank text
    generalize text.takeWhile Text.isBlank = blanks at blank whole
    generalize text.dropWhile Text.isBlank = rest at whole visible
    obtain _ | ⟨c, rest⟩ := rest
    · exact ⟨.ofBlanks blanks blank, [], whole, Text.cutsDigits_nil_right _, .inl rfl⟩
    · cases front : Symbol.front c rest with
      | error cause =>
        have starts : Text.cutsDigits blanks (c :: rest) = false :=
          Text.cutsDigits_of_left _ fun d member => Text.isDigit_of_isBlank (blank d member)
        exact ⟨.ofBlanks blanks blank, c :: rest, whole, starts,
          .inr ⟨c, rest, cause, rfl, visible, front⟩⟩
      | ok found =>
        obtain ⟨symbol, width⟩ := found
        obtain ⟨more, remaining, rfl, -, lexeme, ends⟩ := Symbol.lexeme_of_front front
        have shorter : remaining.length < count := by
          rw [← size, ← whole]
          simp
          omega
        obtain ⟨layout, after, split, joins, stops⟩ :=
          inductionHypothesis remaining.length shorter remaining rfl
        rw [← split] at ends
        refine ⟨layout.cons ⟨blanks, c :: more, symbol, blank, lexeme⟩
          (Text.cutsDigits_of_append_right ends), after, ?_, ?_, stops⟩
        · simp [Layout.text_cons, Word.text, split, whole]
        · rw [Layout.text_cons]
          exact Text.cutsDigits_append blanks (List.cons_ne_nil c more) ends joins

/-! ## Reading texts -/

namespace TokenStream

theorem drain_nil (pos : Nat) : drain ⟨[], pos⟩ = ([], none) := by
  rw [drain_eq]
  rfl

theorem drain_layout (layout : Layout) (pos : Nat) :
    drain ⟨layout.text, pos⟩ = (Word.tokensFrom pos layout.words, none) := by
  have reads := drain_textOf layout.apart layout.blank (Text.cutsDigits_nil_right _) pos
  rw [List.append_nil, drain_nil, List.append_nil] at reads
  exact reads

/-- Whether the text that cannot be read begins with a digit decides what is wrong with it. -/
def causeAt (text : List Char) : LexCause :=
  if text.head?.any Char.isDigit then .numberTooBig else .invalidToken

theorem drain_of_stuck {text : List Char} (stuck : Stuck text) (pos : Nat) :
    drain ⟨text, pos⟩ = ([], some ⟨causeAt text, pos⟩) := by
  obtain ⟨c, rest, cause, rfl, visible, front⟩ := stuck
  have same : causeAt (c :: rest) = cause := (Symbol.cause_of_front front).symm
  rw [drain_eq, same]
  simp [pull, skipBlanks, pullHere, visible, front]

/-- A text is read without an error exactly when it has a layout. -/
theorem drain_eq_none_iff {text : List Char} {tokens : List Token} :
    drain (ofList text) = (tokens, none) ↔
      ∃ layout : Layout, layout.text = text ∧ layout.tokens = tokens := by
  constructor
  · intro reads
    obtain ⟨layout, after, rfl, ends, rfl | stuck⟩ := exists_layout text
    · rw [List.append_nil, ofList, drain_layout] at reads
      exact ⟨layout, (List.append_nil _).symm, congrArg Prod.fst reads⟩
    · rw [Layout.text, ofList, drain_textOf layout.apart layout.blank ends,
        drain_of_stuck stuck] at reads
      cases congrArg Prod.snd reads
  · rintro ⟨layout, rfl, rfl⟩
    exact drain_layout layout 0

end TokenStream

theorem tokenize_eq_ok_iff {text : String} {tokens : List Token} :
    tokenize text = .ok tokens ↔ (TokenStream.ofString text).drain = (tokens, none) := by
  rw [tokenize, TokenStream.tokens]
  obtain ⟨read, none | error⟩ := (TokenStream.ofString text).drain
  · simp
  · simp

theorem exists_lexeme_of_tokenize {text : String} {tokens : List Token} {token : Token}
    (read : tokenize text = .ok tokens) (member : token ∈ tokens) :
    ∃ before letters after, before ++ letters ++ after = text.toList ∧
      Lexeme token.symbol letters ∧ token.pos = (before.length : Nat) := by
  obtain ⟨layout, whole, rfl⟩ := TokenStream.drain_eq_none_iff.mp (tokenize_eq_ok_iff.mp read)
  obtain ⟨before, letters, after, split, lexeme, place⟩ :=
    Word.exists_lexeme_of_mem_tokensFrom member layout.tail
  refine ⟨before, letters, after, split.trans whole, lexeme, ?_⟩
  rw [place, Nat.zero_add]

/-! ## The place of the error -/

/-- A text can be read up to a place, and no further. -/
structure Flaw (text before rest : List Char) : Prop where
  whole : before ++ rest = text
  reads : ∃ tokens, (TokenStream.ofList before).drain = (tokens, none)
  apart : Text.cutsDigits before rest = false
  visible : ∃ c ∈ rest.head?, Text.isBlank c = false
  /-- Where a lexeme stands at the front of the rest, it is a part of a longer run of digits. -/
  bare : ∀ symbol letters after, Lexeme symbol letters → rest = letters ++ after →
    Text.cutsDigits letters after = true

namespace Flaw

variable {text before rest : List Char}

theorem of_stuck {layout : Layout} (ends : Text.cutsDigits layout.text rest = false)
    (stuck : Stuck rest) : Flaw (layout.text ++ rest) layout.text rest where
  whole := rfl
  reads := ⟨_, TokenStream.drain_layout layout 0⟩
  apart := ends
  visible := by
    obtain ⟨c, more, cause, rfl, visible, -⟩ := stuck
    exact ⟨c, rfl, visible⟩
  bare symbol letters after lexeme split := by
    obtain ⟨c, more, cause, rfl, -, front⟩ := stuck
    obtain _ | ⟨first, letters⟩ := letters
    · exact absurd rfl lexeme.ne_nil
    · rw [List.cons_append, List.cons_eq_cons] at split
      obtain ⟨rfl, rfl⟩ := split
      cases joined : Text.cutsDigits (c :: letters) after with
      | true => rfl
      | false =>
        rw [Symbol.front_of_lexeme lexeme joined] at front
        cases front

theorem stuck (flaw : Flaw text before rest) : Stuck rest := by
  obtain ⟨c, first, visible⟩ := flaw.visible
  obtain ⟨more, rfl⟩ := List.head?_eq_some_iff.mp first
  cases front : Symbol.front c more with
  | error cause => exact ⟨c, more, cause, rfl, visible, front⟩
  | ok found =>
    obtain ⟨letters, after, rfl, -, lexeme, ends⟩ := Symbol.lexeme_of_front front
    have joined := flaw.bare _ _ after lexeme rfl
    rw [ends] at joined
    cases joined

/-- Reading a text with a flaw gives the tokens before it and the error at it. -/
theorem drain (flaw : Flaw text before rest) {tokens : List Token}
    (reads : (TokenStream.ofList before).drain = (tokens, none)) :
    (TokenStream.ofList text).drain =
      (tokens, some ⟨TokenStream.causeAt rest, before.length⟩) := by
  obtain ⟨layout, rfl, rfl⟩ := TokenStream.drain_eq_none_iff.mp reads
  have whole := TokenStream.drain_textOf layout.apart layout.blank flaw.apart 0
  rw [TokenStream.drain_of_stuck flaw.stuck, Nat.zero_add, List.append_nil] at whole
  rw [← flaw.whole]
  exact whole

theorem unique {other otherRest : List Char} (first : Flaw text before rest)
    (second : Flaw text other otherRest) : other = before ∧ otherRest = rest := by
  obtain ⟨tokens, reads⟩ := first.reads
  obtain ⟨otherTokens, otherReads⟩ := second.reads
  have found := first.drain reads
  rw [second.drain otherReads] at found
  simp only [Prod.mk.injEq, Option.some.injEq, LexError.mk.injEq] at found
  exact List.append_inj (second.whole.trans first.whole.symm) found.2.2

end Flaw

theorem Flaw.tokenize_eq {text : String} {before rest : List Char}
    (flaw : Flaw text.toList before rest) :
    tokenize text = .error ⟨TokenStream.causeAt rest, before.length⟩ := by
  obtain ⟨tokens, reads⟩ := flaw.reads
  rw [tokenize, TokenStream.tokens, TokenStream.ofString, flaw.drain reads]

theorem exists_visible_of_tokenize {text : String} {error : LexError}
    (fails : tokenize text = .error error) :
    ∃ c, text.toList[error.pos]? = some c ∧ Text.isBlank c = false := by
  obtain ⟨layout, after, whole, ends, rfl | stuck⟩ := exists_layout text.toList
  · have reads := TokenStream.drain_layout layout 0
    rw [← List.append_nil layout.text, whole] at reads
    rw [tokenize_eq_ok_iff.mpr reads] at fails
    cases fails
  · have flaw := Flaw.of_stuck ends stuck
    rw [whole] at flaw
    have place : error.pos = layout.text.length := by
      rw [flaw.tokenize_eq] at fails
      cases fails
      rfl
    obtain ⟨c, rest, -, rfl, visible, -⟩ := stuck
    refine ⟨c, ?_, visible⟩
    rw [place, ← whole, List.getElem?_append_right (Nat.le_refl _), Nat.sub_self,
      List.getElem?_cons_zero]

/-- Reading is exact.  The texts that are read to their end are those with a layout, which is the
only one and gives the tokens; all others have one flaw, and are read up to it. -/
theorem drain_exact (text : String) :
    (∀ tokens, (TokenStream.ofString text).drain = (tokens, none) ↔
      ∃ layout : Layout, layout.text = text.toList ∧ layout.tokens = tokens) ∧
    (∀ first second : Layout, first.text = text.toList → second.text = text.toList →
      first = second) ∧
    (∀ layout : Layout, layout.text = text.toList →
      layout.tokens.Pairwise fun first second => first.pos < second.pos) ∧
    ((¬ ∃ layout : Layout, layout.text = text.toList) →
      ∃ before rest tokens, Flaw text.toList before rest ∧
        (∀ other otherRest, Flaw text.toList other otherRest →
          other = before ∧ otherRest = rest) ∧
        (TokenStream.ofList before).drain = (tokens, none) ∧
        (TokenStream.ofString text).drain =
          (tokens, some ⟨if rest.head?.any Char.isDigit then .numberTooBig else .invalidToken,
            before.length⟩)) ∧
    LexCause.numberTooBig.message = "Decimal number too big" ∧
    LexCause.invalidToken.message = "Invalid token" := by
  refine ⟨fun tokens => TokenStream.drain_eq_none_iff, ?_, ?_, ?_, rfl, rfl⟩
  · exact fun first second whole other => Layout.text_injective (whole.trans other.symm)
  · exact fun layout _ => Word.pairwise_tokensFrom 0 layout.words
  · intro noLayout
    obtain ⟨layout, rest, whole, ends, rfl | stuck⟩ := exists_layout text.toList
    · rw [List.append_nil] at whole
      exact absurd ⟨layout, whole⟩ noLayout
    · have flaw := Flaw.of_stuck ends stuck
      rw [whole] at flaw
      have reads := TokenStream.drain_layout layout 0
      exact ⟨layout.text, rest, _, flaw, fun _ _ => flaw.unique, reads, flaw.drain reads⟩

/-- A number is read, and the word behind it is refused at its first letter. -/
theorem drain_exact_refused_word :
    (TokenStream.ofString "12 mox").drain =
        ([⟨.number (some 12), 0⟩], some ⟨.invalidToken, 3⟩) ∧
      (¬ ∃ layout : Layout, layout.text = "12 mox".toList) ∧
      Flaw "12 mox".toList "12 ".toList "mox".toList := by
  have reads : (TokenStream.ofString "12 mox").drain =
      ([⟨.number (some 12), 0⟩], some ⟨.invalidToken, 3⟩) := by decide +kernel
  obtain ⟨readable, -, -, refused, -, -⟩ := drain_exact "12 mox"
  have noLayout : ¬ ∃ layout : Layout, layout.text = "12 mox".toList := by
    rintro ⟨layout, whole⟩
    have complete := (readable layout.tokens).mpr ⟨layout, whole, rfl⟩
    rw [reads] at complete
    cases congrArg Prod.snd complete
  obtain ⟨before, rest, tokens, flaw, -, -, found⟩ := refused noLayout
  have place : before.length = 3 := by
    rw [reads] at found
    simp only [Prod.mk.injEq, Option.some.injEq, LexError.mk.injEq] at found
    exact found.2.2.symm
  have whole : before ++ rest = "12 ".toList ++ "mox".toList := flaw.whole
  obtain ⟨rfl, rfl⟩ := List.append_inj whole place
  exact ⟨reads, noLayout, flaw⟩

end RingCalc
