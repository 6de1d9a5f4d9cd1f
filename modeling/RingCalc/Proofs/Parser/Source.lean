import RingCalc.Proofs.Parser.Correctness
import RingCalc.Proofs.Token.Exactness

/-!
# Parsing texts

A text spells some symbols when they are those of its layout.  Two texts that spell something spell
it together as long as no number runs on from the first into the second.  Over checked integers a
text is parsed as the canonical tree whose symbols it spells.
-/

namespace RingCalc

variable {σ α : Type}

/-! ## Spelling -/

/-- A text is made of some symbols, blanks apart. -/
def Spells (text : List Char) (symbols : List Symbol) : Prop :=
  ∃ layout : Layout, layout.text = text ∧ layout.words.map Word.symbol = symbols

theorem tokenize_of_spells {text : String} {symbols : List Symbol}
    (spells : Spells text.toList symbols) :
    ∃ tokens, tokenize text = .ok tokens ∧ tokens.map Token.symbol = symbols := by
  obtain ⟨layout, whole, rfl⟩ := spells
  refine ⟨layout.tokens, ?_, Word.map_symbol_tokensFrom 0 layout.words⟩
  exact tokenize_eq_ok_iff.mpr (TokenStream.drain_eq_none_iff.mpr ⟨layout, whole, rfl⟩)

theorem spells_of_tokenize {text : String} {tokens : List Token}
    (read : tokenize text = .ok tokens) : Spells text.toList (tokens.map Token.symbol) := by
  obtain ⟨layout, whole, rfl⟩ := TokenStream.drain_eq_none_iff.mp (tokenize_eq_ok_iff.mp read)
  exact ⟨layout, whole, (Word.map_symbol_tokensFrom 0 layout.words).symm⟩

theorem parse_of_tokenize {source : String} {tokens : List Token}
    (read : tokenize source = .ok tokens) (ring : Ring σ α) (memory : σ) :
    parse ring source memory = parseTokens ring tokens memory := by
  rw [parse, read]

namespace Spells

variable {text left right : List Char} {symbols first second : List Symbol}

theorem writable (spells : Spells text symbols) : ∀ symbol ∈ symbols, symbol.Writable := by
  obtain ⟨layout, -, rfl⟩ := spells
  intro symbol member
  obtain ⟨word, -, rfl⟩ := List.mem_map.mp member
  exact ⟨word.letters, word.lexeme⟩

theorem of_blank {blanks : List Char} (blank : ∀ c ∈ blanks, Text.isBlank c = true) :
    Spells blanks [] :=
  ⟨.ofBlanks blanks blank, rfl, rfl⟩

theorem blank (spells : Spells text []) : ∀ c ∈ text, Text.isBlank c = true := by
  obtain ⟨⟨words, tail, apart, blank⟩, rfl, noSymbols⟩ := spells
  obtain rfl : words = [] := List.map_eq_nil_iff.mp noSymbols
  exact blank

theorem of_lexeme {symbol : Symbol} {letters : List Char} (lexeme : Lexeme symbol letters) :
    Spells letters [symbol] := by
  have blank : ∀ c ∈ ([] : List Char), Text.isBlank c = true := nofun
  let word : Word := ⟨[], letters, symbol, blank, lexeme⟩
  have ends : Text.cutsDigits word.letters (Layout.ofBlanks [] blank).text = false :=
    Text.cutsDigits_nil_right letters
  refine ⟨.cons word _ ends, ?_, rfl⟩
  rw [Layout.text_cons ends, Layout.text_ofBlanks, List.append_nil]
  rfl

theorem append (leftSpells : Spells left first) (rightSpells : Spells right second)
    (apart : Text.cutsDigits left right = false) : Spells (left ++ right) (first ++ second) := by
  obtain ⟨layout, rfl, rfl⟩ := leftSpells
  obtain ⟨other, rfl, rfl⟩ := rightSpells
  -- The blanks between the parts belong to the words of the second part, so the layout of the
  -- whole is the one that reading finds.
  have reads := TokenStream.drain_textOf layout.apart layout.blank apart 0
  rw [TokenStream.drain_layout] at reads
  obtain ⟨whole, same, tokens⟩ := TokenStream.drain_eq_none_iff.mp reads
  refine ⟨whole, same, ?_⟩
  rw [← Word.map_symbol_tokensFrom 0, ← Layout.tokens, tokens]
  simp [Word.map_symbol_tokensFrom]

theorem cons {symbol : Symbol} {letters : List Char} (lexeme : Lexeme symbol letters)
    (word : symbol.isNumber = false) (spells : Spells text symbols) :
    Spells (letters ++ text) (symbol :: symbols) :=
  (of_lexeme lexeme).append spells (Text.cutsDigits_of_left _ (lexeme.not_isDigit word))

theorem space (spells : Spells text symbols) : Spells (' ' :: text) symbols := by
  have blank : ∀ c ∈ [' '], Text.isBlank c = true := List.forall_mem_singleton.mpr rfl
  exact (of_blank blank).append spells (Text.cutsDigits_of_left text (by simp))

/-- What is spelled in parentheses is a group, whatever it is. -/
theorem group (spells : Spells text symbols) :
    Spells ('(' :: (text ++ [')'])) (.leftParen :: (symbols ++ [.rightParen])) :=
  cons .leftParen rfl
    (spells.append (of_lexeme .rightParen) (Text.cutsDigits_of_right _ (by simp)))

theorem group_between {inner : List Char} {inside : List Symbol} (leftSpells : Spells left first)
    (spells : Spells inner inside) (rightSpells : Spells right second) :
    Spells (left ++ ('(' :: (inner ++ [')']) ++ right))
      (first ++ (.leftParen :: (inside ++ [.rightParen]) ++ second)) := by
  refine leftSpells.append (spells.group.append rightSpells ?_) (Text.cutsDigits_of_head _ _ rfl)
  rw [← List.cons_append, Text.cutsDigits_append_left _ (List.cons_ne_nil _ _)]
  exact Text.cutsDigits_of_left right (by simp)

end Spells

/-! ## Checked integers -/

theorem Symbol.Writable.fits {symbol : Symbol} (writable : symbol.Writable) : symbol.Fits := by
  obtain ⟨letters, lexeme⟩ := writable
  cases lexeme with
  | @number _ value _ _ _ small =>
    simp only [maxLiteral] at small
    simp only [Symbol.Fits, CheckedInt.minVal, CheckedInt.maxVal]
    omega
  | _ => trivial

theorem Spells.fits {text : List Char} {tokens : List Token}
    (spells : Spells text (tokens.map Token.symbol)) : ∀ token ∈ tokens, token.symbol.Fits :=
  fun _ member => (spells.writable _ (List.mem_map_of_mem member)).fits

theorem parse_checked_eq_ok_iff {source : String} {memory last : σ} {tree : Expr CheckedInt} :
    parse (CheckedInt.ring σ) source memory = (.ok tree, last) ↔
      last = memory ∧ tree.isCanonical true = true ∧
        Spells source.toList (tree.symbols CheckedInt.val) := by
  constructor
  · intro parsed
    rw [parse] at parsed
    split at parsed
    next tokens read =>
      have spells := spells_of_tokenize read
      have fits := spells.fits
      obtain ⟨canonical, spelled⟩ :=
        isCanonical_of_parseTokens (CheckedInt.faithful_ring σ) (valued_of_fits fits) parsed
      refine ⟨?_, canonical, spelled ▸ spells⟩
      obtain ⟨found, outcome⟩ | ⟨error, outcome⟩ := parseTokens_checked fits memory
      · rw [outcome] at parsed
        exact (congrArg Prod.snd parsed).symm
      · rw [outcome] at parsed
        cases parsed
    next error read => cases parsed
  · rintro ⟨rfl, canonical, spells⟩
    obtain ⟨tokens, read, spelled⟩ := tokenize_of_spells spells
    rw [parse, read]
    exact parseTokens_of_isCanonical CheckedInt.ring_ofInt_val canonical spelled last

end RingCalc
