import RingCalc.Proofs.CommandLine.Echo
import RingCalc.Proofs.Token.Exactness

/-!
# Listed tokens

The texts of some tokens, with spaces between them, are read as the same symbols again: the spaces
keep numbers and words apart, and a number comes back from its digits.  Each symbol is read at the
place where its text stands.  So the line in which the command line lists the tokens of a text lists
its own tokens, too.
-/

namespace RingCalc

/-! ## Places in a list -/

/-- A symbol that can be shown and read again: a number has a value, and a literal can have it. -/
def Symbol.Legible : Symbol → Prop
  | .number none => False
  | .number (some value) => 0 ≤ value ∧ value ≤ maxLiteral
  | _ => True

theorem Symbol.Legible.writable {symbol : Symbol} (legible : symbol.Legible) :
    symbol.Writable := by
  cases symbol with
  | number value =>
    cases value with
    | none => exact legible.elim
    | some value =>
      obtain ⟨positive, small⟩ := legible
      obtain ⟨number, rfl⟩ := Int.eq_ofNat_of_zero_le positive
      exact ⟨_, .toDigits (Int.ofNat_le.mp small)⟩
  | operator op => exact ⟨_, .operator op⟩
  | mod => exact ⟨_, .mod⟩
  | leftParen => exact ⟨_, .leftParen⟩
  | rightParen => exact ⟨_, .rightParen⟩

theorem Symbol.Writable.legible {symbol : Symbol} (writable : symbol.Writable) :
    symbol.Legible := by
  obtain ⟨letters, lexeme⟩ := writable
  cases lexeme with
  | number _ _ _ small => exact ⟨Int.natCast_nonneg _, Int.ofNat_le.mpr small⟩
  | _ => trivial

namespace Token

variable {tokens : List Token}

/-- Some tokens at the places where their texts stand in a list that begins at a given place. -/
def listedFrom (pos : Nat) : List Token → List Token
  | [] => []
  | token :: rest => ⟨token.symbol, pos⟩ :: listedFrom (pos + token.text.length + 1) rest

/-- The texts of some tokens, each with a space in front of it. -/
def spaced (tokens : List Token) : List Char :=
  tokens.flatMap fun token => ' ' :: token.text.toList

theorem toList_textOfAll_cons (token : Token) (rest : List Token) :
    (textOfAll (token :: rest)).toList = token.text.toList ++ spaced rest := by
  induction rest generalizing token with
  | nil => simp [textOfAll, spaced]
  | cons next rest inductionHypothesis =>
    have later := inductionHypothesis next
    simp only [textOfAll, String.toList_intercalate, List.map_cons] at later ⊢
    rw [List.intercalate_cons_cons, later]
    simp [spaced]

theorem map_symbol_listedFrom (pos : Nat) (tokens : List Token) :
    (listedFrom pos tokens).map symbol = tokens.map symbol := by
  induction tokens generalizing pos with
  | nil => rfl
  | cons token rest inductionHypothesis => simp [listedFrom, inductionHypothesis]

/-- A token of a list stands behind the texts of the tokens before it and their spaces. -/
theorem listedFrom_append_cons (pos : Nat) (left : List Token) (token : Token)
    (right : List Token) :
    (listedFrom pos (left ++ token :: right))[left.length]? =
      some ⟨token.symbol,
        (pos + (left.flatMap fun earlier => earlier.text.toList ++ [' ']).length : Nat)⟩ := by
  induction left generalizing pos with
  | nil => rfl
  | cons first left inductionHypothesis =>
    rw [List.cons_append, listedFrom, List.length_cons, List.getElem?_cons_succ,
      inductionHypothesis]
    simp only [List.flatMap_cons, List.length_append, List.length_singleton, String.length_toList,
      Nat.add_assoc]

theorem exists_behind_textOfAll (left : List Token) (token : Token) (right : List Token) :
    ∃ behind, (textOfAll (left ++ token :: right)).toList =
      (left.flatMap fun earlier => earlier.text.toList ++ [' ']) ++
        (token.text.toList ++ behind) := by
  induction left with
  | nil => exact ⟨spaced right, toList_textOfAll_cons token right⟩
  | cons first left inductionHypothesis =>
    obtain ⟨behind, text⟩ := inductionHypothesis
    obtain ⟨next, rest, split⟩ := List.exists_cons_of_ne_nil
      (List.append_ne_nil_of_right_ne_nil left (List.cons_ne_nil token right))
    refine ⟨behind, ?_⟩
    rw [split, toList_textOfAll_cons] at text
    rw [List.cons_append, toList_textOfAll_cons, split]
    simp only [spaced, List.flatMap_cons, List.append_assoc, List.cons_append,
      List.nil_append] at text ⊢
    rw [text]

theorem textOfAll_congr {others : List Token}
    (same : others.map symbol = tokens.map symbol) : textOfAll others = textOfAll tokens := by
  have texts : others.map text = tokens.map text := by
    have shown := congrArg (List.map Symbol.text) same
    rwa [List.map_map, List.map_map] at shown
  rw [textOfAll, textOfAll, texts]

/-! ## Reading a list -/

/-- A symbol as it stands in a list, behind some blanks. -/
def word (blanks : List Char) (blank : ∀ c ∈ blanks, Text.isBlank c = true) (token : Token)
    (writable : token.symbol.Writable) : Word :=
  ⟨blanks, token.text.toList, token.symbol, blank, writable.lexeme_text⟩

theorem cutsDigits_spaced (letters : List Char) (rest : List Token) :
    Text.cutsDigits letters (spaced rest) = false := by
  cases rest with
  | nil => exact Text.cutsDigits_nil_right letters
  | cons token rest => exact Text.cutsDigits_of_head letters _ rfl

theorem drain_spaced (writable : ∀ token ∈ tokens, token.symbol.Writable) (pos : Nat) :
    TokenStream.drain ⟨spaced tokens, pos⟩ = (listedFrom (pos + 1) tokens, none) := by
  induction tokens generalizing pos with
  | nil => exact TokenStream.drain_nil pos
  | cons token rest inductionHypothesis =>
    obtain ⟨first, others⟩ := List.forall_mem_cons.mp writable
    -- The space belongs to the token behind it, which so takes one place more.
    have blank : ∀ c ∈ [' '], Text.isBlank c = true := List.forall_mem_singleton.mpr rfl
    have pulled := TokenStream.pull_word (token.word [' '] blank first)
      (cutsDigits_spaced token.text.toList rest) pos
    have front : spaced (token :: rest) =
        (token.word [' '] blank first).text ++ spaced rest := rfl
    rw [front, TokenStream.drain_eq, pulled]
    simp only [inductionHypothesis others, listedFrom, word, Word.text, List.length_append,
      List.length_singleton, String.length_toList]
    simp only [Nat.add_assoc, Nat.add_comm 1]

theorem tokenize_textOfAll (writable : ∀ token ∈ tokens, token.symbol.Writable) :
    tokenize (textOfAll tokens) = .ok (listedFrom 0 tokens) := by
  rw [tokenize_eq_ok_iff, TokenStream.ofString, TokenStream.ofList]
  cases tokens with
  | nil => exact TokenStream.drain_nil 0
  | cons token rest =>
    obtain ⟨first, others⟩ := List.forall_mem_cons.mp writable
    have blank : ∀ c ∈ [], Text.isBlank c = true := List.forall_mem_nil _
    have pulled := TokenStream.pull_word (token.word [] blank first)
      (cutsDigits_spaced token.text.toList rest) 0
    have front : (textOfAll (token :: rest)).toList =
        (token.word [] blank first).text ++ spaced rest := toList_textOfAll_cons token rest
    rw [front, TokenStream.drain_eq, pulled]
    simp only [drain_spaced others, listedFrom, word, Word.text, List.nil_append,
      List.length_nil, String.length_toList]

theorem legible_of_tokenize {source : String} (read : tokenize source = .ok tokens) :
    ∀ token ∈ tokens, token.symbol.Legible := by
  intro token member
  obtain ⟨-, letters, -, -, lexeme, -⟩ := exists_lexeme_of_tokenize read member
  exact Symbol.Writable.legible ⟨letters, lexeme⟩

end Token

/-! ## Listing on the command line -/

namespace CommandLine

theorem tokensCommand_of_tokenize (settings : Settings) {source : String} {tokens : List Token}
    (read : tokenize source = .ok tokens) :
    ∃ log, tokensCommand settings source =
      .report ⟨0, "Tokens: " ++ Token.textOfAll tokens ++ "\n", log, ""⟩ := by
  have label : Text.Plain "Tokens: " := by decide
  have line := label.append (Token.inline_textOfAll tokens).plain
  simp only [tokensCommand, read, Report.success, echo_of_plain line]
  exact ⟨_, rfl⟩

/-- Legible tokens are read back from their list, each at the place of its text.  The list that the
command line gives of the tokens of a text can be read, and it is the list of its own tokens. -/
theorem tokens_read_back :
    (∀ tokens : List Token, (∀ token ∈ tokens, token.symbol.Legible) →
      ∃ read, tokenize (Token.textOfAll tokens) = .ok read ∧
        read.map Token.symbol = tokens.map Token.symbol ∧
        ∀ left token right, tokens = left ++ token :: right →
          ∃ before behind, (Token.textOfAll tokens).toList =
              before ++ (token.text.toList ++ behind) ∧
            before = (left.flatMap fun earlier => earlier.text.toList ++ [' ']) ∧
            read[left.length]? = some ⟨token.symbol, (before.length : Nat)⟩) ∧
    ∀ (settings : Settings) (source : String) (tokens : List Token),
      tokenize source = .ok tokens →
      ∃ again log laterLog,
        tokensCommand settings source =
          .report ⟨0, "Tokens: " ++ Token.textOfAll tokens ++ "\n", log, ""⟩ ∧
        tokenize (Token.textOfAll tokens) = .ok again ∧
        again.map Token.symbol = tokens.map Token.symbol ∧
        Token.textOfAll again = Token.textOfAll tokens ∧
        tokensCommand settings (Token.textOfAll tokens) =
          .report ⟨0, "Tokens: " ++ Token.textOfAll tokens ++ "\n", laterLog, ""⟩ := by
  constructor
  · intro tokens legible
    have writable := fun token member => (legible token member).writable
    refine ⟨_, Token.tokenize_textOfAll writable, Token.map_symbol_listedFrom 0 tokens, ?_⟩
    rintro left token right rfl
    obtain ⟨behind, text⟩ := Token.exists_behind_textOfAll left token right
    have place := Token.listedFrom_append_cons 0 left token right
    rw [Nat.zero_add] at place
    exact ⟨_, behind, text, rfl, place⟩
  · intro settings source tokens read
    have writable := fun token member =>
      (Token.legible_of_tokenize read token member).writable
    have again := Token.tokenize_textOfAll writable
    have symbols := Token.map_symbol_listedFrom 0 tokens
    obtain ⟨log, listed⟩ := tokensCommand_of_tokenize settings read
    obtain ⟨laterLog, listedAgain⟩ := tokensCommand_of_tokenize settings again
    rw [Token.textOfAll_congr symbols] at listedAgain
    exact ⟨_, log, laterLog, listed, again, symbols, Token.textOfAll_congr symbols, listedAgain⟩

/-- A word between two numbers, and numbers that only a space keeps apart. -/
theorem tokens_read_back_apart :
    (∀ token ∈ [(⟨.number (some 9223372036854775807), 8⟩ : Token), ⟨.mod, 8⟩, ⟨.number (some 0), 8⟩,
        ⟨.number (some 5), 8⟩], token.symbol.Legible) ∧
      (∃ read, tokenize "9223372036854775807 mod 0 5" = .ok read ∧
        read[3]? = some ⟨.number (some 5), 26⟩) ∧
      ∃ log laterLog, tokensCommand {} "1+007" = .report ⟨0, "Tokens: 1 + 7\n", log, ""⟩ ∧
        tokensCommand {} "1 + 7" = .report ⟨0, "Tokens: 1 + 7\n", laterLog, ""⟩ := by
  obtain ⟨readBack, listing⟩ := tokens_read_back
  have legible : ∀ token ∈ [(⟨.number (some 9223372036854775807), 8⟩ : Token), ⟨.mod, 8⟩,
      ⟨.number (some 0), 8⟩, ⟨.number (some 5), 8⟩], token.symbol.Legible := by
    simp [Symbol.Legible, maxLiteral]
  have shown : Token.textOfAll [⟨.number (some 9223372036854775807), 8⟩, ⟨.mod, 8⟩,
      ⟨.number (some 0), 8⟩, ⟨.number (some 5), 8⟩] = "9223372036854775807 mod 0 5" := by
    decide +kernel
  have source : tokenize "1+007" =
      .ok [⟨.number (some 1), 0⟩, ⟨.operator .add, 1⟩, ⟨.number (some 7), 2⟩] := by
    decide +kernel
  have line : Token.textOfAll [⟨.number (some 1), 0⟩, ⟨.operator .add, 1⟩,
      ⟨.number (some 7), 2⟩] = "1 + 7" := by
    decide +kernel
  refine ⟨legible, ?_, ?_⟩
  · obtain ⟨read, again, -, places⟩ := readBack _ legible
    obtain ⟨before, behind, -, rfl, place⟩ := places [⟨.number (some 9223372036854775807), 8⟩,
      ⟨.mod, 8⟩, ⟨.number (some 0), 8⟩] ⟨.number (some 5), 8⟩ [] rfl
    rw [shown] at again
    exact ⟨read, again, place⟩
  · obtain ⟨again, log, laterLog, listed, -, -, -, listedAgain⟩ := listing {} _ _ source
    rw [line] at listed listedAgain
    exact ⟨log, laterLog, listed, listedAgain⟩

end CommandLine

end RingCalc
