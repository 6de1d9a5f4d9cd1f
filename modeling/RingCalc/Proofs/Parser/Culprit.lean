import RingCalc.Proofs.Parser.Literals
import RingCalc.Proofs.Parser.Source

/-!
# What an error of a text points at

Over every ring a text is parsed as a canonical tree or refused.  The place of the error is that of
something in the text: of a lexeme, or, where the text has no tokens, of the character that cannot
be read.  Only a blank text has nothing to point at.
-/

namespace RingCalc

variable {σ α : Type}

/-- What an error of a text points at. -/
inductive Culprit (source : String) (error : ParseError) : Prop where
  | nothing (blank : ∀ c ∈ source.toList, Text.isBlank c = true)
      (missing : error = ⟨.noExpression, 0⟩)
  | lexeme {tokens : List Token} {token : Token} {before letters after : List Char}
      (read : tokenize source = .ok tokens) (member : token ∈ tokens)
      (stands : before ++ letters ++ after = source.toList) (lexeme : Lexeme token.symbol letters)
      (place : token.pos = (before.length : Nat)) (same : error.pos = token.pos)
      (kind : error.kind ≠ .tokenParseError)
  | letter {failure : LexError} {c : Char} (fails : tokenize source = .error failure)
      (stands : source.toList[failure.pos]? = some c) (visible : Text.isBlank c = false)
      (same : error = failure.toParseError)

theorem ParseError.kind_ne_tokenParseError {error : ParseError}
    (given : ∀ cause, error.cause ≠ .lexical cause) : error.kind ≠ .tokenParseError := by
  obtain ⟨cause, pos⟩ := error
  cases cause with
  | lexical cause => exact absurd rfl (given cause)
  | _ => exact nofun

/-- A text is a canonical tree, or it is refused for what an error of it can point at. -/
theorem parse_cases (ring : Ring σ α) (source : String) (memory : σ) :
    (∃ tree after, tree.isCanonical true = true ∧ parse ring source memory = (.ok tree, after)) ∨
      ∃ error after, parse ring source memory = (.error (.refused error), after) ∧
        Culprit source error ∧
        ∀ failure, error.cause = .literal failure →
          ∃ value middle, ring.ofInt value middle = (.error failure, after) := by
  cases read : tokenize source with
  | error failure =>
    obtain ⟨c, stands, visible⟩ := exists_visible_of_tokenize read
    have refused : parse ring source memory =
        (.error (.refused failure.toParseError), memory) := by rw [parse, read]
    refine .inr ⟨_, memory, refused, .letter read stands visible rfl, fun cause literal => ?_⟩
    cases literal
  | ok tokens =>
    have spells := spells_of_tokenize read
    rw [parse_of_tokenize read]
    obtain accepted | ⟨error, after, refused, notLexical, asked, place⟩ :=
      parseTokens_cases (valued_of_fits spells.fits) ring memory
    · exact .inl accepted
    · refine .inr ⟨error, after, refused, ?_, asked⟩
      obtain ⟨rfl, missing⟩ | ⟨token, member, same⟩ := place
      · exact .nothing spells.blank missing
      · obtain ⟨before, letters, after, stands, lexeme, place⟩ :=
          exists_lexeme_of_tokenize read member
        exact .lexeme read member stands lexeme place same.symm
          (ParseError.kind_ne_tokenParseError notLexical)

section

variable {ring : Ring σ α} {source : String} {memory after : σ}

theorem isCanonical_of_parse {tree : Expr α}
    (accepted : parse ring source memory = (.ok tree, after)) : tree.isCanonical true = true := by
  obtain ⟨other, last, canonical, outcome⟩ | ⟨error, last, refused, -⟩ :=
    parse_cases ring source memory
  · cases accepted.symm.trans outcome
    exact canonical
  · cases accepted.symm.trans refused

theorem culprit_of_parse {error : ParseError}
    (refused : parse ring source memory = (.error (.refused error), after)) :
    Culprit source error ∧ ∀ failure, error.cause = .literal failure →
      ∃ value middle, ring.ofInt value middle = (.error failure, after) := by
  obtain ⟨tree, last, -, accepted⟩ | ⟨other, last, outcome, found⟩ :=
    parse_cases ring source memory
  · cases refused.symm.trans accepted
  · cases refused.symm.trans outcome
    exact found

end

namespace Culprit

variable {source : String} {error : ParseError}

/-- An error points at a character that is not blank, if there is one. -/
theorem blank_or_visible (culprit : Culprit source error) :
    ((∀ c ∈ source.toList, Text.isBlank c = true) ∧ error = ⟨.noExpression, 0⟩) ∨
      ∃ (place : Nat) (c : Char), error.pos = place ∧ source.toList[place]? = some c ∧
        Text.isBlank c = false := by
  cases culprit with
  | nothing blank missing => exact .inl ⟨blank, missing⟩
  | @lexeme tokens token before letters after read member stands lexeme place same kind =>
    -- A lexeme has a first character, and this stands where the token does.
    obtain ⟨c, rest, rfl⟩ := List.exists_cons_of_ne_nil lexeme.ne_nil
    refine .inr ⟨before.length, c, same.trans place, ?_, lexeme.not_isBlank c List.mem_cons_self⟩
    rw [← stands, List.append_assoc, List.getElem?_append_right (Nat.le_refl _), Nat.sub_self]
    rfl
  | @letter failure c fails stands visible same =>
    exact .inr ⟨failure.pos, c, congrArg ParseError.pos same, stands, visible⟩

theorem kind_eq_iff (culprit : Culprit source error) :
    error.kind = .tokenParseError ↔ ∃ failure, tokenize source = .error failure := by
  cases culprit with
  | nothing blank missing =>
    obtain ⟨tokens, read, -⟩ := tokenize_of_spells (.of_blank blank)
    simp [missing, read, ParseError.kind, ParseCause.kind]
  | lexeme read _ _ _ _ _ kind => simp [read, kind]
  | letter fails _ _ same =>
    simp [same, fails, LexError.toParseError, ParseError.kind, ParseCause.kind]

end Culprit

end RingCalc
