import RingCalc.Expr.Parser

/-!
# Rows of tokens

The parser reads a row of tokens from its right end.  Whether it can read one token more depends on
the token it has read last and on whether a right parenthesis is still unmatched, and on nothing
else: neither on the places of the tokens nor on the ring.  So the row alone decides how far the
parser gets, and with which error it stops there unless the ring stops it before.
-/

namespace RingCalc

/-! ## Faults -/

/-- The right parentheses that no left one among some tokens matches, the leftmost first. -/
def Token.unmatched : List Token → List Token
  | [] => []
  | token :: rest =>
    match token.symbol with
    | .rightParen => token :: unmatched rest
    | .leftParen => (unmatched rest).tail
    | _ => unmatched rest

theorem Token.mem_of_mem_unmatched {token : Token} {tokens : List Token}
    (member : token ∈ unmatched tokens) : token ∈ tokens := by
  induction tokens with
  | nil => exact member
  | cons first rest inductionHypothesis =>
    unfold unmatched at member
    split at member
    · obtain rfl | member := List.mem_cons.mp member
      · exact List.mem_cons_self
      · exact List.mem_cons_of_mem _ (inductionHypothesis member)
    · exact List.mem_cons_of_mem _ (inductionHypothesis (List.mem_of_mem_tail member))
    · exact List.mem_cons_of_mem _ (inductionHypothesis member)

/-- What is wrong with a token to the left of tokens that could all be read. -/
inductive Fault : Token → List Token → ParseError → Prop where
  | number (value : Option Int) (pos : Int) (read : List Token) :
      Fault ⟨.number value, pos⟩ read ⟨.adjacentElements, pos⟩
  | rightParen (pos : Int) (read : List Token) :
      Fault ⟨.rightParen, pos⟩ read ⟨.adjacentElements, pos⟩
  | operator (op : Operator) (pos : Int) (read : List Token) :
      Fault ⟨.operator op, pos⟩ read ⟨.missingRight, pos⟩
  | mod (pos : Int) (read : List Token) : Fault ⟨.mod, pos⟩ read ⟨.unhandled .mod, pos⟩
  | unclosed (pos : Int) {read : List Token} (matched : Token.unmatched read = []) :
      Fault ⟨.leftParen, pos⟩ read ⟨.missingRightParen, pos⟩
  | emptyGroup (pos place : Int) (rest : List Token) :
      Fault ⟨.leftParen, pos⟩ (⟨.rightParen, place⟩ :: rest) ⟨.noExpression, place⟩
  | missingLeft (pos place : Int) {op : Operator} {rest : List Token} (unsigned : op ≠ .sub)
      (opened : Token.unmatched rest ≠ []) :
      Fault ⟨.leftParen, pos⟩ (⟨.operator op, place⟩ :: rest) ⟨.missingLeft, place⟩

/-- The tokens that an expression can begin with. -/
inductive Begins : List Token → Prop where
  | number (value : Option Int) (pos : Int) (rest : List Token) :
      Begins (⟨.number value, pos⟩ :: rest)
  | leftParen (pos : Int) (rest : List Token) : Begins (⟨.leftParen, pos⟩ :: rest)
  | minus (pos : Int) (rest : List Token) : Begins (⟨.operator .sub, pos⟩ :: rest)

/-- What is wrong at the front of tokens that could all be read. -/
inductive FrontFault : List Token → ParseError → Prop where
  | empty : FrontFault [] ⟨.noExpression, 0⟩
  | rightParen (pos : Int) (rest : List Token) :
      FrontFault (⟨.rightParen, pos⟩ :: rest) ⟨.noExpression, pos⟩
  | operator {op : Operator} (unsigned : op ≠ .sub) (pos : Int) (rest : List Token) :
      FrontFault (⟨.operator op, pos⟩ :: rest) ⟨.missingLeft, pos⟩
  | unopened {tokens others : List Token} {paren : Token} (begins : Begins tokens)
      (unmatched : Token.unmatched tokens = paren :: others) :
      FrontFault tokens ⟨.missingLeftParen, paren.pos⟩

/-! ### Faults exclude each other -/

theorem Fault.unique {token : Token} {read : List Token} {first second : ParseError}
    (fault : Fault token read first) (other : Fault token read second) : first = second := by
  cases fault with
  | number _ _ _ | rightParen _ _ | operator _ _ _ | mod _ _ => cases other; rfl
  | unclosed pos matched =>
    cases other with
    | unclosed _ _ => rfl
    | emptyGroup _ place rest => cases matched
    | missingLeft _ place _ opened => exact absurd matched opened
  | emptyGroup pos place rest =>
    cases other with
    | unclosed _ matched => cases matched
    | emptyGroup _ _ _ => rfl
  | missingLeft pos place _ opened =>
    cases other with
    | unclosed _ matched => exact absurd matched opened
    | missingLeft _ _ _ _ => rfl

theorem FrontFault.unique {tokens : List Token} {first second : ParseError}
    (fault : FrontFault tokens first) (other : FrontFault tokens second) : first = second := by
  cases fault with
  | empty =>
    cases other with
    | empty => rfl
    | unopened begins _ => cases begins
  | rightParen pos rest =>
    cases other with
    | rightParen _ _ => rfl
    | unopened begins _ => cases begins
  | operator unsigned pos rest =>
    cases other with
    | operator _ _ _ => rfl
    | unopened begins _ =>
      cases begins
      exact absurd rfl unsigned
  | unopened begins unmatched =>
    cases other with
    | empty | rightParen _ _ => cases begins
    | operator unsigned _ _ =>
      cases begins
      exact absurd rfl unsigned
    | unopened _ otherUnmatched =>
      rw [unmatched] at otherUnmatched
      cases otherUnmatched
      rfl

/-- Tokens that an expression begins with, and whose parentheses match, have no fault in front. -/
theorem FrontFault.not_of_begins {tokens : List Token} {error : ParseError}
    (fault : FrontFault tokens error) (begins : Begins tokens)
    (matched : Token.unmatched tokens = []) : False := by
  cases fault with
  | empty | rightParen _ _ => cases begins
  | operator unsigned _ _ =>
    cases begins
    exact unsigned rfl
  | unopened _ unmatched =>
    rw [matched] at unmatched
    cases unmatched

/-! ## How far a row can be read -/

/-- Whether some tokens begin with an operand: a number, or a group. -/
def Token.beginOperand (tokens : List Token) : Bool :=
  tokens.head?.any fun token =>
    match token.symbol with
    | .number _ | .leftParen => true
    | _ => false

/-- A symbol can be read when some tokens to its right have been read. -/
def Symbol.CanPrecede (symbol : Symbol) (read : List Token) : Prop :=
  match symbol with
  | .number value => value ≠ none ∧ Token.beginOperand read = false
  | .rightParen => Token.beginOperand read = false
  | .operator _ => Token.beginOperand read = true
  | .leftParen => Begins read ∧ Token.unmatched read ≠ []
  | .mod => False

/-- A row can be read to its left end. -/
def Readable : List Token → Prop
  | [] => True
  | token :: read => token.symbol.CanPrecede read ∧ Readable read

theorem Readable.of_append {before read : List Token} (readable : Readable (before ++ read)) :
    Readable read := by
  induction before with
  | nil => exact readable
  | cons token rest inductionHypothesis => exact inductionHypothesis readable.2

/-- What stands at the front of a row that can be read. -/
inductive Front : List Token → Prop where
  | begins {tokens : List Token} (begins : Begins tokens) : Front tokens
  | empty : Front []
  | rightParen (pos : Int) (rest : List Token) : Front (⟨.rightParen, pos⟩ :: rest)
  | operator {op : Operator} (unsigned : op ≠ .sub) (pos : Int) (rest : List Token) :
      Front (⟨.operator op, pos⟩ :: rest)

theorem Readable.front {tokens : List Token} (readable : Readable tokens) : Front tokens := by
  cases tokens with
  | nil => exact .empty
  | cons token rest =>
    obtain ⟨symbol, pos⟩ := token
    cases symbol with
    | number value => exact .begins (.number value pos rest)
    | leftParen => exact .begins (.leftParen pos rest)
    | rightParen => exact .rightParen pos rest
    | operator op =>
      by_cases sign : op = .sub
      · subst sign
        exact .begins (.minus pos rest)
      · exact .operator sign pos rest
    | mod => exact readable.1.elim

/-- A token that cannot be read is at fault. -/
theorem exists_fault {token : Token} {read : List Token} (readable : Readable read)
    (stuck : ¬ token.symbol.CanPrecede read) : ∃ error, Fault token read error := by
  obtain ⟨symbol, pos⟩ := token
  cases symbol with
  | number value => exact ⟨_, .number value pos read⟩
  | rightParen => exact ⟨_, .rightParen pos read⟩
  | operator op => exact ⟨_, .operator op pos read⟩
  | mod => exact ⟨_, .mod pos read⟩
  | leftParen =>
    by_cases matched : Token.unmatched read = []
    · exact ⟨_, .unclosed pos matched⟩
    · -- There is a group to close, so what it would be closed around is no expression.
      cases readable.front with
      | begins begins => exact absurd ⟨begins, matched⟩ stuck
      | empty => exact absurd rfl matched
      | rightParen place rest => exact ⟨_, .emptyGroup pos place rest⟩
      | operator unsigned place rest => exact ⟨_, .missingLeft pos place unsigned matched⟩

theorem readable_or_stuck (tokens : List Token) :
    Readable tokens ∨ ∃ before token read, tokens = before ++ token :: read ∧ Readable read ∧
      ¬ token.symbol.CanPrecede read := by
  -- The tokens to the right come first in the induction, as they do in reading.
  induction tokens with
  | nil => exact .inl trivial
  | cons token rest inductionHypothesis =>
    obtain readable | ⟨before, other, read, rfl, readable, stuck⟩ := inductionHypothesis
    · by_cases admitted : token.symbol.CanPrecede rest
      · exact .inl ⟨admitted, readable⟩
      · exact .inr ⟨[], token, rest, rfl, readable, admitted⟩
    · exact .inr ⟨token :: before, other, read, rfl, readable, stuck⟩

/-! ## Verdicts -/

/-- What a row comes to: the tokens that can be read, and the error if there is one.  Where a token
cannot be read the tokens to its right are read; else all tokens are. -/
inductive Verdict : List Token → List Token → Option ParseError → Prop where
  | inside (before : List Token) {token : Token} {read : List Token} {error : ParseError}
      (readable : Readable read) (stuck : ¬ token.symbol.CanPrecede read)
      (fault : Fault token read error) : Verdict (before ++ token :: read) read (some error)
  | atFront {tokens : List Token} {error : ParseError} (readable : Readable tokens)
      (fault : FrontFault tokens error) : Verdict tokens tokens (some error)
  | accepted {tokens : List Token} (readable : Readable tokens) (begins : Begins tokens)
      (matched : Token.unmatched tokens = []) : Verdict tokens tokens none

theorem exists_verdict (tokens : List Token) : ∃ read verdict, Verdict tokens read verdict := by
  obtain readable | ⟨before, token, read, rfl, readable, stuck⟩ := readable_or_stuck tokens
  · cases readable.front with
    | begins begins =>
      cases unmatched : Token.unmatched tokens with
      | nil => exact ⟨_, _, .accepted readable begins unmatched⟩
      | cons paren others => exact ⟨_, _, .atFront readable (.unopened begins unmatched)⟩
    | empty => exact ⟨_, _, .atFront readable .empty⟩
    | rightParen pos rest => exact ⟨_, _, .atFront readable (.rightParen pos rest)⟩
    | operator unsigned pos rest => exact ⟨_, _, .atFront readable (.operator unsigned pos rest)⟩
  · obtain ⟨error, fault⟩ := exists_fault readable stuck
    exact ⟨_, _, .inside before readable stuck fault⟩

namespace Verdict

variable {tokens read : List Token} {verdict : Option ParseError} {error : ParseError}

theorem readable (judged : Verdict tokens read verdict) : Readable read := by
  cases judged with
  | inside _ readable _ _ | atFront readable _ | accepted readable _ _ => exact readable

theorem isSuffix (judged : Verdict tokens read verdict) : read <:+ tokens := by
  cases judged with
  | @inside before token read _ _ _ _ =>
    exact (List.suffix_cons token read).trans (List.suffix_append before _)
  | atFront _ _ | accepted _ _ _ => exact List.suffix_refl _

/-- Some tokens have only one verdict. -/
theorem unique {other : List Token} {second : Option ParseError}
    (judged : Verdict tokens read verdict) (again : Verdict tokens other second) :
    read = other ∧ verdict = second := by
  -- A token that cannot be read stands neither among readable tokens nor left of another one.
  have never : ∀ {before : List Token} {token : Token} {rest : List Token},
      Readable (before ++ token :: rest) → ¬ token.symbol.CanPrecede rest → False :=
    fun readable stuck => stuck readable.of_append.1
  cases judged with
  | @inside before token read error readable stuck fault =>
    generalize same : before ++ token :: read = tokens at again
    cases again with
    | @inside first blocked right error rightReadable rightStuck rightFault =>
      obtain ⟨between, -, split⟩ | ⟨between, -, split⟩ := List.append_eq_append_iff.mp same
      · cases between with
        | nil =>
          obtain ⟨rfl, rfl⟩ := List.cons.inj split
          exact ⟨rfl, congrArg some (fault.unique rightFault)⟩
        | cons _ between =>
          obtain ⟨-, rfl⟩ := List.cons.inj split
          exact (never readable rightStuck).elim
      · cases between with
        | nil =>
          obtain ⟨rfl, rfl⟩ := List.cons.inj split
          exact ⟨rfl, congrArg some (fault.unique rightFault)⟩
        | cons _ between =>
          obtain ⟨-, rfl⟩ := List.cons.inj split
          exact (never rightReadable stuck).elim
    | atFront whole _ | accepted whole _ _ => exact (never (same ▸ whole) stuck).elim
  | atFront readable fault =>
    cases again with
    | inside before _ stuck _ => exact (never readable stuck).elim
    | atFront _ own => exact ⟨rfl, congrArg some (fault.unique own)⟩
    | accepted _ begins matched => exact (fault.not_of_begins begins matched).elim
  | accepted readable begins matched =>
    cases again with
    | inside before _ stuck _ => exact (never readable stuck).elim
    | atFront _ fault => exact (fault.not_of_begins begins matched).elim
    | accepted _ _ _ => exact ⟨rfl, rfl⟩

/-- An error stands at a token, unless there is none. -/
theorem exists_pos (judged : Verdict tokens read (some error)) :
    (tokens = [] ∧ error = ⟨.noExpression, 0⟩) ∨ ∃ token ∈ tokens, token.pos = error.pos := by
  cases judged with
  | @inside before token read _ _ _ fault =>
    right
    have here : token ∈ before ++ token :: read := List.mem_append_right _ List.mem_cons_self
    have behind : ∀ other ∈ read, other ∈ before ++ token :: read := fun other member =>
      List.mem_append_right _ (List.mem_cons_of_mem _ member)
    cases fault with
    | number _ _ _ | rightParen _ _ | operator _ _ _ | mod _ _ | unclosed _ _ =>
      exact ⟨_, here, rfl⟩
    | emptyGroup _ _ _ | missingLeft _ _ _ _ => exact ⟨_, behind _ List.mem_cons_self, rfl⟩
  | atFront _ fault =>
    cases fault with
    | empty => exact .inl ⟨rfl, rfl⟩
    | rightParen _ _ | operator _ _ _ => exact .inr ⟨_, List.mem_cons_self, rfl⟩
    | @unopened _ _ paren _ unmatched =>
      have member : paren ∈ Token.unmatched tokens := unmatched ▸ List.mem_cons_self
      exact .inr ⟨paren, Token.mem_of_mem_unmatched member, rfl⟩

/-- An error of a row is neither one of the ring nor one of the text. -/
theorem isSyntactic (judged : Verdict tokens read (some error)) :
    (∀ failure, error.cause ≠ .literal failure) ∧ ∀ cause, error.cause ≠ .lexical cause := by
  cases judged with
  | inside _ _ _ fault => cases fault <;> exact ⟨nofun, nofun⟩
  | atFront _ fault => cases fault <;> exact ⟨nofun, nofun⟩

end Verdict

end RingCalc
