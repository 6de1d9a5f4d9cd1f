import RingCalc.Proofs.Parser.Literals
import RingCalc.Proofs.Parser.Source

/-!
# Tokens at other places

The verdict on some tokens does not depend on where they stand: moved tokens have the moved verdict.
So the verdict on their symbols alone, each at its index, gives the verdict on all tokens with these
symbols.  Two texts with the same symbols are then parsed as the same tree or refused alike, at the
tokens of the same index; texts with other symbols are parsed as other trees.
-/

namespace RingCalc

variable {σ : Type}

/-! ## Moved rows -/

def Token.relocate (place : Int → Int) (token : Token) : Token := ⟨token.symbol, place token.pos⟩

def ParseError.relocate (place : Int → Int) (error : ParseError) : ParseError :=
  ⟨error.cause, place error.pos⟩

section

variable (place : Int → Int)

theorem Token.unmatched_relocate (tokens : List Token) :
    unmatched (tokens.map (relocate place)) = (unmatched tokens).map (relocate place) := by
  induction tokens with
  | nil => rfl
  | cons token rest inductionHypothesis =>
    obtain ⟨symbol, pos⟩ := token
    cases symbol with
    | rightParen => exact congrArg (_ :: ·) inductionHypothesis
    | leftParen => exact (congrArg List.tail inductionHypothesis).trans List.map_tail.symm
    | _ => exact inductionHypothesis

theorem Token.unmatched_relocate_eq_nil_iff (tokens : List Token) :
    unmatched (tokens.map (relocate place)) = [] ↔ unmatched tokens = [] := by
  rw [unmatched_relocate, List.map_eq_nil_iff]

theorem Token.beginOperand_relocate (tokens : List Token) :
    beginOperand (tokens.map (relocate place)) = beginOperand tokens := by
  cases tokens <;> rfl

theorem begins_relocate_iff (tokens : List Token) :
    Begins (tokens.map (Token.relocate place)) ↔ Begins tokens := by
  obtain _ | ⟨⟨symbol, pos⟩, rest⟩ := tokens
  · exact Iff.rfl
  · simp only [List.map_cons, Token.relocate]
    constructor
    · intro begins
      cases begins with
      | number value _ _ => exact .number value pos rest
      | leftParen _ _ => exact .leftParen pos rest
      | minus _ _ => exact .minus pos rest
    · intro begins
      cases begins with
      | number value _ _ => exact .number value _ _
      | leftParen _ _ => exact .leftParen _ _
      | minus _ _ => exact .minus _ _

theorem Symbol.canPrecede_relocate_iff (symbol : Symbol) (read : List Token) :
    symbol.CanPrecede (read.map (Token.relocate place)) ↔ symbol.CanPrecede read := by
  cases symbol <;>
    simp only [CanPrecede, Token.beginOperand_relocate, begins_relocate_iff, ne_eq,
      Token.unmatched_relocate_eq_nil_iff]

theorem readable_relocate_iff (tokens : List Token) :
    Readable (tokens.map (Token.relocate place)) ↔ Readable tokens := by
  induction tokens with
  | nil => exact Iff.rfl
  | cons token rest inductionHypothesis =>
    exact and_congr (Symbol.canPrecede_relocate_iff place _ _) inductionHypothesis

theorem Fault.relocate {token : Token} {read : List Token} {error : ParseError}
    (fault : Fault token read error) :
    Fault (token.relocate place) (read.map (Token.relocate place)) (error.relocate place) := by
  cases fault with
  | number value _ _ => exact .number value _ _
  | rightParen _ _ => exact .rightParen _ _
  | operator op _ _ => exact .operator op _ _
  | mod _ _ => exact .mod _ _
  | unclosed _ matched =>
    exact .unclosed _ ((Token.unmatched_relocate_eq_nil_iff place read).mpr matched)
  | emptyGroup _ _ _ => exact .emptyGroup _ _ _
  | @missingLeft _ _ op rest unsigned opened =>
    have moved := mt (Token.unmatched_relocate_eq_nil_iff place rest).mp opened
    exact .missingLeft _ _ unsigned moved

/-- The error at the front of no tokens at all stands at a fixed place. -/
theorem FrontFault.relocate {tokens : List Token} {error : ParseError} (given : tokens ≠ [])
    (fault : FrontFault tokens error) :
    FrontFault (tokens.map (Token.relocate place)) (error.relocate place) := by
  cases fault with
  | empty => exact absurd rfl given
  | rightParen _ _ => exact .rightParen _ _
  | operator unsigned _ _ => exact .operator unsigned _ _
  | @unopened _ others paren begins unmatched =>
    have moved : Token.unmatched (tokens.map (Token.relocate place)) =
        paren.relocate place :: others.map (Token.relocate place) := by
      rw [Token.unmatched_relocate, unmatched, List.map_cons]
    exact .unopened ((begins_relocate_iff place tokens).mpr begins) moved

theorem Verdict.relocate {tokens read : List Token} {verdict : Option ParseError}
    (given : tokens ≠ []) (judged : Verdict tokens read verdict) :
    Verdict (tokens.map (Token.relocate place)) (read.map (Token.relocate place))
      (verdict.map (ParseError.relocate place)) := by
  cases judged with
  | @inside before token read error readable stuck fault =>
    have movedStuck := mt (Symbol.canPrecede_relocate_iff place token.symbol read).mp stuck
    rw [List.map_append, List.map_cons]
    exact .inside _ ((readable_relocate_iff place read).mpr readable) movedStuck
      (fault.relocate place)
  | atFront readable fault =>
    exact .atFront ((readable_relocate_iff place tokens).mpr readable)
      (fault.relocate place given)
  | accepted readable begins matched =>
    exact .accepted ((readable_relocate_iff place tokens).mpr readable)
      ((begins_relocate_iff place tokens).mpr begins)
      ((Token.unmatched_relocate_eq_nil_iff place tokens).mpr matched)

end

/-! ## Symbols at their indices -/

/-- Some symbols as tokens, each at the place that is its index. -/
def Token.numbered (symbols : List Symbol) : List Token :=
  symbols.zipIdx.map fun (symbol, index) => ⟨symbol, (index : Nat)⟩

/-- The place of the token with a given index. -/
def Token.placeIn (tokens : List Token) (index : Int) : Int :=
  ((tokens[index.toNat]?).map Token.pos).getD 0

theorem Token.relocate_numbered (tokens : List Token) :
    (numbered (tokens.map symbol)).map (relocate (placeIn tokens)) = tokens := by
  apply List.ext_getElem?
  intro index
  simp only [numbered, List.getElem?_map, List.getElem?_zipIdx, Option.map_map]
  cases found : tokens[index]? with
  | none => rfl
  | some token => simp [relocate, placeIn, found]

theorem Token.exists_index_of_mem_numbered {symbols : List Symbol} {token : Token}
    (member : token ∈ numbered symbols) : ∃ index < symbols.length, token.pos = (index : Nat) := by
  obtain ⟨⟨symbol, index⟩, found, rfl⟩ := List.mem_map.mp member
  exact ⟨index, (List.mem_zipIdx found).2.1.trans_eq (Nat.zero_add _), rfl⟩

theorem Token.placeIn_getElem {tokens : List Token} {index : Nat} (bound : index < tokens.length) :
    placeIn tokens index = tokens[index].pos := by
  simp [placeIn, bound]

theorem Token.numbered_ne_nil {tokens : List Token} (given : tokens ≠ []) :
    numbered (tokens.map symbol) ≠ [] := by
  intro empty
  have same := relocate_numbered tokens
  rw [empty] at same
  exact given same.symm

/-- The error of numbered symbols stands at the index of one of them. -/
theorem Verdict.exists_index {symbols : List Symbol} {read : List Token} {error : ParseError}
    (given : Token.numbered symbols ≠ [])
    (judged : Verdict (Token.numbered symbols) read (some error)) :
    ∃ index < symbols.length, error.pos = (index : Nat) := by
  obtain ⟨empty, -⟩ | ⟨token, member, place⟩ := judged.exists_pos
  · exact absurd empty given
  · obtain ⟨index, bound, here⟩ := Token.exists_index_of_mem_numbered member
    exact ⟨index, bound, place.symm.trans here⟩

/-! ## Two texts -/

/-- Over checked integers the symbols decide on the result, but for the place of an error. -/
theorem parseTokens_of_numbered {tokens read : List Token} {verdict : Option ParseError}
    (fits : ∀ token ∈ tokens, token.symbol.Fits) (given : tokens ≠ [])
    (judged : Verdict (Token.numbered (tokens.map Token.symbol)) read verdict) (memory : σ) :
    ∃ result, Agrees (verdict.map (ParseError.relocate (Token.placeIn tokens))) result ∧
      parseTokens (CheckedInt.ring σ) tokens memory = (result, memory) := by
  -- Each symbol moves from its index to the place of the token with this index.
  have moved := judged.relocate (Token.placeIn tokens) (Token.numbered_ne_nil given)
  rw [Token.relocate_numbered] at moved
  have readFits : ∀ token ∈ read.map (Token.relocate (Token.placeIn tokens)), token.symbol.Fits :=
    fun token member => fits token (moved.isSuffix.mem member)
  exact parseTokens_of_lifts moved (valued_of_fits fits) (CheckedInt.lifts_of_fits readFits memory)

theorem parseTokens_nil (memory : σ) :
    parseTokens (CheckedInt.ring σ) [] memory = (.error (.refused ⟨.noExpression, 0⟩), memory) := by
  have judged : Verdict [] [] (some ⟨.noExpression, 0⟩) := .atFront trivial .empty
  have lifts : (CheckedInt.ring σ).Lifts memory [] memory := rfl
  obtain ⟨result, agrees, parsed⟩ := parseTokens_of_lifts judged nofun lifts
  rw [parsed]
  exact congrArg (·, memory) agrees

/-- Blanks and leading zeros have no influence on the result, and no other difference is lost.  Two
texts with the same symbols are parsed as the same tree or refused for the same reason, at the
tokens of the same index or, where both are blank, at their beginnings.  If two texts are parsed as
the same tree, they have the same symbols. -/
theorem parse_layout_independent {first second : String} {tokens others : List Token}
    (read : tokenize first = .ok tokens) (readToo : tokenize second = .ok others) (memory : σ) :
    (tokens.map Token.symbol = others.map Token.symbol →
      (∃ tree, parse (CheckedInt.ring σ) first memory = (.ok tree, memory) ∧
        parse (CheckedInt.ring σ) second memory = (.ok tree, memory)) ∨
      ∃ error other, parse (CheckedInt.ring σ) first memory = (.error (.refused error), memory) ∧
        parse (CheckedInt.ring σ) second memory = (.error (.refused other), memory) ∧
        error.cause = other.cause ∧ error.message = other.message ∧ error.kind = other.kind ∧
        (((∀ c ∈ first.toList, Text.isBlank c = true) ∧
            (∀ c ∈ second.toList, Text.isBlank c = true) ∧ error.pos = 0 ∧ other.pos = 0) ∨
          ∃ (index : Nat) (bound : index < tokens.length) (otherBound : index < others.length),
            error.pos = tokens[index].pos ∧ other.pos = others[index].pos)) ∧
    ∀ tree last otherLast, parse (CheckedInt.ring σ) first memory = (.ok tree, last) →
      parse (CheckedInt.ring σ) second memory = (.ok tree, otherLast) →
      tokens.map Token.symbol = others.map Token.symbol := by
  have spells := spells_of_tokenize read
  have otherSpells := spells_of_tokenize readToo
  have fits := spells.fits
  have otherFits := otherSpells.fits
  rw [parse_of_tokenize read, parse_of_tokenize readToo]
  refine ⟨fun same => ?_, fun tree last otherLast accepted otherAccepted => ?_⟩
  · by_cases given : tokens = []
    · subst given
      obtain rfl : others = [] := List.map_eq_nil_iff.mp same.symm
      exact .inr ⟨_, _, parseTokens_nil memory, parseTokens_nil memory, rfl, rfl, rfl,
        .inl ⟨spells.blank, otherSpells.blank, rfl, rfl⟩⟩
    · have otherGiven : others ≠ [] := by
        rintro rfl
        exact given (List.map_eq_nil_iff.mp same)
      obtain ⟨reached, verdict, judged⟩ := exists_verdict (Token.numbered (tokens.map Token.symbol))
      obtain ⟨result, agrees, outcome⟩ := parseTokens_of_numbered fits given judged memory
      obtain ⟨otherResult, otherAgrees, otherOutcome⟩ :=
        parseTokens_of_numbered otherFits otherGiven (same ▸ judged) memory
      cases verdict with
      | none =>
        -- The trees have the same symbols, so they are the same.
        obtain ⟨tree, canonical, rfl⟩ := agrees
        have spelled := ((parseTokens_checked_eq_ok_iff fits memory tree).mp outcome).2
        exact .inl ⟨tree, outcome, (parseTokens_checked_eq_ok_iff otherFits memory tree).mpr
          ⟨canonical, spelled.trans same⟩⟩
      | some error =>
        obtain rfl : result = .error (.refused _) := agrees
        obtain rfl : otherResult = .error (.refused _) := otherAgrees
        refine .inr ⟨_, _, outcome, otherOutcome, rfl, rfl, rfl, .inr ?_⟩
        obtain ⟨index, bound, here⟩ := judged.exists_index (Token.numbered_ne_nil given)
        have otherBound := bound
        rw [same] at otherBound
        rw [List.length_map] at bound otherBound
        refine ⟨index, bound, otherBound, ?_, ?_⟩
        · rw [← Token.placeIn_getElem bound, ← here, ParseError.relocate]
        · rw [← Token.placeIn_getElem otherBound, ← here, ParseError.relocate]
  · -- The symbols can be read off the tree.
    have spelled := (isCanonical_of_parseTokens (CheckedInt.faithful_ring σ)
      (valued_of_fits fits) accepted).2
    rw [← spelled]
    exact (isCanonical_of_parseTokens (CheckedInt.faithful_ring σ)
      (valued_of_fits otherFits) otherAccepted).2

/-- Two spellings of a sum without its second operand, which is refused at the sign. -/
theorem parse_layout_independent_missing_right :
    tokenize "2 + * 3" = .ok [⟨.number (some 2), 0⟩, ⟨.operator .add, 2⟩, ⟨.operator .mul, 4⟩,
        ⟨.number (some 3), 6⟩] ∧
      tokenize "02+*  003" = .ok [⟨.number (some 2), 0⟩, ⟨.operator .add, 2⟩,
        ⟨.operator .mul, 3⟩, ⟨.number (some 3), 6⟩] ∧
      ∃ error other, parse (CheckedInt.ring Unit) "2 + * 3" () = (.error (.refused error), ()) ∧
        parse (CheckedInt.ring Unit) "02+*  003" () = (.error (.refused other), ()) ∧
        error.cause = other.cause := by
  have read : tokenize "2 + * 3" = .ok [⟨.number (some 2), 0⟩, ⟨.operator .add, 2⟩,
      ⟨.operator .mul, 4⟩, ⟨.number (some 3), 6⟩] := by decide +kernel
  have readToo : tokenize "02+*  003" = .ok [⟨.number (some 2), 0⟩, ⟨.operator .add, 2⟩,
      ⟨.operator .mul, 3⟩, ⟨.number (some 3), 6⟩] := by decide +kernel
  refine ⟨read, readToo, ?_⟩
  obtain ⟨tree, accepted, -⟩ | ⟨error, other, refused, otherRefused, same, -⟩ :=
    (parse_layout_independent read readToo ()).1 rfl
  · have outcome : (parse (CheckedInt.ring Unit) "2 + * 3" ()).1.isOk = false := by decide +kernel
    rw [accepted] at outcome
    cases outcome
  · exact ⟨error, other, refused, otherRefused, same⟩

end RingCalc
