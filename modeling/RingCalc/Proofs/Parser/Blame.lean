import RingCalc.Proofs.Parser.Correctness

/-!
# Which error is reported, and where

Tokens are viable when something can stand to their left that makes them an expression.  The parser
gets through some tokens exactly when they are viable, so of several defects the rightmost one is
reported: that of the token to the left of the longest viable end of the tokens.  Where all of them
are viable, the fault is at their front.
-/

namespace RingCalc

variable {σ : Type}

/-! ## Viable tokens -/

/-- Some tokens are an expression. -/
def Accepted (memory : σ) (tokens : List Token) : Prop :=
  ∃ tree, parseTokens (CheckedInt.ring σ) tokens memory = (.ok tree, memory)

/-- Some tokens are the end of an expression. -/
def Viable (memory : σ) (tokens : List Token) : Prop :=
  ∃ before, Accepted memory (before ++ tokens)

namespace Viable

variable {memory : σ} {tokens suffix : List Token} {station : Station CheckedInt}

theorem of_suffix (viable : Viable memory tokens) (ends : suffix <:+ tokens) :
    Viable memory suffix := by
  obtain ⟨before, tree, parsed⟩ := viable
  obtain ⟨between, rfl⟩ := ends
  exact ⟨before ++ between, tree, by rw [List.append_assoc, parsed]⟩

/-- A station that holds a tree needs a left parenthesis for each of its groups. -/
theorem of_held {tree : Expr CheckedInt}
    (reads : Reads (CheckedInt.ring σ) .initial memory tokens station memory)
    (known : station.After (CheckedInt.ring σ) tokens) (held : station.held = some tree) :
    Viable memory tokens := by
  -- A left parenthesis takes the top of the stack down to its nearest group, so the stack shrinks.
  induction size : station.frames.length using Nat.strongRecOn
    generalizing tokens station tree with
  | _ count inductionHypothesis =>
    obtain ⟨_, inGroup, frames⟩ := station
    subst held
    obtain ⟨closed, -⟩ | ⟨place, outerInGroup, below, group, opened⟩ := Frame.fromGroup_cases frames
    · exact ⟨[], _, parseTokens_of_tree? reads rfl closed⟩
    · have fewer : below.length < count := by
        have shorter := (List.dropWhile_sublist
          (fun frame : Frame CheckedInt => !frame.isGroup) (l := frames)).length_le
        change (Frame.fromGroup frames).length ≤ frames.length at shorter
        rw [group, List.length_cons] at shorter
        exact size ▸ shorter
      have closes := reads.cons (.leftParen 0 (known.inGroup.trans opened) rfl group)
      obtain ⟨before, accepted⟩ :=
        inductionHypothesis below.length fewer closes (known.leftParen rfl group 0) rfl rfl
      exact ⟨before ++ [⟨.leftParen, 0⟩], by rwa [List.append_assoc]⟩

theorem of_reads (reads : Reads (CheckedInt.ring σ) .initial memory tokens station memory)
    (known : station.After (CheckedInt.ring σ) tokens) : Viable memory tokens := by
  obtain ⟨held, inGroup, frames⟩ := station
  cases held with
  | some tree => exact of_held reads known rfl
  | none =>
    -- A number fills the empty hand.
    have lifted : (CheckedInt.ring σ).ofInt 0 memory = (.ok 0, memory) :=
      CheckedInt.ring_ofInt_val 0 memory
    have literal := of_held (reads.cons (.number 0 lifted)) (known.number lifted) rfl
    exact literal.of_suffix (List.suffix_cons _ _)

theorem not_of_stops {error : ParseError} {after : σ}
    (stops : Stops (CheckedInt.ring σ) .initial memory tokens error after) :
    ¬ Viable memory tokens := by
  rintro ⟨before, tree, parsed⟩
  rw [parseTokens_of_stops stops before] at parsed
  cases parsed

end Viable

/-! ## The error reported -/

/-- The error that some tokens are blamed with.  It is that of the token to the left of their
longest viable end; where all of them are viable, it is that of their front. -/
inductive Blamed (memory : σ) : List Token → ParseError → Prop where
  | inside (before : List Token) {token : Token} {read : List Token} {error : ParseError}
      (viable : ∀ suffix, suffix <:+ read → Viable memory suffix)
      (stuck : ¬ Viable memory (token :: read)) (fault : Fault token read error) :
      Blamed memory (before ++ token :: read) error
  | atFront {tokens : List Token} {error : ParseError}
      (viable : ∀ suffix, suffix <:+ tokens → Viable memory suffix)
      (fault : FrontFault tokens error) : Blamed memory tokens error

theorem blamed_of_parseTokens {tokens : List Token} {memory : σ} {error : ParseError}
    (fits : ∀ token ∈ tokens, token.symbol.Fits)
    (refused : parseTokens (CheckedInt.ring σ) tokens memory =
      (.error (.refused error), memory)) : Blamed memory tokens error := by
  obtain ⟨station, reads, known⟩ |
      ⟨before, token, read, station, blame, rfl, reads, known, stops, fault⟩ :=
    checked_progress fits memory
  · obtain ⟨tree, -, -, outcome⟩ | ⟨blame, fault, outcome⟩ := known.conclude reads
    · rw [refused] at outcome
      cases outcome
    · rw [refused] at outcome
      cases outcome
      exact .atFront (fun suffix => (Viable.of_reads reads known).of_suffix) fault
  · have stuck := reads.stops stops
    have outcome := parseTokens_of_stops stuck before
    rw [List.singleton_append, refused] at outcome
    cases outcome
    exact .inside before (fun suffix => (Viable.of_reads reads known).of_suffix)
      (Viable.not_of_stops stuck) fault

theorem parseTokens_of_blamed {tokens : List Token} {memory : σ} {error : ParseError}
    (fits : ∀ token ∈ tokens, token.symbol.Fits) (blamed : Blamed memory tokens error) :
    parseTokens (CheckedInt.ring σ) tokens memory = (.error (.refused error), memory) := by
  cases blamed with
  | @inside before token read _ viable stuck fault =>
    have restFits : ∀ other ∈ token :: read, other.symbol.Fits := fun other member =>
      fits other (List.mem_append_right _ member)
    obtain ⟨station, reads, known⟩ |
        ⟨between, first, rest, station, blame, split, reads, known, stops, own⟩ :=
      checked_progress restFits memory
    · exact absurd (Viable.of_reads reads known) stuck
    · -- The parser stops at this token: what lies to the right of it is viable.
      have blocked := reads.stops stops
      obtain ⟨rfl, same⟩ | ⟨others, rfl, rfl⟩ := List.cons_eq_append_iff.mp split
      · cases same
        rw [fault.unique own]
        exact parseTokens_of_stops blocked before
      · exact absurd (viable _ (List.suffix_append _ _)) (Viable.not_of_stops blocked)
  | atFront viable fault =>
    obtain ⟨station, reads, known⟩ |
        ⟨before, token, read, station, blame, rfl, reads, -, stops, -⟩ :=
      checked_progress fits memory
    · obtain ⟨tree, makes, closed, -⟩ | ⟨blame, own, outcome⟩ := known.conclude reads
      · -- Tokens that are a tree have no fault at their front.
        have begins := known.begins_of_tree? makes
        exact (fault.not_of_begins begins (known.unmatched_of_closed closed)).elim
      · rw [fault.unique own]
        exact outcome
    · exact absurd (viable _ (List.suffix_append _ _)) (Viable.not_of_stops (reads.stops stops))

/-- The tokens that are refused are those that are no expression, and the error is the one they are
blamed with: its cause, which gives the message and the kind, and its place. -/
theorem parseTokens_eq_refused_iff {tokens : List Token}
    (fits : ∀ token ∈ tokens, token.symbol.Fits) (memory : σ) :
    (∀ error, parseTokens (CheckedInt.ring σ) tokens memory = (.error (.refused error), memory) ↔
      Blamed memory tokens error) ∧
    (¬ Accepted memory tokens → ∃ error, parseTokens (CheckedInt.ring σ) tokens memory =
      (.error (.refused error), memory)) ∧
    ParseCause.adjacentElements.message =
      "Ring element cannot be followed by another ring element in expression" ∧
    ParseCause.missingRight.message = "Missing right hand side expression for operator" ∧
    (ParseCause.unhandled .mod).message = "Unhandled token: mod" ∧
    ParseCause.missingRightParen.message = "Missing right parenthesis for left parenthesis" ∧
    ParseCause.noExpression.message = "No expression" ∧
    ParseCause.missingLeft.message = "Missing left hand side expression for operator" ∧
    ParseCause.missingLeftParen.message = "Missing left parenthesis for right parenthesis" ∧
    ∀ error, Blamed memory tokens error →
      error.kind = if error.cause = .noExpression then .noExpression else .unspecified := by
  refine ⟨fun error => ⟨blamed_of_parseTokens fits, parseTokens_of_blamed fits⟩, fun rejected => ?_,
    rfl, rfl, rfl, rfl, rfl, rfl, rfl, ?_⟩
  · obtain accepted | refused := parseTokens_checked fits memory
    · exact absurd accepted rejected
    · exact refused
  · intro error blamed
    cases blamed with
    | inside before _ _ fault => cases fault <;> rfl
    | atFront _ fault => cases fault <;> rfl

/-- Of the two defects of `1mod(+2)` the right one is blamed, at the operator. -/
theorem parseTokens_eq_refused_iff_two_defects :
    (∀ token ∈ [(⟨.number (some 1), 0⟩ : Token), ⟨.mod, 1⟩, ⟨.leftParen, 4⟩, ⟨.operator .add, 5⟩,
        ⟨.number (some 2), 6⟩, ⟨.rightParen, 7⟩], token.symbol.Fits) ∧
      Blamed () [⟨.number (some 1), 0⟩, ⟨.mod, 1⟩, ⟨.leftParen, 4⟩, ⟨.operator .add, 5⟩,
        ⟨.number (some 2), 6⟩, ⟨.rightParen, 7⟩] ⟨.missingLeft, 5⟩ := by
  have fits : ∀ token ∈ [(⟨.number (some 1), 0⟩ : Token), ⟨.mod, 1⟩, ⟨.leftParen, 4⟩,
      ⟨.operator .add, 5⟩, ⟨.number (some 2), 6⟩, ⟨.rightParen, 7⟩], token.symbol.Fits := by
    simp [Symbol.Fits, CheckedInt.minVal, CheckedInt.maxVal]
  exact ⟨fits, ((parseTokens_eq_refused_iff fits ()).1 _).mp (by cbv)⟩

end RingCalc
