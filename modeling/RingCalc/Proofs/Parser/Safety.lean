import RingCalc.Proofs.Parser.Steps
import RingCalc.Ring.CheckedInt

/-!
# Safety of the parser

Whatever its tokens are, the parser takes finitely many steps, consumes the tokens from the last to
the first, pops each frame it pushed at most once, and ends with an error of its input or with all
tokens consumed and no frame left.

The last part rests on the flag for an open group.  A context ends before a left parenthesis only
where the flag is up; the flag is up only over the frame of a group; and folding stops at that
frame.  So an empty stack is met at the end of the tokens only, however the parentheses are nested.
-/

namespace RingCalc

variable {σ α : Type}

namespace Expr

/-- The tree of an operator is a binary one, or the tree to its left, rotated. -/
theorem exists_attach_eq (op : Operator) (left right : Expr α) :
    ∃ root first second, left.attach op right = .binary root first second := by
  by_cases tight : op.precedence ≤ left.precedence
  · exact ⟨op, left, right, attach_of_le tight⟩
  · cases left with
    | binary looser first second =>
      exact ⟨looser, first, .binary op second right, attach_of_lt (Nat.lt_of_not_le tight)⟩
    | _ => exact ⟨op, _, right, rfl⟩

end Expr

namespace ParserState

/-! ## The invariant -/

/-- What holds at every state of a run. -/
structure Aware (state : ParserState α) : Prop where
  inGroup : state.inGroup = state.frames.any Frame.isGroup
  nested : Frame.Nested state.frames
  /-- A context ends with the tokens or in a group. -/
  ended : state.phase = .folding → state.unread = [] ∨ state.inGroup = true
  /-- The tree held is one of the parser's own. -/
  native : ∀ name, state.held ≠ some (.foreign name)

theorem aware_start (tokens : List Token) : (start tokens : ParserState α).Aware where
  inGroup := rfl
  nested := trivial
  ended := nofun
  native := nofun

section

variable {ring : Ring σ α} {first state next : ParserState α} {memory after : σ} {count : Nat}
  {events log : List (Event α)} {result : Except (Halt ParseError) (Option (Expr α) × Nat)}

theorem Step.aware (step : Step ring state memory events next after) (aware : state.Aware) :
    next.Aware := by
  obtain ⟨inGroup, nested, ended, native⟩ := aware
  -- The flag changes at the parentheses of a group only; its frame keeps the flag from outside.
  cases step with
  | atEnd => exact ⟨inGroup, nested, fun _ => .inl rfl, native⟩
  | atLeftParen => exact ⟨inGroup, nested, fun _ => .inr rfl, native⟩
  | number _ => exact ⟨inGroup, nested, nofun, nofun⟩
  | operator => exact ⟨inGroup, nested, nofun, nofun⟩
  | rightParen => exact ⟨rfl, ⟨inGroup, nested⟩, nofun, nofun⟩
  | sign => exact ⟨inGroup, nested, ended, nofun⟩
  | @attach _ left right _ op =>
    refine ⟨inGroup, nested, ended, ?_⟩
    obtain ⟨root, first, second, same⟩ := left.exists_attach_eq op right
    rw [same]
    exact nofun
  | close => exact ⟨nested.1, nested.2, nofun, nofun⟩

theorem Steps.aware (steps : Steps ring first memory count log state after)
    (aware : first.Aware) : state.Aware := by
  induction steps with
  | refl => exact aware
  | step steps step inductionHypothesis => exact step.aware inductionHypothesis

/-- A run ends in no defect: it ends with an error, or where no token and no frame is left. -/
theorem Halts.refused_or_returned (halts : Halts ring state memory events result after)
    (aware : state.Aware) (valued : ∀ token ∈ state.unread, token.symbol ≠ .number none) :
    (∃ error, result = .error (.refused error)) ∨
      ∃ held, result = .ok (held, 0) ∧ events = [] ∧ state.unread = [] ∧ state.frames = [] := by
  cases halts with
  | valueless => exact absurd rfl (valued _ List.mem_cons_self)
  | @finished unread held inGroup =>
    obtain read | opened := aware.ended rfl
    · obtain rfl : unread = [] := read
      exact .inr ⟨held, rfl, rfl, rfl, rfl⟩
    · -- A group cannot be open over an empty stack.
      have closed : inGroup = false := aware.inGroup
      exact absurd (closed.symm.trans opened) Bool.false_ne_true
  | _ => exact .inl ⟨_, rfl⟩

end

/-! ## Runs on some tokens -/

/-- How a run on some tokens stands: how far it is, what it did so far, and that an operator about
to be joined to the tree on its left finds a binary tree wherever it has to rotate one. -/
structure Orderly (tokens : List Token) (count : Nat) (log : List (Event α))
    (state : ParserState α) : Prop where
  bounded : count ≤ 2 * tokens.length + 1
  leads : Event.Leads tokens.reverse [] log state.unread state.frames
  consumed : Event.consumed log ++ state.unread = tokens.reverse
  popped : (Event.popped log ++ state.frames).Perm (Event.pushed log)
  rotates : ∀ {op : Operator} {right left : Expr α} {pos : Int} {below : List (Frame α)},
    state.phase = .folding → state.frames = .operator op right pos :: below →
    state.held = some left → (∀ name, left ≠ .foreign name) ∧
      (left.isOperator = true → left.precedence < op.precedence →
        ∃ looser first second, left = .binary looser first second ∧
          left.attach op right = .binary looser first (.binary op second right))

/-- How a run on some tokens ends, after all that it did. -/
inductive Settled (tokens : List Token) (log : List (Event α)) (last : ParserState α) :
    Except (Halt ParseError) (Option (Expr α) × Nat) → Prop where
  | refused (error : ParseError) {left : List Token} {waiting : List (Frame α)}
      (leads : Event.Leads tokens.reverse [] log left waiting)
      (consumed : Event.consumed log ++ left = tokens.reverse)
      (popped : (Event.popped log ++ waiting).Perm (Event.pushed log)) :
      Settled tokens log last (.error (.refused error))
  | returned (held : Option (Expr α)) (consumed : Event.consumed log = tokens.reverse)
      (popped : (Event.popped log).Perm (Event.pushed log)) (unread : last.unread = [])
      (frames : last.frames = []) : Settled tokens log last (.ok (held, 0))

section

variable {ring : Ring σ α} {tokens : List Token} {memory between after : σ} {count : Nat}
  {log events : List (Event α)} {state : ParserState α}
  {result : Except (Halt ParseError) (Option (Expr α) × Nat)}

theorem Steps.orderly (steps : Steps ring (start tokens) memory count log state after) :
    Orderly tokens count log state where
  bounded := by
    have spent := steps.count_add_measure_le
    simp only [measure, start, List.length_reverse, List.length_nil] at spent
    omega
  leads := steps.leads
  consumed := steps.leads.consumed_append
  popped := by
    have balanced := steps.leads.popped_append_perm
    rwa [show (start tokens : ParserState α).frames = [] from rfl, List.append_nil] at balanced
  rotates := by
    intro op right left pos below folding frames held
    have aware := steps.aware (aware_start tokens)
    refine ⟨fun name foreign => aware.native name (foreign ▸ held), ?_⟩
    intro operator loose
    cases left with
    | binary looser first second =>
      exact ⟨looser, first, second, rfl, Expr.attach_of_lt loose⟩
    | _ => cases operator

theorem Steps.settled (steps : Steps ring (start tokens) memory count log state between)
    (halts : Halts ring state between events result after)
    (valued : ∀ token ∈ tokens, token.symbol ≠ .number none) :
    Settled tokens (log ++ events) state result := by
  have orderly := steps.orderly
  have given : ∀ token ∈ state.unread, token.symbol ≠ .number none := by
    intro token member
    apply valued token
    rw [← List.mem_reverse, ← orderly.consumed]
    exact List.mem_append_right _ member
  obtain ⟨error, rfl⟩ | ⟨held, rfl, rfl, unread, frames⟩ :=
    halts.refused_or_returned (steps.aware (aware_start tokens)) given
  · -- What is still done where the input is refused belongs to the log.
    obtain ⟨left, waiting, last⟩ := halts.leads
    have whole := orderly.leads.append last
    have balanced := whole.popped_append_perm
    rw [List.append_nil] at balanced
    exact .refused error whole whole.consumed_append balanced
  · have consumed := orderly.consumed
    have popped := orderly.popped
    rw [unread, List.append_nil] at consumed
    rw [frames, List.append_nil] at popped
    rw [List.append_nil]
    exact .returned held consumed popped unread frames

end

end ParserState

/-! ## Parsing -/

open ParserState in
/-- Parsing ends, with a tree or with an error of its input; on the way it consumes the tokens from
the last to the first, and where it is done with them no frame is left. -/
theorem parseTokens_safe (ring : Ring σ α) {tokens : List Token}
    (valued : ∀ token ∈ tokens, token.symbol ≠ .number none) (memory : σ) :
    (∃ count log last between events result after,
        Steps ring (start tokens) memory count log last between ∧
          Halts ring last between events result after) ∧
      (∀ {count log state between}, Steps ring (start tokens) memory count log state between →
        Orderly tokens count log state ∧
          ∀ {events result after}, Halts ring state between events result after →
            (start tokens).run ring memory = (result, after) ∧
              Settled tokens (log ++ events) state result) ∧
      ((∃ tree, (parseTokens ring tokens memory).1 = .ok tree) ∨
        ∃ error, (parseTokens ring tokens memory).1 = .error (.refused error)) := by
  have ending {count log state between}
      (steps : Steps ring (start tokens) memory count log state between) {events result after}
      (halts : Halts ring state between events result after) :
      (start tokens).run ring memory = (result, after) ∧
        Settled tokens (log ++ events) state result :=
    ⟨steps.run_eq.trans halts.ends.run_eq, steps.settled halts valued⟩
  have complete := Steps.exists_halts (.refl : Steps ring (start tokens) memory 0 [] _ memory)
  refine ⟨complete, fun steps => ⟨steps.orderly, ending steps⟩, ?_⟩
  obtain ⟨count, log, last, between, events, result, after, steps, halts⟩ := complete
  obtain ⟨outcome, settled⟩ := ending steps halts
  rw [parseTokens, outcome]
  cases settled with
  | refused error leads consumed popped => exact .inr ⟨error, rfl⟩
  | returned held consumed popped unread frames =>
    cases held with
    | none => exact .inr ⟨⟨.noExpression, 0⟩, rfl⟩
    | some tree => exact .inl ⟨tree, rfl⟩

open ParserState in
/-- The tokens of `-(1+2)`. -/
theorem parseTokens_safe_negated_sum :
    (∀ token ∈ [(⟨.operator .sub, 0⟩ : Token), ⟨.leftParen, 1⟩, ⟨.number (some 1), 2⟩,
        ⟨.operator .add, 3⟩, ⟨.number (some 2), 4⟩, ⟨.rightParen, 5⟩],
        token.symbol ≠ .number none) ∧
      ∃ (count : Nat) (log : List (Event CheckedInt)) (last : ParserState CheckedInt),
        Steps (CheckedInt.ring Unit) (start [⟨.operator .sub, 0⟩, ⟨.leftParen, 1⟩,
          ⟨.number (some 1), 2⟩, ⟨.operator .add, 3⟩, ⟨.number (some 2), 4⟩,
          ⟨.rightParen, 5⟩]) () count log last () ∧
        count ≤ 13 ∧ last.unread = [] ∧ last.frames = [] ∧
        Event.consumed log = [⟨.rightParen, 5⟩, ⟨.number (some 2), 4⟩, ⟨.operator .add, 3⟩,
          ⟨.number (some 1), 2⟩, ⟨.leftParen, 1⟩, ⟨.operator .sub, 0⟩] := by
  have valued : ∀ token ∈ [(⟨.operator .sub, 0⟩ : Token), ⟨.leftParen, 1⟩, ⟨.number (some 1), 2⟩,
      ⟨.operator .add, 3⟩, ⟨.number (some 2), 4⟩, ⟨.rightParen, 5⟩],
      token.symbol ≠ .number none := by decide
  refine ⟨valued, ?_⟩
  obtain ⟨⟨count, log, last, between, events, result, after, steps, halts⟩, known, -⟩ :=
    parseTokens_safe (CheckedInt.ring Unit) valued ()
  obtain ⟨orderly, ends⟩ := known steps
  obtain ⟨outcome, settled⟩ := ends halts
  have accepted : ((start [⟨.operator .sub, 0⟩, ⟨.leftParen, 1⟩, ⟨.number (some 1), 2⟩,
      ⟨.operator .add, 3⟩, ⟨.number (some 2), 4⟩, ⟨.rightParen, 5⟩]).run
      (CheckedInt.ring Unit) ()).1.isOk = true := by decide +kernel
  rw [outcome] at accepted
  cases settled with
  | refused error leads consumed popped => cases accepted
  | returned held consumed popped unread frames =>
    have read := orderly.consumed
    rw [unread, List.append_nil] at read
    exact ⟨count, log, last, steps, orderly.bounded, unread, frames, read⟩

end RingCalc
