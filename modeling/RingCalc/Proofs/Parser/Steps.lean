import RingCalc.Proofs.Parser.Station

/-!
# Steps of the parser

The parser as a step relation, with one rule for each thing it does to its tokens and to its stack
of frames.  Every state either takes a step or halts, and both agree with the machine: the steps are
its moves, and it ends where the relation halts.  A step lowers the measure, so runs are finite.
What a run did to the tokens and to the stack is an orderly log, in which every token consumed was
the next one and every frame popped was the one on top.
-/

namespace RingCalc

variable {σ α : Type}

/-! ## Events -/

/-- What the parser does to its tokens and to its stack. -/
inductive Event (α : Type) where
  | consume (token : Token)
  | push (frame : Frame α)
  | pop (frame : Frame α)

namespace Event

def consumed (log : List (Event α)) : List Token :=
  log.filterMap fun
    | .consume token => some token
    | _ => none

def pushed (log : List (Event α)) : List (Frame α) :=
  log.filterMap fun
    | .push frame => some frame
    | _ => none

def popped (log : List (Event α)) : List (Frame α) :=
  log.filterMap fun
    | .pop frame => some frame
    | _ => none

theorem consumed_append (log events : List (Event α)) :
    consumed (log ++ events) = consumed log ++ consumed events :=
  List.filterMap_append

/-- Some events lead from tokens unread and frames on the stack to those that are left: a token
consumed is the next one, and a frame popped is the one on top. -/
inductive Leads : List Token → List (Frame α) → List (Event α) → List Token → List (Frame α) →
    Prop where
  | nil (unread : List Token) (frames : List (Frame α)) : Leads unread frames [] unread frames
  | consume {unread left : List Token} {frames waiting : List (Frame α)} {log : List (Event α)}
      (token : Token) (leads : Leads unread frames log left waiting) :
      Leads (token :: unread) frames (.consume token :: log) left waiting
  | push {unread left : List Token} {frames waiting : List (Frame α)} {log : List (Event α)}
      {frame : Frame α} (leads : Leads unread (frame :: frames) log left waiting) :
      Leads unread frames (.push frame :: log) left waiting
  | pop {unread left : List Token} {frames waiting : List (Frame α)} {log : List (Event α)}
      (frame : Frame α) (leads : Leads unread frames log left waiting) :
      Leads unread (frame :: frames) (.pop frame :: log) left waiting

namespace Leads

variable {unread left rest : List Token} {frames waiting below : List (Frame α)}
  {log later : List (Event α)}

theorem append (first : Leads unread frames log left waiting)
    (second : Leads left waiting later rest below) :
    Leads unread frames (log ++ later) rest below := by
  induction first with
  | nil unread frames => exact second
  | consume token leads inductionHypothesis => exact .consume token (inductionHypothesis second)
  | push leads inductionHypothesis => exact .push (inductionHypothesis second)
  | pop frame leads inductionHypothesis => exact .pop frame (inductionHypothesis second)

/-- The tokens consumed are the first of those that were unread. -/
theorem consumed_append (leads : Leads unread frames log left waiting) :
    consumed log ++ left = unread := by
  induction leads with
  | nil unread frames => rfl
  | consume token leads inductionHypothesis => exact congrArg (token :: ·) inductionHypothesis
  | push leads inductionHypothesis => exact inductionHypothesis
  | pop frame leads inductionHypothesis => exact inductionHypothesis

/-- The frames popped and those that wait are the frames pushed and those that were there, each as
often. -/
theorem popped_append_perm (leads : Leads unread frames log left waiting) :
    (popped log ++ waiting).Perm (pushed log ++ frames) := by
  induction leads with
  | nil unread frames => exact .refl _
  | consume token leads inductionHypothesis => exact inductionHypothesis
  | push leads inductionHypothesis =>
    -- The frame is among those there for the rest of the log.
    exact inductionHypothesis.trans List.perm_middle
  | pop frame leads inductionHypothesis =>
    exact (inductionHypothesis.cons frame).trans List.perm_middle.symm

end Leads

end Event

namespace ParserState

/-! ## Rules -/

/-- The steps of the parser, with what each does to the tokens and to the stack. -/
inductive Step (ring : Ring σ α) :
    ParserState α → σ → List (Event α) → ParserState α → σ → Prop where
  /-- The outermost context ends with the tokens. -/
  | atEnd {held : Option (Expr α)} {inGroup : Bool} {frames : List (Frame α)} {memory : σ} :
      Step ring ⟨[], held, inGroup, frames, .reading⟩ memory []
        ⟨[], held, inGroup, frames, .folding⟩ memory
  /-- The context of a group ends before its left parenthesis, which stays unread. -/
  | atLeftParen {pos : Int} {rest : List Token} {held : Option (Expr α)}
      {frames : List (Frame α)} {memory : σ} :
      Step ring ⟨⟨.leftParen, pos⟩ :: rest, held, true, frames, .reading⟩ memory []
        ⟨⟨.leftParen, pos⟩ :: rest, held, true, frames, .folding⟩ memory
  | number {value pos : Int} {rest : List Token} {inGroup : Bool} {frames : List (Frame α)}
      {memory after : σ} {element : α} (lifted : ring.ofInt value memory = (.ok element, after)) :
      Step ring ⟨⟨.number (some value), pos⟩ :: rest, none, inGroup, frames, .reading⟩ memory
        [.consume ⟨.number (some value), pos⟩]
        ⟨rest, some (.leaf element), inGroup, frames, .reading⟩ after
  | operator {op : Operator} {pos : Int} {rest : List Token} {right : Expr α} {inGroup : Bool}
      {frames : List (Frame α)} {memory : σ} :
      Step ring ⟨⟨.operator op, pos⟩ :: rest, some right, inGroup, frames, .reading⟩ memory
        [.consume ⟨.operator op, pos⟩, .push (.operator op right pos)]
        ⟨rest, none, inGroup, .operator op right pos :: frames, .reading⟩ memory
  | rightParen {pos : Int} {rest : List Token} {inGroup : Bool} {frames : List (Frame α)}
      {memory : σ} :
      Step ring ⟨⟨.rightParen, pos⟩ :: rest, none, inGroup, frames, .reading⟩ memory
        [.consume ⟨.rightParen, pos⟩, .push (.group pos inGroup)]
        ⟨rest, none, true, .group pos inGroup :: frames, .reading⟩ memory
  /-- A minus with nothing to its left. -/
  | sign {unread : List Token} {inGroup : Bool} {right : Expr α} {pos : Int}
      {below : List (Frame α)} {memory : σ} :
      Step ring ⟨unread, none, inGroup, .operator .sub right pos :: below, .folding⟩ memory
        [.pop (.operator .sub right pos)]
        ⟨unread, some (.negate right), inGroup, below, .folding⟩ memory
  | attach {unread : List Token} {left right : Expr α} {inGroup : Bool} {op : Operator} {pos : Int}
      {below : List (Frame α)} {memory : σ} :
      Step ring ⟨unread, some left, inGroup, .operator op right pos :: below, .folding⟩ memory
        [.pop (.operator op right pos)]
        ⟨unread, some (left.attach op right), inGroup, below, .folding⟩ memory
  | close {place pos : Int} {rest : List Token} {inner : Expr α} {inGroup outerInGroup : Bool}
      {below : List (Frame α)} {memory : σ} :
      Step ring ⟨⟨.leftParen, place⟩ :: rest, some inner, inGroup,
          .group pos outerInGroup :: below, .folding⟩ memory
        [.pop (.group pos outerInGroup), .consume ⟨.leftParen, place⟩]
        ⟨rest, some (.group inner), outerInGroup, below, .reading⟩ memory

/-- The ends of the parser, with what it still does to the tokens and to the stack. -/
inductive Halts (ring : Ring σ α) : ParserState α → σ → List (Event α) →
    Except (Halt ParseError) (Option (Expr α) × Nat) → σ → Prop where
  | adjacentNumber {value : Option Int} {pos : Int} {rest : List Token} {right : Expr α}
      {inGroup : Bool} {frames : List (Frame α)} {memory : σ} :
      Halts ring ⟨⟨.number value, pos⟩ :: rest, some right, inGroup, frames, .reading⟩ memory
        [.consume ⟨.number value, pos⟩] (.error (.refused ⟨.adjacentElements, pos⟩)) memory
  | valueless {pos : Int} {rest : List Token} {inGroup : Bool} {frames : List (Frame α)}
      {memory : σ} :
      Halts ring ⟨⟨.number none, pos⟩ :: rest, none, inGroup, frames, .reading⟩ memory
        [.consume ⟨.number none, pos⟩] (.error (.defect .valuelessNumber)) memory
  | unlifted {value pos : Int} {rest : List Token} {inGroup : Bool} {frames : List (Frame α)}
      {memory after : σ} {error : RingError}
      (failed : ring.ofInt value memory = (.error error, after)) :
      Halts ring ⟨⟨.number (some value), pos⟩ :: rest, none, inGroup, frames, .reading⟩ memory
        [.consume ⟨.number (some value), pos⟩] (.error (.refused ⟨.literal error, pos⟩)) after
  | missingRight {op : Operator} {pos : Int} {rest : List Token} {inGroup : Bool}
      {frames : List (Frame α)} {memory : σ} :
      Halts ring ⟨⟨.operator op, pos⟩ :: rest, none, inGroup, frames, .reading⟩ memory
        [.consume ⟨.operator op, pos⟩] (.error (.refused ⟨.missingRight, pos⟩)) memory
  | adjacentGroup {pos : Int} {rest : List Token} {right : Expr α} {inGroup : Bool}
      {frames : List (Frame α)} {memory : σ} :
      Halts ring ⟨⟨.rightParen, pos⟩ :: rest, some right, inGroup, frames, .reading⟩ memory
        [.consume ⟨.rightParen, pos⟩] (.error (.refused ⟨.adjacentElements, pos⟩)) memory
  | missingRightParen {pos : Int} {rest : List Token} {held : Option (Expr α)}
      {frames : List (Frame α)} {memory : σ} :
      Halts ring ⟨⟨.leftParen, pos⟩ :: rest, held, false, frames, .reading⟩ memory
        [] (.error (.refused ⟨.missingRightParen, pos⟩)) memory
  | unhandled {pos : Int} {rest : List Token} {held : Option (Expr α)} {inGroup : Bool}
      {frames : List (Frame α)} {memory : σ} :
      Halts ring ⟨⟨.mod, pos⟩ :: rest, held, inGroup, frames, .reading⟩ memory
        [.consume ⟨.mod, pos⟩] (.error (.refused ⟨.unhandled .mod, pos⟩)) memory
  | missingLeft {unread : List Token} {inGroup : Bool} {op : Operator} {right : Expr α} {pos : Int}
      {below : List (Frame α)} {memory : σ} (unsigned : op ≠ .sub) :
      Halts ring ⟨unread, none, inGroup, .operator op right pos :: below, .folding⟩ memory
        [.pop (.operator op right pos)] (.error (.refused ⟨.missingLeft, pos⟩)) memory
  | noExpression {unread : List Token} {inGroup outerInGroup : Bool} {pos : Int}
      {below : List (Frame α)} {memory : σ} :
      Halts ring ⟨unread, none, inGroup, .group pos outerInGroup :: below, .folding⟩ memory
        [.pop (.group pos outerInGroup)] (.error (.refused ⟨.noExpression, pos⟩)) memory
  | missingLeftParen {unread : List Token} {inner : Expr α} {inGroup outerInGroup : Bool}
      {pos : Int} {below : List (Frame α)} {memory : σ}
      (unopened : ∀ place rest, unread ≠ ⟨.leftParen, place⟩ :: rest) :
      Halts ring ⟨unread, some inner, inGroup, .group pos outerInGroup :: below, .folding⟩ memory
        [.pop (.group pos outerInGroup)] (.error (.refused ⟨.missingLeftParen, pos⟩)) memory
  | finished {unread : List Token} {held : Option (Expr α)} {inGroup : Bool} {memory : σ} :
      Halts ring ⟨unread, held, inGroup, [], .folding⟩ memory [] (.ok (held, unread.length)) memory

section

variable {ring : Ring σ α} {state next : ParserState α} {memory after : σ}
  {events : List (Event α)} {result : Except (Halt ParseError) (Option (Expr α) × Nat)}

/-! ## Agreement with the machine -/

theorem step_or_halts (ring : Ring σ α) (state : ParserState α) (memory : σ) :
    (∃ events next after, Step ring state memory events next after) ∨
      ∃ events result after, Halts ring state memory events result after := by
  obtain ⟨unread, held, inGroup, frames, phase⟩ := state
  cases phase with
  | reading =>
    obtain _ | ⟨⟨symbol, pos⟩, rest⟩ := unread
    · exact .inl ⟨_, _, _, .atEnd⟩
    cases symbol with
    | number value =>
      cases held with
      | some right => exact .inr ⟨_, _, _, .adjacentNumber⟩
      | none =>
        cases value with
        | none => exact .inr ⟨_, _, _, .valueless⟩
        | some value =>
          rcases outcome : ring.ofInt value memory with ⟨error | element, after⟩
          · exact .inr ⟨_, _, _, .unlifted outcome⟩
          · exact .inl ⟨_, _, _, .number outcome⟩
    | operator op =>
      cases held with
      | some right => exact .inl ⟨_, _, _, .operator⟩
      | none => exact .inr ⟨_, _, _, .missingRight⟩
    | mod => exact .inr ⟨_, _, _, .unhandled⟩
    | leftParen =>
      cases inGroup with
      | true => exact .inl ⟨_, _, _, .atLeftParen⟩
      | false => exact .inr ⟨_, _, _, .missingRightParen⟩
    | rightParen =>
      cases held with
      | some right => exact .inr ⟨_, _, _, .adjacentGroup⟩
      | none => exact .inl ⟨_, _, _, .rightParen⟩
  | folding =>
    obtain _ | ⟨⟨op, right, pos⟩ | ⟨pos, outerInGroup⟩, below⟩ := frames
    · exact .inr ⟨_, _, _, .finished⟩
    · cases held with
      | some left => exact .inl ⟨_, _, _, .attach⟩
      | none =>
        by_cases signed : op = .sub
        · subst signed
          exact .inl ⟨_, _, _, .sign⟩
        · exact .inr ⟨_, _, _, .missingLeft signed⟩
    · cases held with
      | none => exact .inr ⟨_, _, _, .noExpression⟩
      | some inner =>
        by_cases opened : ∃ place rest, unread = ⟨.leftParen, place⟩ :: rest
        · obtain ⟨place, rest, rfl⟩ := opened
          exact .inl ⟨_, _, _, .close⟩
        · have unopened : ∀ place rest, unread ≠ ⟨.leftParen, place⟩ :: rest := by
            intro place rest same
            exact opened ⟨place, rest, same⟩
          exact .inr ⟨_, _, _, .missingLeftParen unopened⟩

/-- The machine goes on from a state. -/
inductive Moves (ring : Ring σ α) (state : ParserState α) (memory : σ) :
    ParserState α → σ → Prop where
  | goto {next : ParserState α} (moved : state.move = .goto next) :
      Moves ring state memory next memory
  | lift {value pos : Int} {base : ParserState α} {element : α} {after : σ}
      (moved : state.move = .lift value pos base)
      (lifted : ring.ofInt value memory = (.ok element, after)) :
      Moves ring state memory (base.hold element) after

/-- The machine comes to its end at a state. -/
inductive Ends (ring : Ring σ α) (state : ParserState α) (memory : σ) :
    Except (Halt ParseError) (Option (Expr α) × Nat) → σ → Prop where
  | finish {held : Option (Expr α)} {unread : Nat} (moved : state.move = .finish held unread) :
      Ends ring state memory (.ok (held, unread)) memory
  | refuse {cause : ParseCause} {pos : Int} (moved : state.move = .refuse cause pos) :
      Ends ring state memory (.error (.refused ⟨cause, pos⟩)) memory
  | lift {value pos : Int} {base : ParserState α} {error : RingError} {after : σ}
      (moved : state.move = .lift value pos base)
      (failed : ring.ofInt value memory = (.error error, after)) :
      Ends ring state memory (.error (.refused ⟨.literal error, pos⟩)) after
  | fault {reason : Defect} (moved : state.move = .fault reason) :
      Ends ring state memory (.error (.defect reason)) memory

theorem Step.moves (step : Step ring state memory events next after) :
    Moves ring state memory next after := by
  cases step with
  | atEnd | atLeftParen | operator | rightParen | sign | close => exact .goto rfl
  | @number value pos rest inGroup frames _ _ _ lifted =>
    exact .lift (Station.move_reading_number inGroup frames value pos rest) lifted
  | @attach _ _ _ _ op => cases op <;> exact .goto rfl

theorem Halts.ends (halts : Halts ring state memory events result after) :
    Ends ring state memory result after := by
  cases halts with
  | adjacentNumber | missingRight | adjacentGroup | missingRightParen | unhandled | noExpression =>
    exact .refuse rfl
  | valueless => exact .fault rfl
  | @unlifted value pos rest inGroup frames _ _ _ failed =>
    exact .lift (Station.move_reading_number inGroup frames value pos rest) failed
  | @missingLeft _ _ op _ _ _ _ unsigned =>
    cases op with
    | sub => exact absurd rfl unsigned
    | _ => exact .refuse rfl
  | @missingLeftParen unread _ _ _ _ _ _ unopened =>
    obtain _ | ⟨⟨symbol, place⟩, rest⟩ := unread
    · exact .refuse rfl
    · cases symbol with
      | leftParen => exact absurd rfl (unopened place rest)
      | _ => exact .refuse rfl
  | finished => exact .finish rfl

theorem Moves.run_eq (moves : Moves ring state memory next after) :
    state.run ring memory = next.run ring after := by
  cases moves with
  | goto moved => exact run_of_goto moved
  | lift moved lifted => rw [run_of_lift ring memory moved, lifted]

theorem Moves.measure_lt (moves : Moves ring state memory next after) :
    next.measure < state.measure := by
  cases moves with
  | goto moved => exact measure_lt_of_goto moved
  | lift moved lifted => exact measure_lt_of_lift moved _

theorem Ends.run_eq (ends : Ends ring state memory result after) :
    state.run ring memory = (result, after) := by
  cases ends with
  | finish moved => exact run_of_finish moved
  | refuse moved => exact run_of_refuse moved
  | lift moved failed => rw [run_of_lift ring memory moved, failed]
  | fault moved => rw [ParserState.run_eq, moved]

/-- The machine goes on in one way only. -/
theorem Moves.unique (moves : Moves ring state memory next after) {other : ParserState α}
    {later : σ} (again : Moves ring state memory other later) : next = other ∧ after = later := by
  cases moves with
  | goto moved =>
    cases again with
    | goto same =>
      cases moved.symm.trans same
      exact ⟨rfl, rfl⟩
    | lift same _ => cases moved.symm.trans same
  | lift moved lifted =>
    cases again with
    | goto same => cases moved.symm.trans same
    | lift same liftedToo =>
      -- The ring is a function of its memory, so it gives the same element again.
      cases moved.symm.trans same
      cases lifted.symm.trans liftedToo
      exact ⟨rfl, rfl⟩

/-- The machine does not go on from where it ends. -/
theorem Moves.not_ends (moves : Moves ring state memory next after) {later : σ} :
    ¬ Ends ring state memory result later := by
  intro ends
  cases moves with
  | goto moved =>
    cases ends with
    | finish same | refuse same | lift same _ | fault same => cases moved.symm.trans same
  | lift moved lifted =>
    cases ends with
    | lift same failed =>
      cases moved.symm.trans same
      cases lifted.symm.trans failed
    | finish same | refuse same | fault same => cases moved.symm.trans same

/-- The steps are the moves of the machine. -/
theorem exists_step_iff_moves :
    (∃ events, Step ring state memory events next after) ↔ Moves ring state memory next after := by
  constructor
  · rintro ⟨events, step⟩
    exact step.moves
  · intro moves
    obtain ⟨events, other, later, step⟩ | ⟨events, result, later, halts⟩ :=
      step_or_halts ring state memory
    · obtain ⟨rfl, rfl⟩ := moves.unique step.moves
      exact ⟨events, step⟩
    · exact (moves.not_ends halts.ends).elim

/-! ## Tokens and frames -/

theorem Step.leads (step : Step ring state memory events next after) :
    Event.Leads state.unread state.frames events next.unread next.frames := by
  cases step with
  | atEnd | atLeftParen => exact .nil _ _
  | number _ => exact .consume _ (.nil _ _)
  | operator | rightParen => exact .consume _ (.push (.nil _ _))
  | sign | attach => exact .pop _ (.nil _ _)
  | close => exact .pop _ (.consume _ (.nil _ _))

theorem Halts.leads (halts : Halts ring state memory events result after) :
    ∃ left waiting, Event.Leads state.unread state.frames events left waiting := by
  cases halts with
  | missingRightParen | finished => exact ⟨_, _, .nil _ _⟩
  | adjacentNumber | valueless | unlifted _ | missingRight | adjacentGroup | unhandled =>
    exact ⟨_, _, .consume _ (.nil _ _)⟩
  | missingLeft _ | noExpression | missingLeftParen _ => exact ⟨_, _, .pop _ (.nil _ _)⟩

end

/-! ## Runs -/

/-- The states that the parser gets to, each with the number of steps and with the events so far. -/
inductive Steps (ring : Ring σ α) (first : ParserState α) (memory : σ) :
    Nat → List (Event α) → ParserState α → σ → Prop where
  | refl : Steps ring first memory 0 [] first memory
  | step {count : Nat} {log events : List (Event α)} {state next : ParserState α}
      {after later : σ} (steps : Steps ring first memory count log state after)
      (step : Step ring state after events next later) :
      Steps ring first memory (count + 1) (log ++ events) next later

namespace Steps

variable {ring : Ring σ α} {first state : ParserState α} {memory after : σ} {count : Nat}
  {log : List (Event α)}

theorem run_eq (steps : Steps ring first memory count log state after) :
    first.run ring memory = state.run ring after := by
  induction steps with
  | refl => rfl
  | step steps step inductionHypothesis => rw [inductionHypothesis, step.moves.run_eq]

theorem leads (steps : Steps ring first memory count log state after) :
    Event.Leads first.unread first.frames log state.unread state.frames := by
  induction steps with
  | refl => exact .nil _ _
  | step steps step inductionHypothesis => exact inductionHypothesis.append step.leads

theorem count_add_measure_le (steps : Steps ring first memory count log state after) :
    count + state.measure ≤ first.measure := by
  induction steps with
  | refl => omega
  | step steps step inductionHypothesis =>
    have := step.moves.measure_lt
    omega

/-- Every run goes on to an end. -/
theorem exists_halts (steps : Steps ring first memory count log state after) :
    ∃ count log last later events result final,
      Steps ring first memory count log last later ∧
        Halts ring last later events result final := by
  -- A step lowers the measure, and a state without a step halts.
  induction size : state.measure using Nat.strongRecOn generalizing count log state after with
  | _ size inductionHypothesis =>
    subst size
    obtain ⟨events, next, later, step⟩ | ⟨events, result, final, halts⟩ :=
      step_or_halts ring state after
    · exact inductionHypothesis _ step.moves.measure_lt (steps.step step) rfl
    · exact ⟨_, _, _, _, _, _, _, steps, halts⟩

end Steps

end ParserState

end RingCalc
