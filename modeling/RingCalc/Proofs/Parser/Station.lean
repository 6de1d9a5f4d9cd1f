import RingCalc.Expr.Parser
import RingCalc.Proofs.Parser.Grammar

/-!
# Stations of the parser

Between two tokens the parser stands at a station: the tree it holds, whether a group is open, and
the frames that wait.  The station depends on the tokens read and not on those still unread, so what
is said about the tokens read holds whatever stands to their left.  This module gives one equation
for every token read from a station and for the end of a context, where the operators on top of the
stack are joined into one tree.
-/

namespace RingCalc

variable {σ α : Type}

/-! ## Frames -/

namespace Frame

def isGroup : Frame α → Bool
  | .group .. => true
  | .operator .. => false

/-- The frames from the nearest group on. -/
def fromGroup (frames : List (Frame α)) : List (Frame α) :=
  frames.dropWhile fun frame => !frame.isGroup

def symbols (literal : α → Int) : Frame α → List Symbol
  | .operator op right _ => .operator op :: right.symbols literal
  | .group .. => [.rightParen]

/-- The right operand of an operator frame is a literal or a group. -/
def IsSound : Frame α → Prop
  | .operator _ right _ => right.isSealed = true
  | .group .. => True

/-- Every group frame knows whether another group lies below it. -/
def Nested : List (Frame α) → Prop
  | [] => True
  | .operator .. :: below => Nested below
  | .group _ outerInGroup :: below => outerInGroup = below.any isGroup ∧ Nested below

theorem fromGroup_operator (op : Operator) (right : Expr α) (pos : Int) (below : List (Frame α)) :
    fromGroup (.operator op right pos :: below) = fromGroup below :=
  rfl

theorem fromGroup_group (pos : Int) (outerInGroup : Bool) (below : List (Frame α)) :
    fromGroup (.group pos outerInGroup :: below) = .group pos outerInGroup :: below :=
  rfl

/-- Below the operators on top there is the nearest group or nothing. -/
theorem fromGroup_cases (frames : List (Frame α)) :
    (fromGroup frames = [] ∧ frames.any isGroup = false) ∨
      ∃ pos outerInGroup below, fromGroup frames = .group pos outerInGroup :: below ∧
        frames.any isGroup = true := by
  induction frames with
  | nil => exact .inl ⟨rfl, rfl⟩
  | cons frame below inductionHypothesis =>
    cases frame with
    | operator op right pos => exact inductionHypothesis
    | group pos outerInGroup => exact .inr ⟨pos, outerInGroup, below, rfl, rfl⟩

theorem filter_fromGroup (frames : List (Frame α)) :
    (fromGroup frames).filter isGroup = frames.filter isGroup := by
  induction frames with
  | nil => rfl
  | cons frame below inductionHypothesis =>
    cases frame with
    | operator op right pos => exact inductionHypothesis
    | group pos outerInGroup => rfl

theorem Nested.fromGroup {frames : List (Frame α)} (nested : Nested frames) :
    Nested (fromGroup frames) := by
  induction frames with
  | nil => exact nested
  | cons frame below inductionHypothesis =>
    cases frame with
    | operator op right pos => exact inductionHypothesis nested
    | group pos outerInGroup => exact nested

theorem Nested.outerInGroup {above below : List (Frame α)} {pos : Int} {outerInGroup : Bool}
    (nested : Nested (above ++ .group pos outerInGroup :: below)) :
    outerInGroup = below.any isGroup := by
  induction above with
  | nil => exact nested.1
  | cons frame rest inductionHypothesis =>
    cases frame with
    | operator _ _ _ => exact inductionHypothesis nested
    | group _ _ => exact inductionHypothesis nested.2

theorem mem_of_mem_fromGroup {frame : Frame α} {frames : List (Frame α)}
    (member : frame ∈ fromGroup frames) : frame ∈ frames :=
  (List.dropWhile_sublist _).mem member

end Frame

/-! ## The end of a context -/

namespace Expr

/-- Joins a finished tree with the operators on top of the stack, down to the nearest group. -/
def attachAll : Expr α → List (Frame α) → Expr α
  | left, .operator op right _ :: below => (left.attach op right).attachAll below
  | left, _ => left

theorem isCanonical_attachAll {left : Expr α} {frames : List (Frame α)}
    (canonical : left.isCanonical true = true) (sound : ∀ frame ∈ frames, frame.IsSound) :
    (left.attachAll frames).isCanonical true = true := by
  induction frames generalizing left with
  | nil => exact canonical
  | cons frame below inductionHypothesis =>
    rw [List.forall_mem_cons] at sound
    cases frame with
    | operator op right pos =>
      exact inductionHypothesis (isCanonical_attach op canonical sound.1) sound.2
    | group pos outerInGroup => exact canonical

theorem symbols_attachAll (literal : α → Int) (left : Expr α) (frames : List (Frame α)) :
    (left.attachAll frames).symbols literal ++
        (Frame.fromGroup frames).flatMap (Frame.symbols literal) =
      left.symbols literal ++ frames.flatMap (Frame.symbols literal) := by
  induction frames generalizing left with
  | nil => rfl
  | cons frame below inductionHypothesis =>
    cases frame with
    | operator op right pos =>
      rw [attachAll, Frame.fromGroup_operator, inductionHypothesis, symbols_attach,
        List.flatMap_cons, Frame.symbols]
      simp only [List.append_assoc, List.cons_append]
    | group pos outerInGroup => rfl

end Expr

/-! ## Stations -/

/-- Where the parser stands between two tokens: its state but for the tokens unread. -/
structure Station (α : Type) where
  held : Option (Expr α)
  inGroup : Bool
  frames : List (Frame α)

namespace Station

def initial : Station α := ⟨none, false, []⟩

/-- The state of a parser that reads on from a station; the next token comes first. -/
def reading (station : Station α) (unread : List Token) : ParserState α :=
  ⟨unread, station.held, station.inGroup, station.frames, .reading⟩

/-- The state of a parser that has met the end of a context at a station. -/
def folding (station : Station α) (unread : List Token) : ParserState α :=
  ⟨unread, station.held, station.inGroup, station.frames, .folding⟩

/-- In a group a left parenthesis is the end of a context. -/
theorem move_reading_leftParen {station : Station α} (opened : station.inGroup = true) {pos : Int}
    {unread : List Token} : (station.reading (⟨.leftParen, pos⟩ :: unread)).move =
      .goto (station.folding (⟨.leftParen, pos⟩ :: unread)) := by
  simp only [reading, folding, ParserState.move, ParserState.read, opened, if_true]

theorem move_reading_number (inGroup : Bool) (frames : List (Frame α)) (value pos : Int)
    (unread : List Token) :
    (reading ⟨none, inGroup, frames⟩ (⟨.number (some value), pos⟩ :: unread)).move =
      .lift value pos (reading ⟨none, inGroup, frames⟩ unread) :=
  rfl

/-- The tree that a station makes at the end of a context, if it makes one. -/
def tree? (station : Station α) : Option (Expr α) :=
  match station.held, station.frames with
  | some left, frames => some (left.attachAll frames)
  | none, .operator .sub right _ :: below => some ((Expr.negate right).attachAll below)
  | none, _ => none

/-- A tree is the tree held or a sign and its operand, joined with the operators below. -/
theorem tree?_eq_some {station : Station α} {tree : Expr α} (makes : station.tree? = some tree) :
    (∃ left, station.held = some left ∧ tree = left.attachAll station.frames) ∨
      ∃ right pos below, station.held = none ∧ station.frames = .operator .sub right pos :: below ∧
        tree = (Expr.negate right).attachAll below := by
  obtain ⟨held, inGroup, frames⟩ := station
  cases held with
  | some left => exact .inl ⟨left, rfl, (Option.some.inj makes).symm⟩
  | none =>
    obtain _ | ⟨⟨op, right, pos⟩ | ⟨pos, outerInGroup⟩, below⟩ := frames
    · cases makes
    · cases op with
      | sub => exact .inr ⟨right, pos, below, rfl, rfl, (Option.some.inj makes).symm⟩
      | _ => cases makes
    · cases makes

def symbols (literal : α → Int) (station : Station α) : List Symbol :=
  station.held.toList.flatMap (Expr.symbols literal) ++
    station.frames.flatMap (Frame.symbols literal)

/-- The tree of a station takes its symbols down to the nearest group. -/
theorem symbols_of_tree? {station : Station α} {tree : Expr α} (literal : α → Int)
    (makes : station.tree? = some tree) :
    tree.symbols literal ++ (Frame.fromGroup station.frames).flatMap (Frame.symbols literal) =
      station.symbols literal := by
  obtain ⟨held, inGroup, frames⟩ := station
  obtain ⟨left, rfl, rfl⟩ | ⟨right, pos, below, rfl, rfl, rfl⟩ := tree?_eq_some makes
  · rw [Expr.symbols_attachAll]
    simp only [symbols, Option.toList_some, List.flatMap_singleton]
  · rw [Frame.fromGroup_operator, Expr.symbols_attachAll]
    rfl

end Station

/-! ## Runs -/

namespace ParserState

variable {ring : Ring σ α} {memory after : σ} {state next : ParserState α}

/-- A run, with the equation of its move left out. -/
theorem run_eq (ring : Ring σ α) (state : ParserState α) (memory : σ) :
    run ring state memory =
      match state.move with
      | .goto next => run ring next memory
      | .lift value pos next =>
        match ring.ofInt value memory with
        | (.ok element, memory) => run ring (next.hold element) memory
        | (.error error, memory) => (.error (.refused ⟨.literal error, pos⟩), memory)
      | .finish held unread => (.ok (held, unread), memory)
      | .refuse cause pos => (.error (.refused ⟨cause, pos⟩), memory)
      | .fault reason => (.error (.defect reason), memory) := by
  rw [run]
  split <;> rename_i stepped <;> exact stepped ▸ rfl

theorem run_of_goto (moved : state.move = .goto next) :
    run ring state memory = run ring next memory := by
  rw [run_eq, moved]

theorem run_of_lift (ring : Ring σ α) (memory : σ) {value pos : Int}
    (moved : state.move = .lift value pos next) :
    run ring state memory =
      match ring.ofInt value memory with
      | (.ok element, memory) => run ring (next.hold element) memory
      | (.error error, memory) => (.error (.refused ⟨.literal error, pos⟩), memory) := by
  rw [run_eq, moved]

theorem run_of_finish {held : Option (Expr α)} {unread : Nat}
    (moved : state.move = .finish held unread) :
    run ring state memory = (.ok (held, unread), memory) := by
  rw [run_eq, moved]

theorem run_of_refuse {cause : ParseCause} {pos : Int} (moved : state.move = .refuse cause pos) :
    run ring state memory = (.error (.refused ⟨cause, pos⟩), memory) := by
  rw [run_eq, moved]

/-! ### Folding -/

theorem run_attachAll (ring : Ring σ α) (left : Expr α) (inGroup : Bool) (frames : List (Frame α))
    (unread : List Token) (memory : σ) :
    run ring (Station.folding ⟨some left, inGroup, frames⟩ unread) memory =
      run ring (Station.folding ⟨some (left.attachAll frames), inGroup, Frame.fromGroup frames⟩
        unread) memory := by
  induction frames generalizing left with
  | nil => rfl
  | cons frame below inductionHypothesis =>
    cases frame with
    | operator op right pos =>
      have moved :
          (Station.folding ⟨some left, inGroup, .operator op right pos :: below⟩ unread).move =
            .goto (Station.folding ⟨some (left.attach op right), inGroup, below⟩ unread) := by
        cases op <;> rfl
      rw [run_of_goto moved, inductionHypothesis, Frame.fromGroup_operator, Expr.attachAll]
    | group pos outerInGroup => rfl

/-- At the end of a context a station becomes its tree. -/
theorem run_folding_of_tree? {station : Station α} {tree : Expr α}
    (makes : station.tree? = some tree) (unread : List Token) :
    run ring (station.folding unread) memory =
      run ring (Station.folding ⟨some tree, station.inGroup, Frame.fromGroup station.frames⟩
        unread) memory := by
  obtain ⟨held, inGroup, frames⟩ := station
  obtain ⟨left, rfl, rfl⟩ | ⟨right, pos, below, rfl, rfl, rfl⟩ := Station.tree?_eq_some makes
  · exact run_attachAll ring left inGroup frames unread memory
  · have moved : (Station.folding ⟨none, inGroup, .operator .sub right pos :: below⟩ unread).move =
        .goto (Station.folding ⟨some (.negate right), inGroup, below⟩ unread) := rfl
    rw [run_of_goto moved, run_attachAll]
    rfl

section

variable {inGroup : Bool} {below : List (Frame α)}

/-- A context may not end to the left of an operator, a sign apart. -/
theorem run_folding_missingLeft {op : Operator} (unsigned : op ≠ .sub) {right : Expr α} {pos : Int}
    (unread : List Token) :
    run ring (Station.folding ⟨none, inGroup, .operator op right pos :: below⟩ unread) memory =
      (.error (.refused ⟨.missingLeft, pos⟩), memory) := by
  apply run_of_refuse
  cases op with
  | sub => exact absurd rfl unsigned
  | _ => rfl

theorem run_folding_noExpression {pos : Int} {outerInGroup : Bool} (unread : List Token) :
    run ring (Station.folding ⟨none, inGroup, .group pos outerInGroup :: below⟩ unread) memory =
      (.error (.refused ⟨.noExpression, pos⟩), memory) :=
  run_of_refuse rfl

theorem run_folding_empty (unread : List Token) :
    run ring (Station.folding (⟨none, inGroup, []⟩ : Station α) unread) memory =
      (.ok (none, unread.length), memory) :=
  run_of_finish rfl

end

/-- A group may not be open where the tokens end. -/
theorem run_folding_missingLeftParen {station : Station α} {tree : Expr α} {pos : Int}
    {outerInGroup : Bool} {below : List (Frame α)} (makes : station.tree? = some tree)
    (group : Frame.fromGroup station.frames = .group pos outerInGroup :: below) :
    run ring (station.folding []) memory =
      (.error (.refused ⟨.missingLeftParen, pos⟩), memory) := by
  rw [run_folding_of_tree? makes, group]
  exact run_of_refuse rfl

theorem run_folding_finish {station : Station α} {tree : Expr α} (makes : station.tree? = some tree)
    (closed : Frame.fromGroup station.frames = []) (unread : List Token) :
    run ring (station.folding unread) memory = (.ok (some tree, unread.length), memory) := by
  rw [run_folding_of_tree? makes, closed]
  exact run_of_finish rfl

end ParserState

/-! ## Reading from a station -/

/-- Reading some tokens takes the parser from one station to another, whatever stands to their
left. -/
def Reads (ring : Ring σ α) (station : Station α) (memory : σ) (tokens : List Token)
    (next : Station α) (after : σ) : Prop :=
  ∀ unread, ParserState.run ring (station.reading (tokens.reverse ++ unread)) memory =
    ParserState.run ring (next.reading unread) after

/-- Reading some tokens makes the parser refuse them, whatever stands to their left. -/
def Stops (ring : Ring σ α) (station : Station α) (memory : σ) (tokens : List Token)
    (error : ParseError) (after : σ) : Prop :=
  ∀ unread, ParserState.run ring (station.reading (tokens.reverse ++ unread)) memory =
    (.error (.refused error), after)

namespace Reads

variable {ring : Ring σ α} {station next last : Station α} {memory after later : σ}
  {left right : List Token} {error : ParseError}

theorem nil (ring : Ring σ α) (station : Station α) (memory : σ) :
    Reads ring station memory [] station memory :=
  fun _ => rfl

theorem append (first : Reads ring station memory right next after)
    (second : Reads ring next after left last later) :
    Reads ring station memory (left ++ right) last later := by
  intro unread
  rw [List.reverse_append, List.append_assoc, first, second]

theorem stops (first : Reads ring station memory right next after)
    (second : Stops ring next after left error later) :
    Stops ring station memory (left ++ right) error later := by
  intro unread
  rw [List.reverse_append, List.append_assoc, first, second]

theorem cons {token : Token} (first : Reads ring station memory right next after)
    (second : Reads ring next after [token] last later) :
    Reads ring station memory (token :: right) last later :=
  first.append second

/-! ### One token -/

variable {inGroup : Bool} {frames below : List (Frame α)}

theorem number {value : Int} {element : α} (pos : Int)
    (lifted : ring.ofInt value memory = (.ok element, after)) :
    Reads ring ⟨none, inGroup, frames⟩ memory [⟨.number (some value), pos⟩]
      ⟨some (.leaf element), inGroup, frames⟩ after := by
  intro unread
  have outcome := ParserState.run_of_lift ring memory
    (Station.move_reading_number inGroup frames value pos unread)
  rw [lifted] at outcome
  exact outcome

theorem operator (op : Operator) (operand : Expr α) (pos : Int) :
    Reads ring ⟨some operand, inGroup, frames⟩ memory [⟨.operator op, pos⟩]
      ⟨none, inGroup, .operator op operand pos :: frames⟩ memory :=
  fun _ => ParserState.run_of_goto rfl

theorem rightParen (pos : Int) :
    Reads ring ⟨none, inGroup, frames⟩ memory [⟨.rightParen, pos⟩]
      ⟨none, true, .group pos inGroup :: frames⟩ memory :=
  fun _ => ParserState.run_of_goto rfl

/-- A left parenthesis closes the nearest group around the tree of the station. -/
theorem leftParen {tree : Expr α} {place : Int} {outerInGroup : Bool} (pos : Int)
    (opened : station.inGroup = true) (makes : station.tree? = some tree)
    (group : Frame.fromGroup station.frames = .group place outerInGroup :: below) :
    Reads ring station memory [⟨.leftParen, pos⟩] ⟨some (.group tree), outerInGroup, below⟩
      memory := by
  intro unread
  rw [List.reverse_singleton, List.singleton_append,
    ParserState.run_of_goto (Station.move_reading_leftParen opened),
    ParserState.run_folding_of_tree? makes, group]
  exact ParserState.run_of_goto rfl

end Reads

namespace Stops

variable {ring : Ring σ α} {memory after : σ} {station : Station α} {inGroup : Bool}
  {frames : List (Frame α)}

theorem number (value : Option Int) (operand : Expr α) (pos : Int) :
    Stops ring ⟨some operand, inGroup, frames⟩ memory [⟨.number value, pos⟩]
      ⟨.adjacentElements, pos⟩ memory :=
  fun _ => ParserState.run_of_refuse (by cases value <;> rfl)

theorem literal {value : Int} {error : RingError} (pos : Int)
    (failed : ring.ofInt value memory = (.error error, after)) :
    Stops ring ⟨none, inGroup, frames⟩ memory [⟨.number (some value), pos⟩] ⟨.literal error, pos⟩
      after := by
  intro unread
  have outcome := ParserState.run_of_lift ring memory
    (Station.move_reading_number inGroup frames value pos unread)
  rw [failed] at outcome
  exact outcome

theorem rightParen (operand : Expr α) (pos : Int) :
    Stops ring ⟨some operand, inGroup, frames⟩ memory [⟨.rightParen, pos⟩]
      ⟨.adjacentElements, pos⟩ memory :=
  fun _ => ParserState.run_of_refuse rfl

theorem operator (op : Operator) (pos : Int) :
    Stops ring ⟨none, inGroup, frames⟩ memory [⟨.operator op, pos⟩] ⟨.missingRight, pos⟩ memory :=
  fun _ => ParserState.run_of_refuse rfl

theorem mod (pos : Int) : Stops ring station memory [⟨.mod, pos⟩] ⟨.unhandled .mod, pos⟩ memory :=
  fun _ => ParserState.run_of_refuse rfl

theorem leftParen (pos : Int) (closed : station.inGroup = false) :
    Stops ring station memory [⟨.leftParen, pos⟩] ⟨.missingRightParen, pos⟩ memory := by
  intro unread
  apply ParserState.run_of_refuse
  simp only [List.reverse_singleton, List.singleton_append, Station.reading, ParserState.move,
    ParserState.read, closed, Bool.false_eq_true, if_false]

/-- In a group a left parenthesis stops the parser where the end of the context does. -/
theorem leftParen_of_folding {error : ParseError} (pos : Int) (opened : station.inGroup = true)
    (fails : ∀ unread, ParserState.run ring (station.folding unread) memory =
      (.error (.refused error), after)) :
    Stops ring station memory [⟨.leftParen, pos⟩] error after := by
  intro unread
  rw [List.reverse_singleton, List.singleton_append,
    ParserState.run_of_goto (Station.move_reading_leftParen opened), fails]

end Stops

/-! ## The end of the tokens -/

section

variable {ring : Ring σ α} {station : Station α} {memory after : σ} {tokens : List Token}

theorem parseTokens_of_stops {error : ParseError}
    (stops : Stops ring .initial memory tokens error after) (before : List Token) :
    parseTokens ring (before ++ tokens) memory = (.error (.refused error), after) := by
  have outcome : (ParserState.start (before ++ tokens)).run ring memory =
      (.error (.refused error), after) := by
    rw [ParserState.start, List.reverse_append]
    exact stops before.reverse
  rw [parseTokens, outcome]

theorem run_start_of_reads (reads : Reads ring .initial memory tokens station after) :
    (ParserState.start tokens).run ring memory =
      ParserState.run ring (station.folding []) after := by
  have outcome := reads []
  rw [List.append_nil] at outcome
  exact outcome.trans (ParserState.run_of_goto rfl)

theorem parseTokens_of_tree? {tree : Expr α}
    (reads : Reads ring .initial memory tokens station after) (makes : station.tree? = some tree)
    (closed : Frame.fromGroup station.frames = []) :
    parseTokens ring tokens memory = (.ok tree, after) := by
  rw [parseTokens, run_start_of_reads reads, ParserState.run_folding_finish makes closed]
  rfl

end

end RingCalc
