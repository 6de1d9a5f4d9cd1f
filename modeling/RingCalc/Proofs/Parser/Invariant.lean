import RingCalc.Proofs.Parser.Row
import RingCalc.Proofs.Parser.Station
import RingCalc.Proofs.Ring.Lifting

/-!
# What a station knows about the tokens read

The invariant of the parser: the station after some tokens holds their symbols, in sealed trees and
sound frames; its groups are the right parentheses still unmatched; and its top is what the last
token left there.  A token either leads to a station that knows it too, or it is blamed, or the ring
has no element for it.
-/

namespace RingCalc

variable {σ α : Type}

def Frame.pos : Frame α → Int
  | .operator _ _ pos => pos
  | .group pos _ => pos

/-- The literals of a ring stand for the numbers they were lifted from. -/
def Ring.Faithful (ring : Ring σ α) (literal : α → Int) : Prop :=
  ∀ {value : Int} {memory after : σ} {element : α},
    ring.ofInt value memory = (.ok element, after) → literal element = value

namespace Station

/-! ## The invariant -/

/-- What the last token read leaves in the hand of the parser and on top of the stack. -/
inductive Tip : List Token → Option (Expr α) → List (Frame α) → Prop where
  | start : Tip [] none []
  | number (value : Option Int) (pos : Int) (rest : List Token) (tree : Expr α)
      (frames : List (Frame α)) : Tip (⟨.number value, pos⟩ :: rest) (some tree) frames
  | leftParen (pos : Int) (rest : List Token) (tree : Expr α) (frames : List (Frame α)) :
      Tip (⟨.leftParen, pos⟩ :: rest) (some tree) frames
  | operator (op : Operator) (pos : Int) (rest : List Token) (right : Expr α)
      (below : List (Frame α)) :
      Tip (⟨.operator op, pos⟩ :: rest) none (.operator op right pos :: below)
  | rightParen (pos : Int) (rest : List Token) (outerInGroup : Bool) (below : List (Frame α)) :
      Tip (⟨.rightParen, pos⟩ :: rest) none (.group pos outerInGroup :: below)

/-- What a station comes to where a context ends: a tree, or nothing to the left of the end of the
tokens, of a right parenthesis, or of an operator that is no sign. -/
inductive Ending : List Token → Station α → Prop where
  | tree {read : List Token} {station : Station α} {tree : Expr α}
      (makes : station.tree? = some tree) : Ending read station
  | empty (inGroup : Bool) : Ending [] ⟨none, inGroup, []⟩
  | emptyGroup (pos : Int) (rest : List Token) (inGroup outerInGroup : Bool)
      (below : List (Frame α)) :
      Ending (⟨.rightParen, pos⟩ :: rest) ⟨none, inGroup, .group pos outerInGroup :: below⟩
  | missingLeft {op : Operator} (unsigned : op ≠ .sub) (pos : Int) (rest : List Token)
      (inGroup : Bool) (right : Expr α) (below : List (Frame α)) :
      Ending (⟨.operator op, pos⟩ :: rest) ⟨none, inGroup, .operator op right pos :: below⟩

theorem Tip.ending {read : List Token} {held : Option (Expr α)} {frames : List (Frame α)}
    (tip : Tip read held frames) (inGroup : Bool) : Ending read ⟨held, inGroup, frames⟩ := by
  cases tip with
  | start => exact .empty inGroup
  | number _ _ _ _ _ | leftParen _ _ _ _ => exact .tree rfl
  | operator op pos rest right below =>
    cases op with
    | sub => exact .tree rfl
    | _ => exact .missingLeft (by decide) pos rest inGroup right below
  | rightParen pos rest outerInGroup below => exact .emptyGroup pos rest inGroup outerInGroup below

/-- A station as it stands after some tokens were read. -/
structure After (ring : Ring σ α) (read : List Token) (station : Station α) : Prop where
  tip : Tip read station.held station.frames
  held : ∀ tree, station.held = some tree → tree.isSealed = true
  sound : ∀ frame ∈ station.frames, frame.IsSound
  groups : (station.frames.filter Frame.isGroup).map Frame.pos =
    (Token.unmatched read).map Token.pos
  inGroup : station.inGroup = station.frames.any Frame.isGroup
  nested : Frame.Nested station.frames
  symbols : ∀ literal, ring.Faithful literal → station.symbols literal = read.map Token.symbol

namespace After

variable {ring : Ring σ α} {read : List Token} {station : Station α} {inGroup : Bool}
  {frames : List (Frame α)}

theorem initial (ring : Ring σ α) : After ring [] .initial where
  tip := .start
  held _ held := by cases held
  sound _ member := by cases member
  groups := rfl
  inGroup := rfl
  nested := trivial
  symbols _ _ := rfl

theorem ending (known : After ring read station) : Ending read station :=
  known.tip.ending station.inGroup

theorem isCanonical_of_tree? (known : After ring read station) {tree : Expr α}
    (makes : station.tree? = some tree) : tree.isCanonical true = true := by
  have sound := known.sound
  obtain ⟨left, held, rfl⟩ | ⟨right, pos, below, -, frames, rfl⟩ := tree?_eq_some makes
  · exact Expr.isCanonical_attachAll (Expr.isCanonical_of_isSealed (known.held _ held) true) sound
  · rw [frames, List.forall_mem_cons] at sound
    exact Expr.isCanonical_attachAll (Expr.isCanonical_negate sound.1) sound.2

/-! ### One token -/

theorem number {value pos : Int} {memory after : σ} {element : α}
    (known : After ring read ⟨none, inGroup, frames⟩)
    (lifted : ring.ofInt value memory = (.ok element, after)) :
    After ring (⟨.number (some value), pos⟩ :: read) ⟨some (.leaf element), inGroup, frames⟩ where
  tip := .number _ pos read _ frames
  held tree held := by cases held; rfl
  sound := known.sound
  groups := known.groups
  inGroup := known.inGroup
  nested := known.nested
  symbols literal faithful := by
    have same := known.symbols literal faithful
    rw [List.map_cons, ← same, ← faithful lifted]
    rfl

theorem operator {right : Expr α} (known : After ring read ⟨some right, inGroup, frames⟩)
    (op : Operator) (pos : Int) :
    After ring (⟨.operator op, pos⟩ :: read) ⟨none, inGroup, .operator op right pos :: frames⟩ where
  tip := .operator op pos read right frames
  held _ held := by cases held
  sound := List.forall_mem_cons.mpr ⟨known.held right rfl, known.sound⟩
  groups := known.groups
  inGroup := known.inGroup
  nested := known.nested
  symbols literal faithful := by
    rw [List.map_cons, ← known.symbols literal faithful]
    simp only [Station.symbols, Option.toList_none, Option.toList_some, List.flatMap_nil,
      List.flatMap_cons, Frame.symbols, List.nil_append, List.append_nil, List.cons_append]

theorem rightParen (known : After ring read ⟨none, inGroup, frames⟩) (pos : Int) :
    After ring (⟨.rightParen, pos⟩ :: read) ⟨none, true, .group pos inGroup :: frames⟩ where
  tip := .rightParen pos read inGroup frames
  held _ held := by cases held
  sound := List.forall_mem_cons.mpr ⟨trivial, known.sound⟩
  groups := congrArg (pos :: ·) known.groups
  inGroup := rfl
  nested := ⟨known.inGroup, known.nested⟩
  symbols literal faithful := by
    rw [List.map_cons, ← known.symbols literal faithful]
    rfl

theorem leftParen {tree : Expr α} {place : Int} {outerInGroup : Bool} {below : List (Frame α)}
    (known : After ring read station) (makes : station.tree? = some tree)
    (group : Frame.fromGroup station.frames = .group place outerInGroup :: below) (pos : Int) :
    After ring (⟨.leftParen, pos⟩ :: read) ⟨some (.group tree), outerInGroup, below⟩ where
  tip := .leftParen pos read _ below
  held inner held := by
    cases held
    exact Expr.isSealed_group (known.isCanonical_of_tree? makes)
  sound frame member := by
    apply known.sound
    apply Frame.mem_of_mem_fromGroup
    rw [group]
    exact List.mem_cons_of_mem _ member
  groups := by
    -- The nearest group is the leftmost unmatched parenthesis, and both lists lose it.
    have groups := known.groups
    rw [← Frame.filter_fromGroup, group] at groups
    exact (congrArg List.tail groups).trans List.map_tail.symm
  inGroup := by
    have nested := known.nested.fromGroup
    rw [group] at nested
    exact nested.1
  nested := by
    have nested := known.nested.fromGroup
    rw [group] at nested
    exact nested.2
  symbols literal faithful := by
    have taken := symbols_of_tree? literal makes
    rw [group, known.symbols literal faithful] at taken
    rw [List.map_cons, ← taken]
    simp only [Station.symbols, Option.toList_some, List.flatMap_nil, List.flatMap_cons,
      Expr.symbols, Frame.symbols, List.cons_append, List.append_assoc, List.nil_append]

theorem unmatched_of_closed (known : After ring read station)
    (closed : Frame.fromGroup station.frames = []) : Token.unmatched read = [] := by
  have groups := known.groups
  rw [← Frame.filter_fromGroup, closed] at groups
  exact List.map_eq_nil_iff.mp groups.symm

theorem unmatched_eq_nil_iff (known : After ring read station) :
    Token.unmatched read = [] ↔ station.inGroup = false := by
  rw [known.inGroup, ← List.map_eq_nil_iff (f := Token.pos), ← known.groups, List.map_eq_nil_iff,
    List.filter_eq_nil_iff, List.any_eq_false]

end After

end Station

/-! ## Reading rows -/

namespace Station.After

variable {ring : Ring σ α} {read : List Token} {station : Station α}

/-- The hand of the parser is full where the tokens read begin with an operand. -/
theorem isSome_held (known : station.After ring read) :
    station.held.isSome = Token.beginOperand read := by
  obtain ⟨held, inGroup, frames⟩ := station
  have tip := known.tip
  cases tip <;> rfl

theorem held_eq_none (known : station.After ring read) (free : Token.beginOperand read = false) :
    station.held = none := by
  rwa [← known.isSome_held, Option.isSome_eq_false_iff, Option.isNone_iff_eq_none] at free

theorem exists_held (known : station.After ring read) (full : Token.beginOperand read = true) :
    ∃ tree, station.held = some tree := by
  rwa [← known.isSome_held, Option.isSome_iff_exists] at full

theorem exists_tree? (known : station.After ring read) (begins : Begins read) :
    ∃ tree, station.tree? = some tree := by
  cases known.ending with
  | tree makes => exact ⟨_, makes⟩
  | empty inGroup => cases begins
  | emptyGroup pos rest inGroup outerInGroup below => cases begins
  | missingLeft unsigned pos rest inGroup right below =>
    cases begins
    exact absurd rfl unsigned

/-- Where a right parenthesis is unmatched, a group lies on the stack. -/
theorem exists_group (known : station.After ring read) (opened : Token.unmatched read ≠ []) :
    station.inGroup = true ∧ ∃ pos outerInGroup below,
      Frame.fromGroup station.frames = .group pos outerInGroup :: below := by
  have inGroup : station.inGroup = true := by
    rwa [ne_eq, known.unmatched_eq_nil_iff, Bool.not_eq_false] at opened
  obtain ⟨-, closed⟩ | ⟨pos, outerInGroup, below, group, -⟩ := Frame.fromGroup_cases station.frames
  · rw [known.inGroup, closed] at inGroup
    cases inGroup
  · exact ⟨inGroup, pos, outerInGroup, below, group⟩

end Station.After

/-- A readable row is read if its numbers are lifted. -/
theorem Readable.reads {ring : Ring σ α} {read : List Token} {memory last : σ}
    (readable : Readable read) (lifts : ring.Lifts memory read last) :
    ∃ station, Reads ring .initial memory read station last ∧ station.After ring read := by
  -- From the right end: the station after the tokens read so far fits the next one, since the
  -- invariant tells its hand and its groups from those tokens.
  induction read generalizing last with
  | nil =>
    obtain rfl : last = memory := lifts
    exact ⟨.initial, .nil ring .initial last, .initial ring⟩
  | cons token read inductionHypothesis =>
    obtain ⟨admitted, readable⟩ := readable
    obtain ⟨symbol, pos⟩ := token
    cases symbol with
    | number value =>
      obtain ⟨valued, free⟩ := admitted
      obtain ⟨value, rfl⟩ := Option.ne_none_iff_exists'.mp valued
      obtain ⟨after, element, lifts, answer⟩ := lifts
      obtain ⟨⟨held, inGroup, frames⟩, reads, known⟩ := inductionHypothesis readable lifts
      obtain rfl : held = none := known.held_eq_none free
      exact ⟨_, reads.cons (.number pos answer), known.number answer⟩
    | operator op =>
      obtain ⟨⟨held, inGroup, frames⟩, reads, known⟩ := inductionHypothesis readable lifts
      obtain ⟨right, rfl⟩ : ∃ right, held = some right := known.exists_held admitted
      exact ⟨_, reads.cons (.operator op right pos), known.operator op pos⟩
    | rightParen =>
      obtain ⟨⟨held, inGroup, frames⟩, reads, known⟩ := inductionHypothesis readable lifts
      obtain rfl : held = none := known.held_eq_none admitted
      exact ⟨_, reads.cons (.rightParen pos), known.rightParen pos⟩
    | leftParen =>
      obtain ⟨begins, opened⟩ := admitted
      obtain ⟨station, reads, known⟩ := inductionHypothesis readable lifts
      obtain ⟨tree, makes⟩ := known.exists_tree? begins
      obtain ⟨inGroup, place, outerInGroup, below, group⟩ := known.exists_group opened
      exact ⟨_, reads.cons (.leftParen pos inGroup makes group), known.leftParen makes group pos⟩
    | mod => exact admitted.elim

/-- A token at fault stops the parser. -/
theorem Fault.stops {ring : Ring σ α} {token : Token} {read : List Token} {error : ParseError}
    {station : Station α} (fault : Fault token read error)
    (stuck : ¬ token.symbol.CanPrecede read) (valued : token.symbol ≠ .number none)
    (known : station.After ring read) (memory : σ) :
    Stops ring station memory [token] error memory := by
  obtain ⟨held, inGroup, frames⟩ := station
  cases fault with
  | number value pos =>
    have given : value ≠ none := fun missing => valued (by rw [missing])
    have full : Token.beginOperand read = true :=
      (Bool.not_eq_false _).mp fun free => stuck ⟨given, free⟩
    obtain ⟨tree, rfl⟩ : ∃ tree, held = some tree := known.exists_held full
    exact .number value tree pos
  | rightParen pos =>
    have full : Token.beginOperand read = true := (Bool.not_eq_false _).mp stuck
    obtain ⟨tree, rfl⟩ : ∃ tree, held = some tree := known.exists_held full
    exact .rightParen tree pos
  | operator op pos =>
    have free : Token.beginOperand read = false := (Bool.not_eq_true _).mp stuck
    obtain rfl : held = none := known.held_eq_none free
    exact .operator op pos
  | mod pos => exact .mod pos
  | unclosed pos matched => exact .leftParen pos (known.unmatched_eq_nil_iff.mp matched)
  | emptyGroup pos place rest =>
    obtain ⟨opened, -⟩ := known.exists_group (List.cons_ne_nil _ _)
    have tip := known.tip
    cases tip
    exact .leftParen_of_folding pos opened ParserState.run_folding_noExpression
  | missingLeft pos place unsigned unmatched =>
    obtain ⟨opened, -⟩ := known.exists_group unmatched
    have tip := known.tip
    cases tip
    exact .leftParen_of_folding pos opened (ParserState.run_folding_missingLeft unsigned)

/-- Where the ring has no element for a number of a readable row, the parser stops. -/
theorem Readable.stops_of_fails {ring : Ring σ α} {value pos : Int} {read : List Token}
    {station : Station α} {error : RingError} {after last : σ}
    (readable : Readable (⟨.number (some value), pos⟩ :: read)) (known : station.After ring read)
    (failed : ring.ofInt value after = (.error error, last)) :
    Stops ring station after [⟨.number (some value), pos⟩] ⟨.literal error, pos⟩ last := by
  obtain ⟨held, inGroup, frames⟩ := station
  obtain rfl : held = none := known.held_eq_none readable.1.2
  exact .literal pos failed

/-- How far the parser gets with some tokens: past them all, to one that is at fault, or to a
literal that the ring has no element for. -/
inductive Progress (ring : Ring σ α) (memory : σ) : List Token → Prop where
  | through {tokens : List Token} {station : Station α} {after : σ}
      (reads : Reads ring .initial memory tokens station after)
      (known : station.After ring tokens) (still : ring.Stateless → after = memory) :
      Progress ring memory tokens
  | blocked (before : List Token) {token : Token} {read : List Token} {station : Station α}
      {after : σ} {error : ParseError} (reads : Reads ring .initial memory read station after)
      (known : station.After ring read) (still : ring.Stateless → after = memory)
      (stops : Stops ring station after [token] error after) (fault : Fault token read error) :
      Progress ring memory (before ++ token :: read)
  | unlifted (before : List Token) {value pos : Int} {read : List Token} {station : Station α}
      {after last : σ} {error : RingError}
      (reads : Reads ring .initial memory read station after)
      (known : station.After ring read) (still : ring.Stateless → after = memory)
      (failed : ring.ofInt value after = (.error error, last))
      (stops : Stops ring station after [⟨.number (some value), pos⟩] ⟨.literal error, pos⟩ last) :
      Progress ring memory (before ++ ⟨.number (some value), pos⟩ :: read)

/-- A readable row is read, or the ring stops the parser at one of its numbers. -/
theorem Readable.reads_or_fails (ring : Ring σ α) (memory : σ) {read : List Token}
    (readable : Readable read) :
    (∃ station after, Reads ring .initial memory read station after ∧ station.After ring read ∧
      (ring.Stateless → after = memory)) ∨
    ∀ before, Progress ring memory (before ++ read) := by
  obtain ⟨last, lifts⟩ | ⟨asked, error, pos, last, ⟨between, rfl⟩, fails⟩ :=
    ring.lifts_or_fails memory read
  · obtain ⟨station, reads, known⟩ := readable.reads lifts
    exact .inl ⟨station, last, reads, known, fun stateless => lifts.eq_of_stateless stateless⟩
  · obtain ⟨value, rest, middle, rfl, lifts, failed⟩ := fails
    have front := readable.of_append
    obtain ⟨station, reads, known⟩ := Readable.reads front.2 lifts
    refine .inr fun before => ?_
    rw [← List.append_assoc]
    exact .unlifted _ reads known (fun stateless => lifts.eq_of_stateless stateless) failed
      (front.stops_of_fails known failed)

/-- The parser gets through some tokens, or it stops at one of them. -/
theorem progress (ring : Ring σ α) (memory : σ) {tokens : List Token}
    (valued : ∀ token ∈ tokens, token.symbol ≠ .number none) : Progress ring memory tokens := by
  obtain readable | ⟨before, token, read, rfl, readable, stuck⟩ := readable_or_stuck tokens
  · obtain ⟨station, after, reads, known, still⟩ | fails := readable.reads_or_fails ring memory
    · exact .through reads known still
    · exact fails []
  · obtain ⟨station, after, reads, known, still⟩ | fails := readable.reads_or_fails ring memory
    · obtain ⟨error, fault⟩ := exists_fault readable stuck
      have given := valued token (List.mem_append_right _ List.mem_cons_self)
      exact .blocked before reads known still (fault.stops stuck given known after) fault
    · have outcome := fails (before ++ [token])
      rwa [List.append_assoc] at outcome

/-! ## The end of the tokens -/

namespace Station.After

variable {ring : Ring σ α} {station : Station α} {memory after : σ} {tokens : List Token}

theorem begins_of_tree? (known : station.After ring tokens) {tree : Expr α}
    (makes : station.tree? = some tree) : Begins tokens := by
  have tip := known.tip
  obtain ⟨left, held, -⟩ | ⟨right, place, below, held, frames, -⟩ := tree?_eq_some makes
  · rw [held] at tip
    cases tip with
    | number value pos rest _ _ => exact .number value pos rest
    | leftParen pos rest _ _ => exact .leftParen pos rest
  · rw [held, frames] at tip
    cases tip
    exact .minus place _

/-- Where the tokens end, the station is a tree of them all or something is wrong at their front. -/
theorem conclude (known : station.After ring tokens)
    (reads : Reads ring .initial memory tokens station after) :
    (∃ tree, station.tree? = some tree ∧ Frame.fromGroup station.frames = [] ∧
        parseTokens ring tokens memory = (.ok tree, after)) ∨
      ∃ error, FrontFault tokens error ∧
        parseTokens ring tokens memory = (.error (.refused error), after) := by
  have outcome := run_start_of_reads reads
  cases known.ending with
  | tree makes =>
    obtain ⟨closed, -⟩ | ⟨pos, outerInGroup, below, group, -⟩ :=
      Frame.fromGroup_cases station.frames
    · exact .inl ⟨_, makes, closed, parseTokens_of_tree? reads makes closed⟩
    · rw [ParserState.run_folding_missingLeftParen makes group] at outcome
      have groups := known.groups
      rw [← Frame.filter_fromGroup, group] at groups
      obtain ⟨paren, others, unmatched, same, -⟩ := List.map_eq_cons_iff.mp groups.symm
      have place : paren.pos = pos := same
      refine .inr ⟨_, .unopened (known.begins_of_tree? makes) unmatched, ?_⟩
      rw [parseTokens, outcome, place]
  | empty inGroup =>
    rw [ParserState.run_folding_empty] at outcome
    exact .inr ⟨_, .empty, by rw [parseTokens, outcome]; rfl⟩
  | emptyGroup pos rest inGroup outerInGroup below =>
    rw [ParserState.run_folding_noExpression] at outcome
    exact .inr ⟨_, .rightParen pos rest, by rw [parseTokens, outcome]⟩
  | missingLeft unsigned pos rest inGroup right below =>
    rw [ParserState.run_folding_missingLeft unsigned] at outcome
    exact .inr ⟨_, .operator unsigned pos rest, by rw [parseTokens, outcome]⟩

end Station.After

end RingCalc
