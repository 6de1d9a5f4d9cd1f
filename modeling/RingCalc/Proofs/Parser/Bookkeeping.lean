import RingCalc.Proofs.Parser.Invariant
import RingCalc.Proofs.Parser.Steps
import RingCalc.Ring.CheckedInt

/-!
# The books of the parser

The parser keeps several records of the same nesting: the flag for an open group, the flags saved in
the frames of groups, the frames themselves, and whether a tree is held.  Between two tokens they all
say what the tokens read so far make them say, and only literals and groups wait to be joined.

That is why a tree needs one rotation for each operator.  Outside groups a sum or a difference never
gets to the right of an operator, nor to the left of a product or a quotient.  So below the one node
that binds too loosely, there is none on the right edge that does.
-/

namespace RingCalc

variable {σ α : Type}

/-! ## Layers of a tree -/

namespace Expr

/-- Whether the root of a tree is a sum or a difference. -/
def isSum : Expr α → Bool
  | .binary .add _ _ | .binary .sub _ _ => true
  | _ => false

/-- A node of a tree that stands in none of its groups. -/
inductive Outside (node : Expr α) : Expr α → Prop where
  | root : Outside node node
  | operand {operand : Expr α} (within : Outside node operand) : Outside node (.negate operand)
  | left {op : Operator} {left right : Expr α} (within : Outside node left) :
      Outside node (.binary op left right)
  | right {op : Operator} {left right : Expr α} (within : Outside node right) :
      Outside node (.binary op left right)

/-- Outside groups, no sum or difference is the right operand of an operator, and none is the left
operand of a product or a quotient. -/
def Layered (expr : Expr α) : Prop :=
  ∀ op left right, Outside (.binary op left right) expr →
    right.isSum = false ∧ (op = .mul ∨ op = .div → left.isSum = false)

/-- Puts an operator and its right operand to the right of a tree, as far down its right edge as there
are nodes that bind more loosely. -/
def attachDown (op : Operator) (left right : Expr α) : Expr α :=
  match left with
  | .binary looser first second =>
    if looser.precedence < op.precedence then .binary looser first (second.attachDown op right)
    else .binary op left right
  | _ => .binary op left right

/-- An operator keeps the tree to its left layered when it is joined to it, and the one rotation that
it may take puts it where it belongs. -/
structure RotatesOnce (op : Operator) (left right : Expr α) : Prop where
  before : left.Layered
  after : (left.attach op right).Layered
  once : left.attach op right = left.attachDown op right

variable {op : Operator} {left right expr : Expr α}

theorem layered_of_isAtom (atom : expr.isAtom = true) : expr.Layered := by
  intro op left right outside
  cases outside with
  | root | operand _ | left _ | right _ => cases atom

theorem Layered.negate (layered : expr.Layered) : (Expr.negate expr).Layered := by
  intro op left right outside
  cases outside with
  | operand within => exact layered _ _ _ within

theorem layered_binary_iff :
    (Expr.binary op left right).Layered ↔
      (right.isSum = false ∧ (op = .mul ∨ op = .div → left.isSum = false)) ∧
        left.Layered ∧ right.Layered := by
  constructor
  · intro layered
    exact ⟨layered _ _ _ .root, fun _ _ _ within => layered _ _ _ (.left within),
      fun _ _ _ within => layered _ _ _ (.right within)⟩
  · rintro ⟨atRoot, onLeft, onRight⟩ root first second outside
    cases outside with
    | root => exact atRoot
    | left within => exact onLeft _ _ _ within
    | right within => exact onRight _ _ _ within

theorem not_isSum_of_isAtom (atom : expr.isAtom = true) : expr.isSum = false := by
  cases expr with
  | leaf _ | group _ => rfl
  | negate _ | binary _ _ _ | foreign _ => cases atom

/-- What is no sum or difference binds as tightly as every operator. -/
theorem le_precedence_of_not_isSum (product : expr.isSum = false) (op : Operator) :
    op.precedence ≤ expr.precedence := by
  have low := op.precedence_le_one
  cases expr with
  | binary other _ _ =>
    cases other with
    | add | sub => cases product
    | mul | div => exact low
  | _ => exact Nat.le_trans low (show 1 ≤ atomicPrecedence by decide)

/-- A tree that an operator need not rotate is no sum or difference if the operator is a product or
a quotient. -/
theorem not_isSum_of_le (tight : op.precedence ≤ expr.precedence)
    (product : op = .mul ∨ op = .div) : expr.isSum = false := by
  have high : op.precedence = 1 := by
    obtain rfl | rfl := product <;> rfl
  rw [high] at tight
  cases expr with
  | binary other _ _ =>
    cases other with
    | add | sub => exact absurd tight (Nat.not_succ_le_zero 0)
    | mul | div => rfl
  | _ => rfl

theorem Layered.attach (layered : left.Layered) (atom : right.isAtom = true) (op : Operator) :
    (left.attach op right).Layered := by
  have rightSum := not_isSum_of_isAtom atom
  by_cases tight : op.precedence ≤ left.precedence
  · -- The tree becomes the left operand as it is.
    rw [attach_of_le tight, layered_binary_iff]
    exact ⟨⟨rightSum, not_isSum_of_le tight⟩, layered, layered_of_isAtom atom⟩
  · cases left with
    | binary looser first second =>
      have loose : looser.precedence < op.precedence := Nat.lt_of_not_le tight
      obtain ⟨⟨secondSum, firstSum⟩, firstLayered, secondLayered⟩ := layered_binary_iff.mp layered
      rw [attach_of_lt loose, layered_binary_iff, layered_binary_iff]
      -- Only a product or a quotient binds more tightly than another operator.
      have product : (Expr.binary op second right).isSum = false := by
        cases op with
        | add | sub => cases loose
        | mul | div => rfl
      exact ⟨⟨product, firstSum⟩, firstLayered, ⟨rightSum, fun _ => secondSum⟩, secondLayered,
        layered_of_isAtom atom⟩
    | _ => exact absurd (le_precedence_of_not_isSum rfl op) tight

theorem attachDown_of_le (tight : op.precedence ≤ left.precedence) :
    left.attachDown op right = .binary op left right := by
  cases left with
  | binary looser first second => exact if_neg (Nat.not_lt.mpr tight)
  | _ => rfl

/-- One rotation goes as far down the right edge as there is to go. -/
theorem Layered.attach_eq_attachDown (layered : left.Layered) (op : Operator) (right : Expr α) :
    left.attach op right = left.attachDown op right := by
  by_cases tight : op.precedence ≤ left.precedence
  · rw [attach_of_le tight, attachDown_of_le tight]
  · cases left with
    | binary looser first second =>
      have loose : looser.precedence < op.precedence := Nat.lt_of_not_le tight
      -- The right operand of the root binds as tightly as any operator: the way down ends there.
      have product : second.isSum = false := (layered_binary_iff.mp layered).1.1
      rw [attach_of_lt loose, attachDown, if_pos loose,
        attachDown_of_le (le_precedence_of_not_isSum product op)]
    | _ => exact absurd (le_precedence_of_not_isSum rfl op) tight

end Expr

/-! ## The end of a context -/

namespace Station

/-- The end of a context at a station, when some of the operators on top of its stack are joined to
the tree held.  Joining the others makes the tree of the station. -/
structure Joining (station : Station α) (held : Option (Expr α)) (frames : List (Frame α)) :
    Prop where
  untouched : held = none → station.held = none ∧ station.frames = frames
  tree : ∀ left, held = some left → station.tree? = some (left.attachAll frames)
  layered : ∀ left, held = some left → left.Layered
  suffix : frames <:+ station.frames
  group : Frame.fromGroup station.frames = Frame.fromGroup frames

namespace Joining

variable {station : Station α} {op : Operator} {left right : Expr α} {pos : Int}
  {below : List (Frame α)}

theorem start (atom : ∀ tree, station.held = some tree → tree.isAtom = true) :
    Joining station station.held station.frames where
  untouched unheld := ⟨unheld, rfl⟩
  tree left held := by rw [tree?, held]
  layered left held := Expr.layered_of_isAtom (atom left held)
  suffix := List.suffix_rfl
  group := rfl

theorem sign (joining : Joining station none (.operator .sub right pos :: below))
    (atom : right.isAtom = true) : Joining station (some (.negate right)) below where
  untouched unheld := by cases unheld
  tree tree held := by
    cases held
    obtain ⟨empty, same⟩ := joining.untouched rfl
    rw [tree?, empty, same]
  layered tree held := by
    cases held
    exact (Expr.layered_of_isAtom atom).negate
  suffix := (List.suffix_cons _ _).trans joining.suffix
  group := joining.group

theorem attach (joining : Joining station (some left) (.operator op right pos :: below))
    (atom : right.isAtom = true) : Joining station (some (left.attach op right)) below where
  untouched unheld := by cases unheld
  tree tree held := by
    cases held
    exact joining.tree left rfl
  layered tree held := by
    cases held
    exact (joining.layered left rfl).attach atom op
  suffix := (List.suffix_cons _ _).trans joining.suffix
  group := joining.group

end Joining

namespace After

variable {ring : Ring σ α} {read : List Token} {station : Station α}

theorem inGroup_iff (known : station.After ring read) :
    station.inGroup = true ↔ ∃ frame ∈ station.frames, frame.isGroup = true := by
  rw [known.inGroup, List.any_eq_true]

theorem isAtom_held (known : station.After ring read) {tree : Expr α}
    (held : station.held = some tree) : tree.isAtom = true :=
  Expr.isAtom_of_isSealed (known.held tree held)

theorem isAtom_right (known : station.After ring read) {op : Operator} {right : Expr α} {pos : Int}
    (member : .operator op right pos ∈ station.frames) : right.isAtom = true :=
  Expr.isAtom_of_isSealed (known.sound _ member)

/-- The operand on top of the stack is one that the station had there. -/
theorem isAtom_top (known : station.After ring read) {held : Option (Expr α)} {op : Operator}
    {right : Expr α} {pos : Int} {below : List (Frame α)}
    (joining : station.Joining held (.operator op right pos :: below)) : right.isAtom = true :=
  known.isAtom_right (joining.suffix.mem List.mem_cons_self)

/-- The hand of the parser is empty before the right end of an operand. -/
theorem held_eq_none_iff (known : station.After ring read) :
    station.held = none ↔ read = [] ∨ ∃ token rest, read = token :: rest ∧
      ((∃ op, token.symbol = .operator op) ∨ token.symbol = .rightParen) := by
  obtain ⟨held, inGroup, frames⟩ := station
  have tip := known.tip
  constructor
  · rintro rfl
    cases tip with
    | start => exact .inl rfl
    | operator op pos rest right below => exact .inr ⟨_, rest, rfl, .inl ⟨op, rfl⟩⟩
    | rightParen pos rest outerInGroup below => exact .inr ⟨_, rest, rfl, .inr rfl⟩
  · rintro (rfl | ⟨token, rest, rfl, ⟨op, operator⟩ | rightParen⟩)
    · cases tip
      rfl
    · cases tip with
      | operator _ _ _ _ _ | rightParen _ _ _ _ => rfl
      | number _ _ _ _ _ | leftParen _ _ _ _ => cases operator
    · cases tip with
      | operator _ _ _ _ _ | rightParen _ _ _ _ => rfl
      | number _ _ _ _ _ | leftParen _ _ _ _ => cases rightParen

end After

end Station

namespace ParserState

/-! ## Runs -/

/-- A state after some tokens were read: at a station, or past one at the end of a context. -/
inductive Stands (ring : Ring σ α) (read : List Token) : ParserState α → Prop where
  | reading {held : Option (Expr α)} {inGroup : Bool} {frames : List (Frame α)}
      (known : Station.After ring read ⟨held, inGroup, frames⟩) (unread : List Token) :
      Stands ring read ⟨unread, held, inGroup, frames, .reading⟩
  | folding {station : Station α} {held : Option (Expr α)} {frames : List (Frame α)}
      (known : station.After ring read) (joining : station.Joining held frames)
      (unread : List Token) (inGroup : Bool) :
      Stands ring read ⟨unread, held, inGroup, frames, .folding⟩

variable {ring : Ring σ α} {read tokens : List Token} {state next : ParserState α}
  {memory after : σ} {count : Nat} {events log : List (Event α)}

theorem Step.stands (step : Step ring state memory events next after)
    (stands : Stands ring read state) :
    Stands ring ((Event.consumed events).reverse ++ read) next := by
  cases step with
  | atEnd | atLeftParen =>
    cases stands with
    | reading known _ => exact .folding known (.start fun _ held => known.isAtom_held held) _ _
  | number lifted =>
    cases stands with
    | reading known _ => exact .reading (known.number lifted) _
  | @operator op pos =>
    cases stands with
    | reading known _ => exact .reading (known.operator op pos) _
  | @rightParen pos =>
    cases stands with
    | reading known _ => exact .reading (known.rightParen pos) _
  | sign =>
    cases stands with
    | folding known joining _ _ =>
      exact .folding known (joining.sign (known.isAtom_top joining)) _ _
  | attach =>
    cases stands with
    | folding known joining _ _ =>
      exact .folding known (joining.attach (known.isAtom_top joining)) _ _
  | @close place =>
    cases stands with
    | folding known joining _ _ =>
      -- No operator is left on top of the group, so the tree held is that of the station.
      exact .reading (known.leftParen (joining.tree _ rfl) joining.group place) _

theorem Steps.stands (steps : Steps ring (start tokens) memory count log state after) :
    Stands ring (Event.consumed log).reverse state := by
  -- By the steps taken; the tokens consumed by the last of them come to the left of the others.
  induction steps with
  | refl => exact .reading (.initial ring) _
  | step steps step inductionHypothesis =>
    have stands := step.stands inductionHypothesis
    rwa [← List.reverse_append, ← Event.consumed_append] at stands

/-! ## Records -/

/-- The records that a parser keeps between two tokens, as the tokens read make them. -/
structure Records (read : List Token) (state : ParserState α) : Prop where
  inGroup : state.inGroup = true ↔ ∃ frame ∈ state.frames, frame.isGroup = true
  outerInGroup : ∀ above pos outerInGroup below,
    state.frames = above ++ .group pos outerInGroup :: below →
      (outerInGroup = true ↔ ∃ frame ∈ below, frame.isGroup = true)
  /-- From the top of the stack, the right parentheses that are still open, the leftmost first. -/
  groups : (state.frames.filter Frame.isGroup).map Frame.pos =
    (Token.unmatched read).map Token.pos
  held : ∀ tree, state.held = some tree → tree.isAtom = true
  operands : ∀ op right pos, .operator op right pos ∈ state.frames → right.isAtom = true
  empty : state.held = none ↔ read = [] ∨ ∃ token rest, read = token :: rest ∧
    ((∃ op, token.symbol = .operator op) ∨ token.symbol = .rightParen)

theorem Stands.records (stands : Stands ring read state) (reading : state.phase = .reading) :
    Records read state := by
  cases stands with
  | folding _ _ _ _ => cases reading
  | @reading held inGroup frames known unread =>
    exact {
      inGroup := known.inGroup_iff
      outerInGroup := by
        rintro above pos outerInGroup below rfl
        rw [known.nested.outerInGroup, List.any_eq_true]
      groups := known.groups
      held := fun _ held => known.isAtom_held held
      operands := fun _ _ _ member => known.isAtom_right member
      empty := known.held_eq_none_iff }

theorem Stands.rotatesOnce (stands : Stands ring read state) {op : Operator} {left right : Expr α}
    {pos : Int} {below : List (Frame α)} (folding : state.phase = .folding)
    (held : state.held = some left) (frames : state.frames = .operator op right pos :: below) :
    Expr.RotatesOnce op left right := by
  cases stands with
  | reading _ _ => cases folding
  | folding known joining unread inGroup =>
    cases held
    cases frames
    have layered : left.Layered := joining.layered left rfl
    exact ⟨layered, layered.attach (known.isAtom_top joining) op,
      layered.attach_eq_attachDown op right⟩

/-- All through every run, the parser keeps its records whenever it is about to read a token, and
whenever it joins an operator to the tree on its left, one rotation is enough. -/
theorem records_of_steps (steps : Steps ring (start tokens) memory count log state after) :
    state.unread.reverse ++ (Event.consumed log).reverse = tokens ∧
      (state.phase = .reading → Records (Event.consumed log).reverse state) ∧
      (∀ {op : Operator} {left right : Expr α} {pos : Int} {below : List (Frame α)},
        state.phase = .folding → state.held = some left →
          state.frames = .operator op right pos :: below →
            state.move = .goto { state with held := some (left.attach op right), frames := below } ∧
              Expr.RotatesOnce op left right) ∧
      ∀ {next : ParserState α} {later : σ}, Moves ring state after next later →
        ∃ events, Steps ring (start tokens) memory (count + 1) (log ++ events) next later := by
  have stands := steps.stands
  refine ⟨?_, stands.records, ?_, ?_⟩
  · rw [← List.reverse_append, steps.leads.consumed_append]
    exact List.reverse_reverse tokens
  · intro op left right pos below folding held frames
    refine ⟨?_, stands.rotatesOnce folding held frames⟩
    obtain ⟨unread, _, inGroup, _, _⟩ := state
    cases folding
    cases held
    cases frames
    cases op <;> rfl
  · intro next later moves
    obtain ⟨events, step⟩ := exists_step_iff_moves.mpr moves
    exact ⟨events, steps.step step⟩

/-- The tokens of `(1+2*3)`: all but the left parenthesis are read, and then the sum is the tree to
the left of the product. -/
theorem records_of_steps_rotated_product :
    ∃ (one two three : CheckedInt) (log more : List (Event CheckedInt)),
      Steps (CheckedInt.ring Unit) (start [⟨.leftParen, 0⟩, ⟨.number (some 1), 1⟩,
          ⟨.operator .add, 2⟩, ⟨.number (some 2), 3⟩, ⟨.operator .mul, 4⟩, ⟨.number (some 3), 5⟩,
          ⟨.rightParen, 6⟩]) () 6 log
        ⟨[⟨.leftParen, 0⟩], some (.leaf one), true, [.operator .add (.leaf two) 2,
          .operator .mul (.leaf three) 4, .group 6 false], .reading⟩ () ∧
      Records [⟨.number (some 1), 1⟩, ⟨.operator .add, 2⟩, ⟨.number (some 2), 3⟩,
          ⟨.operator .mul, 4⟩, ⟨.number (some 3), 5⟩, ⟨.rightParen, 6⟩]
        ⟨[⟨.leftParen, 0⟩], some (.leaf one), true, [.operator .add (.leaf two) 2,
          .operator .mul (.leaf three) 4, .group 6 false], .reading⟩ ∧
      Steps (CheckedInt.ring Unit) (start [⟨.leftParen, 0⟩, ⟨.number (some 1), 1⟩,
          ⟨.operator .add, 2⟩, ⟨.number (some 2), 3⟩, ⟨.operator .mul, 4⟩, ⟨.number (some 3), 5⟩,
          ⟨.rightParen, 6⟩]) () 8 (log ++ more)
        ⟨[⟨.leftParen, 0⟩], some (.binary .add (.leaf one) (.leaf two)), true,
          [.operator .mul (.leaf three) 4, .group 6 false], .folding⟩ () ∧
      Expr.RotatesOnce .mul (.binary .add (.leaf one) (.leaf two)) (.leaf three) ∧
      (Expr.binary .add (.leaf one) (.leaf two)).attach .mul (.leaf three) =
        .binary .add (.leaf one) (.binary .mul (.leaf two) (.leaf three)) := by
  have parenRead := (Steps.refl : Steps (CheckedInt.ring Unit) (start [⟨.leftParen, 0⟩,
    ⟨.number (some 1), 1⟩, ⟨.operator .add, 2⟩, ⟨.number (some 2), 3⟩, ⟨.operator .mul, 4⟩,
    ⟨.number (some 3), 5⟩, ⟨.rightParen, 6⟩]) () 0 [] _ ()).step .rightParen
  have productRead := (parenRead.step (.number rfl)).step .operator
  have sumRead := (productRead.step (.number rfl)).step .operator
  have allRead := sumRead.step (.number rfl)
  have sumMade := (allRead.step .atLeftParen).step .attach
  obtain ⟨-, keeps, -⟩ := records_of_steps allRead
  obtain ⟨-, -, rotates, -⟩ := records_of_steps sumMade
  rw [List.append_assoc] at sumMade
  exact ⟨_, _, _, _, _, allRead, keeps rfl, sumMade, (rotates rfl rfl rfl).2, rfl⟩

end ParserState

end RingCalc
