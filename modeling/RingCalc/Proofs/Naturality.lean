import Mathlib.Data.ZMod.Basic
import RingCalc.Proofs.Evaluation
import RingCalc.Proofs.Parser.Station

/-!
# Maps between rings

A map between two rings without memory takes what one of them answers to what the other one answers,
and failures to the same failures.  Then it takes what is parsed over the one ring to what is parsed
over the other, and what is evaluated likewise.

Neither machine looks at an element, so each of its states has an image in which the elements are
mapped.  The machine moves from the image of a state to the image of where it moves from the state,
and this is carried along the whole run.
-/

namespace RingCalc

variable {σ τ α β : Type}

/-! ## Maps of rings -/

def RingCall.map (f : α → β) : RingCall α → RingCall β
  | .zero => .zero
  | .ofInt value => .ofInt value
  | .add left right => .add (f left) (f right)
  | .sub left right => .sub (f left) (f right)
  | .mul left right => .mul (f left) (f right)
  | .div left right => .div (f left) (f right)

theorem Operator.call_map (f : α → β) (op : Operator) (left right : α) :
    (op.call left right).map f = op.call (f left) (f right) := by
  cases op <;> rfl

theorem Ring.Stateless.perform {ring : Ring σ α} (stateless : ring.Stateless) (call : RingCall α) :
    ∃ result, ring.perform call = Action.steady result := by
  cases call with
  | zero => exact stateless.zero
  | ofInt value => exact stateless.ofInt value
  | add left right => exact stateless.add left right
  | sub left right => exact stateless.sub left right
  | mul left right => exact stateless.mul left right
  | div left right => exact stateless.div left right

/-- A map from the elements of one ring to those of another.  Called with mapped elements, the
second ring answers with the mapped answer of the first, or fails as the first one fails. -/
structure Ring.Hom (first : Ring σ α) (second : Ring τ β) (f : α → β) : Prop where
  first_stateless : first.Stateless
  second_stateless : second.Stateless
  answer : ∀ call memory other,
    (second.perform (call.map f) other).1 = (first.perform call memory).1.map f

namespace Ring.Hom

variable {first : Ring σ α} {second : Ring τ β} {f : α → β}

theorem perform (hom : Ring.Hom first second f) (call : RingCall α) (memory : σ) (other : τ) :
    ∃ result, first.perform call memory = (result, memory) ∧
      second.perform (call.map f) other = (result.map f, other) := by
  obtain ⟨result, steady⟩ := hom.first_stateless.perform call
  obtain ⟨answer, otherSteady⟩ := hom.second_stateless.perform (call.map f)
  have same := hom.answer call memory other
  simp only [steady, otherSteady, Action.steady] at same ⊢
  exact ⟨result, rfl, by rw [same]⟩

end Ring.Hom

/-! ### Rings without division -/

/-- A commutative ring in which every division is refused. -/
def Ring.undivided (σ R : Type) [CommRing R] : Ring σ R where
  zero := Action.steady (.ok 0)
  ofInt value := Action.steady (.ok value)
  add left right := Action.steady (.ok (left + right))
  sub left right := Action.steady (.ok (left - right))
  mul left right := Action.steady (.ok (left * right))
  div _ _ := Action.steady (.error .notInRing)

theorem Ring.undivided_stateless (σ R : Type) [CommRing R] : (Ring.undivided σ R).Stateless where
  zero := ⟨_, rfl⟩
  ofInt _ := ⟨_, rfl⟩
  add _ _ := ⟨_, rfl⟩
  sub _ _ := ⟨_, rfl⟩
  mul _ _ := ⟨_, rfl⟩
  div _ _ := ⟨_, rfl⟩

theorem Ring.Hom.undivided {R S : Type} [CommRing R] [CommRing S] (f : R →+* S) :
    Ring.Hom (Ring.undivided σ R) (Ring.undivided τ S) f where
  first_stateless := Ring.undivided_stateless σ R
  second_stateless := Ring.undivided_stateless τ S
  answer call memory other := by
    cases call with
    | zero => exact congrArg Except.ok (map_zero f).symm
    | ofInt value => exact congrArg Except.ok (map_intCast f value).symm
    | add left right => exact congrArg Except.ok (map_add f left right).symm
    | sub left right => exact congrArg Except.ok (map_sub f left right).symm
    | mul left right => exact congrArg Except.ok (map_mul f left right).symm
    | div left right => rfl

/-! ## Mapped states of the parser -/

theorem Expr.map_attach (f : α → β) (op : Operator) (left right : Expr α) :
    (left.attach op right).map f = (left.map f).attach op (right.map f) := by
  cases left with
  | binary looser inner outer =>
    simp only [attach, map]
    split <;> rfl
  | _ => rfl

def Frame.map (f : α → β) : Frame α → Frame β
  | .operator op right pos => .operator op (right.map f) pos
  | .group pos outerInGroup => .group pos outerInGroup

def ParserState.map (f : α → β) (state : ParserState α) : ParserState β :=
  ⟨state.unread, state.held.map (Expr.map f), state.inGroup, state.frames.map (Frame.map f),
    state.phase⟩

def Move.map (f : α → β) : Move α → Move β
  | .goto next => .goto (next.map f)
  | .lift value pos next => .lift value pos (next.map f)
  | .finish held unread => .finish (held.map (Expr.map f)) unread
  | .refuse cause pos => .refuse cause pos
  | .fault reason => .fault reason

namespace ParserState

variable (f : α → β)

theorem map_hold (state : ParserState α) (element : α) :
    (state.hold element).map f = (state.map f).hold (f element) := rfl

theorem map_read (state : ParserState α) (token : Token) (rest : List Token) :
    (state.map f).read token rest = (state.read token rest).map f := by
  obtain ⟨unread, held, inGroup, frames, phase⟩ := state
  obtain ⟨symbol, pos⟩ := token
  cases symbol with
  | leftParen => cases inGroup <;> rfl
  | number value => cases held <;> cases value <;> rfl
  | operator op => cases held <;> rfl
  | rightParen => cases held <;> rfl
  | mod => rfl

theorem map_fold (state : ParserState α) (frame : Frame α) (below : List (Frame α)) :
    (state.map f).fold (frame.map f) (below.map (Frame.map f)) =
      (state.fold frame below).map f := by
  obtain ⟨unread, held, inGroup, frames, phase⟩ := state
  cases frame with
  | operator op right pos =>
    cases held with
    | none => cases op <;> rfl
    | some left => simp [map, Frame.map, fold, Move.map, Expr.map_attach]
  | group pos outerInGroup =>
    cases held with
    | none => rfl
    | some inner =>
      obtain _ | ⟨⟨symbol, place⟩, rest⟩ := unread
      · rfl
      · cases symbol <;> rfl

/-- A move from a mapped state is the mapped move. -/
theorem map_move (state : ParserState α) : (state.map f).move = state.move.map f := by
  obtain ⟨unread, held, inGroup, frames, phase⟩ := state
  cases phase with
  | reading =>
    cases unread with
    | nil => rfl
    | cons token rest => exact map_read f _ token rest
  | folding =>
    cases frames with
    | nil => rfl
    | cons frame below => exact map_fold f _ frame below

variable {f} {first : Ring σ α} {second : Ring τ β}

/-- A run from a mapped state comes to the mapped end. -/
theorem map_run (hom : Ring.Hom first second f) (state : ParserState α) (memory : σ) (other : τ) :
    ∃ result, state.run first memory = (result, memory) ∧
      (state.map f).run second other =
        (result.map fun (held, unread) => (held.map (Expr.map f), unread), other) := by
  -- Only the state varies: neither ring touches its memory, so both are the same at every move.
  induction size : state.measure using Nat.strongRecOn generalizing state with
  | _ size inductionHypothesis =>
    subst size
    rw [run_eq first, run_eq second, map_move]
    cases moved : state.move with
    | goto next => exact inductionHypothesis _ (measure_lt_of_goto moved) next rfl
    | lift value pos next =>
      obtain ⟨answer, lifted, otherLifted⟩ := hom.perform (.ofInt value) memory other
      simp only [Ring.perform, RingCall.map] at lifted otherLifted
      simp only [Move.map, lifted, otherLifted]
      -- The rings have elements for the same literals, so the runs part from each other nowhere.
      cases answer with
      | error error => exact ⟨_, rfl, rfl⟩
      | ok element =>
        have shorter := measure_lt_of_lift moved element
        have later := inductionHypothesis _ shorter (next.hold element) rfl
        rwa [map_hold] at later
    | finish held unread => exact ⟨_, rfl, rfl⟩
    | refuse cause pos => exact ⟨_, rfl, rfl⟩
    | fault reason => exact ⟨_, rfl, rfl⟩

end ParserState

/-! ## Parsing -/

variable {first : Ring σ α} {second : Ring τ β} {f : α → β}

theorem parseTokens_map (hom : Ring.Hom first second f) (tokens : List Token) (memory : σ)
    (other : τ) :
    ∃ result, parseTokens first tokens memory = (result, memory) ∧
      parseTokens second tokens other = (result.map (Expr.map f), other) := by
  obtain ⟨result, ran, otherRan⟩ := (ParserState.start tokens).map_run hom memory other
  have begun : (ParserState.start tokens).map f = .start tokens := rfl
  rw [begun] at otherRan
  simp only [parseTokens, ran, otherRan]
  cases result with
  | error halt => exact ⟨_, rfl, rfl⟩
  | ok ended =>
    refine ⟨_, rfl, ?_⟩
    obtain ⟨_ | tree, _ | count⟩ := ended <;> rfl

theorem parse_map (hom : Ring.Hom first second f) (source : String) (memory : σ) (other : τ) :
    ∃ result, parse first source memory = (result, memory) ∧
      parse second source other = (result.map (Expr.map f), other) := by
  simp only [parse]
  cases tokenize source with
  | error error => exact ⟨_, rfl, rfl⟩
  | ok tokens => exact parseTokens_map hom tokens memory other

/-! ## Evaluation -/

theorem evalAction_map {action : Action σ α} {image : Action τ β} {memory : σ} {other : τ}
    {result : Except RingError α} (acted : action memory = (result, memory))
    (imageActed : image other = (result.map f, other)) :
    ∃ outcome, evalAction action memory = (outcome, memory) ∧
      evalAction image other = (outcome.map f, other) := by
  simp only [evalAction, acted, imageActed]
  cases result with
  | error error => exact ⟨_, rfl, rfl⟩
  | ok value => exact ⟨.ok value, rfl, rfl⟩

theorem Ring.Hom.negate (hom : Ring.Hom first second f) (element : α) (memory : σ) (other : τ) :
    ∃ result, first.negate element memory = (result, memory) ∧
      second.negate (f element) other = (result.map f, other) := by
  obtain ⟨answer, asked, otherAsked⟩ := hom.perform .zero memory other
  simp only [Ring.perform, RingCall.map] at asked otherAsked
  simp only [Ring.negate, asked, otherAsked]
  cases answer with
  | error error => exact ⟨_, rfl, rfl⟩
  | ok zero => exact hom.perform (.sub zero element) memory other

theorem Ring.Hom.apply (hom : Ring.Hom first second f) (op : Operator) (left right : α) (memory : σ)
    (other : τ) :
    ∃ result, first.apply op left right memory = (result, memory) ∧
      second.apply op (f left) (f right) other = (result.map f, other) := by
  rw [← first.perform_operator, ← second.perform_operator, ← Operator.call_map]
  exact hom.perform (op.call left right) memory other

theorem Expr.value_map (hom : Ring.Hom first second f) (expr : Expr α) (memory : σ) (other : τ) :
    ∃ result, expr.value first memory = (result, memory) ∧
      (expr.map f).value second other = (result.map f, other) := by
  induction expr with
  | leaf element => exact ⟨.ok element, rfl, rfl⟩
  | group inner inductionHypothesis => exact inductionHypothesis
  | negate operand inductionHypothesis =>
    obtain ⟨result, found, otherFound⟩ := inductionHypothesis
    simp only [map, value, found, otherFound]
    cases result with
    | error error => exact ⟨_, rfl, rfl⟩
    | ok element =>
      obtain ⟨answer, negated, otherNegated⟩ := hom.negate element memory other
      exact evalAction_map negated otherNegated
  | binary op left right leftHypothesis rightHypothesis =>
    obtain ⟨leftResult, leftFound, otherLeftFound⟩ := leftHypothesis
    obtain ⟨rightResult, rightFound, otherRightFound⟩ := rightHypothesis
    simp only [map, value, leftFound, otherLeftFound]
    cases leftResult with
    | error error => exact ⟨_, rfl, rfl⟩
    | ok leftElement =>
      simp only [Except.map, rightFound, otherRightFound]
      cases rightResult with
      | error error => exact ⟨_, rfl, rfl⟩
      | ok rightElement =>
        obtain ⟨answer, applied, otherApplied⟩ :=
          hom.apply op leftElement rightElement memory other
        exact evalAction_map applied otherApplied
  | foreign typeName => exact ⟨_, rfl, rfl⟩

theorem evaluate_map (hom : Ring.Hom first second f) (expr : Expr α) (memory : σ) (other : τ) :
    ∃ result, evaluate first expr memory = (result, memory) ∧
      evaluate second (expr.map f) other = (result.map f, other) := by
  obtain ⟨result, found, otherFound⟩ := expr.value_map hom memory other
  rw [evaluate_eq_value, evaluate_eq_value, found, otherFound]
  cases result with
  | error error => exact ⟨_, rfl, rfl⟩
  | ok value => exact ⟨.ok value, rfl, rfl⟩

/-- Parsing and then evaluating goes along with a map of rings.  The trees have the same shape, with
the literals mapped, and the values are mapped; and where the one ring fails, in parsing or in
evaluating, the other fails with the same error. -/
theorem parse_evaluate_map (hom : Ring.Hom first second f) (source : String) (memory : σ)
    (other : τ) :
    ∃ parsed, parse first source memory = (parsed, memory) ∧
      parse second source other = (parsed.map (Expr.map f), other) ∧
      ∀ tree, parsed = .ok tree →
        ∃ outcome, evaluate first tree memory = (outcome, memory) ∧
          evaluate second (tree.map f) other = (outcome.map f, other) := by
  obtain ⟨parsed, read, otherRead⟩ := parse_map hom source memory other
  exact ⟨parsed, read, otherRead, fun tree _ => evaluate_map hom tree memory other⟩

/-- Reckoning modulo seven is reckoning in the integers and taking the remainder. -/
theorem parse_evaluate_map_mod_seven :
    ∃ tree, parse (Ring.undivided Unit ℤ) "5*(4-1)" () = (.ok tree, ()) ∧
      parse (Ring.undivided Unit (ZMod 7)) "5*(4-1)" () =
        (.ok (tree.map (Int.castRingHom (ZMod 7))), ()) ∧
      evaluate (Ring.undivided Unit ℤ) tree () = (.ok 15, ()) ∧
      evaluate (Ring.undivided Unit (ZMod 7)) (tree.map (Int.castRingHom (ZMod 7))) () =
        (.ok 1, ()) := by
  let tree : Expr ℤ := .binary .mul (.leaf 5) (.group (.binary .sub (.leaf 4) (.leaf 1)))
  have hom : Ring.Hom (Ring.undivided Unit ℤ) (Ring.undivided Unit (ZMod 7))
      (Int.castRingHom (ZMod 7)) := .undivided _
  have read : parse (Ring.undivided Unit ℤ) "5*(4-1)" () = (.ok tree, ()) := by decide +kernel
  have value : evaluate (Ring.undivided Unit ℤ) tree () = (.ok 15, ()) := by decide +kernel
  obtain ⟨parsed, found, otherFound, values⟩ := parse_evaluate_map hom "5*(4-1)" () ()
  rw [read] at found
  obtain rfl : .ok tree = parsed := congrArg Prod.fst found
  obtain ⟨outcome, evaluated, otherEvaluated⟩ := values tree rfl
  rw [value] at evaluated
  obtain rfl : .ok 15 = outcome := congrArg Prod.fst evaluated
  refine ⟨tree, read, otherFound, value, otherEvaluated.trans ?_⟩
  have remainder : Int.castRingHom (ZMod 7) 15 = 1 := by decide
  rw [Except.map, remainder]

end RingCalc
