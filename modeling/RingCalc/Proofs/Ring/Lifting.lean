import RingCalc.Proofs.Ring.Calls
import RingCalc.Token

/-!
# Lifting numbers

The parser asks a ring for an element for each number it reads, from right to left.  A ring lifts
the numbers of some tokens if it has an element for each of them when it is asked in this order; if
it does not, there is a first number that it has no element for.
-/

namespace RingCalc

variable {σ α : Type}

/-! ## Numbers from right to left -/

def Token.number? (token : Token) : Option Int :=
  match token.symbol with
  | .number value => value
  | _ => none

/-- The numbers among some tokens, from right to left. -/
def Token.numbers (tokens : List Token) : List Int := tokens.reverse.filterMap Token.number?

theorem Token.numbers_cons (token : Token) (tokens : List Token) :
    numbers (token :: tokens) = numbers tokens ++ token.number?.toList := by
  rw [numbers, List.reverse_cons, List.filterMap_append, ← numbers]
  cases number : token.number? <;> simp [number]

/-! ## Lifting -/

/-- The ring lifts all numbers of some tokens, and comes from the one memory to the other. -/
def Ring.Lifts (ring : Ring σ α) (memory : σ) : List Token → σ → Prop
  | [], last => last = memory
  | token :: tokens, last =>
    match token.number? with
    | none => ring.Lifts memory tokens last
    | some value => ∃ after element, ring.Lifts memory tokens after ∧
        ring.ofInt value after = (.ok element, last)

namespace Ring

/-- The ring lifts all numbers of some tokens but the leftmost one, the one in front. -/
def Fails (ring : Ring σ α) (memory : σ) (asked : List Token) (error : RingError) (pos : Int)
    (last : σ) : Prop :=
  ∃ value rest middle, asked = ⟨.number (some value), pos⟩ :: rest ∧
    ring.Lifts memory rest middle ∧ ring.ofInt value middle = (.error error, last)

variable {ring : Ring σ α} {memory after last : σ} {tokens asked : List Token}
  {error : RingError} {pos : Int}

/-- All numbers are lifted, or there is a first one that is not. -/
theorem lifts_or_fails (ring : Ring σ α) (memory : σ) (tokens : List Token) :
    (∃ last, ring.Lifts memory tokens last) ∨
      ∃ asked error pos last, asked <:+ tokens ∧ ring.Fails memory asked error pos last := by
  induction tokens with
  | nil => exact .inl ⟨memory, rfl⟩
  | cons token rest inductionHypothesis =>
    obtain ⟨after, lifts⟩ | ⟨asked, error, pos, last, ends, fails⟩ := inductionHypothesis
    · obtain ⟨symbol, pos⟩ := token
      cases symbol with
      | number value =>
        cases value with
        | none => exact .inl ⟨after, lifts⟩
        | some value =>
          cases answer : ring.ofInt value after with
          | mk result last =>
            cases result with
            | ok element => exact .inl ⟨last, after, element, lifts, answer⟩
            | error error =>
              exact .inr ⟨_, error, pos, last, List.suffix_refl _,
                value, rest, after, rfl, lifts, answer⟩
      | _ => exact .inl ⟨after, lifts⟩
    · exact .inr ⟨asked, error, pos, last, ends.trans (List.suffix_cons token rest), fails⟩

/-- The ring has an element for every integer. -/
def Total (ring : Ring σ α) : Prop :=
  ∀ value memory, ∃ element after, ring.ofInt value memory = (.ok element, after)

theorem lifts_of_total (total : ring.Total) (memory : σ) (tokens : List Token) :
    ∃ last, ring.Lifts memory tokens last := by
  obtain lifts | ⟨_, _, _, _, _, value, _, middle, _, _, failed⟩ :=
    ring.lifts_or_fails memory tokens
  · exact lifts
  · obtain ⟨element, last, answer⟩ := total value middle
    rw [failed] at answer
    cases answer

theorem Lifts.eq_of_stateless (stateless : ring.Stateless)
    (lifts : ring.Lifts memory tokens last) : last = memory := by
  induction tokens generalizing last with
  | nil => exact lifts
  | cons token rest inductionHypothesis =>
    unfold Lifts at lifts
    split at lifts
    · exact inductionHypothesis lifts
    · obtain ⟨after, element, restLifts, answer⟩ := lifts
      obtain ⟨result, steady⟩ := stateless.ofInt ‹Int›
      rw [steady] at answer
      exact (congrArg Prod.snd answer).symm.trans (inductionHypothesis restLifts)

/-! ### Calls -/

/-- The calls made for the numbers of some tokens. -/
def liftings (tokens : List Token) : List (RingCall α) := (Token.numbers tokens).map .ofInt

theorem liftings_cons (token : Token) (tokens : List Token) :
    (liftings (token :: tokens) : List (RingCall α)) =
      liftings tokens ++ token.number?.toList.map .ofInt := by
  rw [liftings, Token.numbers_cons, List.map_append, ← liftings]

/-- Lifting asks for each number once, from right to left. -/
theorem Lifts.recorded (lifts : ring.Lifts memory tokens last) (earlier : List (RingCall α)) :
    ring.recorded.Lifts (memory, earlier) tokens (last, earlier ++ liftings tokens) := by
  induction tokens generalizing last with
  | nil =>
    obtain rfl : last = memory := lifts
    simp [Lifts, liftings, Token.numbers]
  | cons token rest inductionHypothesis =>
    rw [liftings_cons]
    unfold Lifts at lifts ⊢
    cases number : token.number? with
    | none =>
      simp only [number] at lifts
      simpa using inductionHypothesis lifts
    | some value =>
      simp only [number] at lifts
      obtain ⟨after, element, restLifts, answer⟩ := lifts
      refine ⟨_, element, inductionHypothesis restLifts, ?_⟩
      simp [Ring.recorded, record, perform, answer]

/-- Where lifting fails, the number that has no element has been asked for too. -/
theorem Fails.recorded (fails : ring.Fails memory asked error pos last)
    (earlier : List (RingCall α)) :
    ring.recorded.Fails (memory, earlier) asked error pos
      (last, earlier ++ liftings asked) := by
  obtain ⟨value, rest, middle, rfl, lifts, failed⟩ := fails
  refine ⟨value, rest, _, rfl, lifts.recorded earlier, ?_⟩
  rw [liftings_cons]
  simp [Ring.recorded, record, perform, failed, Token.number?]

end Ring

end RingCalc
