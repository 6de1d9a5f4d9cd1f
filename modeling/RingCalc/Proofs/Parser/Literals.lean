import RingCalc.Proofs.Parser.Invariant

/-!
# Literals and errors

Some tokens have one verdict, whatever the ring.  The parser asks the ring for the numbers that can
be read, from right to left.  If the ring has them all, the result is that of the verdict; if it
does not, the parser stops at the first number that the ring has no element for.
-/

namespace RingCalc

variable {σ α : Type}

/-! ## Recorded runs -/

/-- A run over the recorded ring is the run over the ring, with some calls noted down. -/
theorem ParserState.run_recorded (ring : Ring σ α) (state : ParserState α) (memory : σ)
    (earlier : List (RingCall α)) :
    ∃ calls, state.run ring.recorded (memory, earlier) =
      ((state.run ring memory).1, ((state.run ring memory).2, earlier ++ calls)) := by
  induction size : state.measure using Nat.strongRecOn generalizing state memory earlier with
  | _ size inductionHypothesis =>
    subst size
    rw [run_eq ring.recorded, run_eq ring]
    cases moved : state.move with
    | goto next => exact inductionHypothesis _ (measure_lt_of_goto moved) next memory earlier rfl
    | lift value pos next =>
      have noted : ring.recorded.ofInt value (memory, earlier) =
          ((ring.ofInt value memory).1, ((ring.ofInt value memory).2, earlier ++ [.ofInt value])) :=
        rfl
      simp only [noted]
      obtain ⟨error | element, after⟩ := ring.ofInt value memory
      · exact ⟨[.ofInt value], rfl⟩
      · -- The calls made later come behind this one.
        obtain ⟨calls, later⟩ := inductionHypothesis _ (measure_lt_of_lift moved element)
          (next.hold element) after (earlier ++ [.ofInt value]) rfl
        rw [List.append_assoc] at later
        exact ⟨[.ofInt value] ++ calls, later⟩
    | finish held unread => exact ⟨[], by rw [List.append_nil]⟩
    | refuse cause pos => exact ⟨[], by rw [List.append_nil]⟩
    | fault reason => exact ⟨[], by rw [List.append_nil]⟩

theorem parseTokens_recorded (ring : Ring σ α) (tokens : List Token) (memory : σ)
    (earlier : List (RingCall α)) :
    ∃ calls, parseTokens ring.recorded tokens (memory, earlier) =
      ((parseTokens ring tokens memory).1,
        ((parseTokens ring tokens memory).2, earlier ++ calls)) := by
  obtain ⟨calls, recorded⟩ := (ParserState.start tokens).run_recorded ring memory earlier
  refine ⟨calls, ?_⟩
  rw [parseTokens, recorded, parseTokens]
  obtain ⟨error | held, after⟩ := (ParserState.start tokens).run ring memory <;> rfl

/-- Parsing comes to a result and a memory, and asks for the numbers of some tokens. -/
def Ring.Parses (ring : Ring σ α) (tokens : List Token) (memory : σ)
    (result : Except (Halt ParseError) (Expr α)) (after : σ) (asked : List Token) : Prop :=
  parseTokens ring tokens memory = (result, after) ∧
    ∀ earlier, parseTokens ring.recorded tokens (memory, earlier) =
      (result, (after, earlier ++ Ring.liftings asked))

theorem Ring.Parses.of_recorded {ring : Ring σ α} {tokens asked : List Token} {memory after : σ}
    {result : Except (Halt ParseError) (Expr α)}
    (parsed : parseTokens ring tokens memory = (result, after))
    (asks : ∀ earlier, ∃ other, parseTokens ring.recorded tokens (memory, earlier) =
      (other, (after, earlier ++ Ring.liftings asked))) :
    ring.Parses tokens memory result after asked := by
  refine ⟨parsed, fun earlier => ?_⟩
  obtain ⟨other, outcome⟩ := asks earlier
  obtain ⟨calls, recorded⟩ := parseTokens_recorded ring tokens memory earlier
  rw [parsed, outcome] at recorded
  obtain rfl : other = result := congrArg Prod.fst recorded
  exact outcome

/-! ## Results -/

/-- A result is the one of a verdict: its error, or some canonical tree. -/
def Agrees : Option ParseError → Except (Halt ParseError) (Expr α) → Prop
  | some error, result => result = .error (.refused error)
  | none, result => ∃ tree : Expr α, tree.isCanonical true = true ∧ result = .ok tree

section

variable {ring : Ring σ α} {tokens read : List Token} {verdict : Option ParseError}
  {memory after : σ}

/-- If the numbers that can be read are lifted, the verdict decides. -/
theorem parseTokens_of_lifts (judged : Verdict tokens read verdict)
    (valued : ∀ token ∈ tokens, token.symbol ≠ .number none)
    (lifts : ring.Lifts memory read after) :
    ∃ result, Agrees verdict result ∧ parseTokens ring tokens memory = (result, after) := by
  obtain ⟨station, reads, known⟩ := judged.readable.reads lifts
  cases judged with
  | @inside before token read error readable stuck fault =>
    -- The parser comes as far as the token that cannot be read, and stops at it.
    have given := valued token (List.mem_append_right _ List.mem_cons_self)
    have stops := reads.stops (fault.stops stuck given known after)
    exact ⟨_, rfl, parseTokens_of_stops stops before⟩
  | atFront readable fault =>
    obtain ⟨tree, makes, closed, -⟩ | ⟨error, own, outcome⟩ := known.conclude reads
    · -- If what is held made a tree, nothing would be wrong in front.
      have begins := known.begins_of_tree? makes
      exact (fault.not_of_begins begins (known.unmatched_of_closed closed)).elim
    · rw [own.unique fault] at outcome
      exact ⟨_, rfl, outcome⟩
  | accepted readable begins matched =>
    obtain ⟨tree, makes, -, outcome⟩ | ⟨error, fault, -⟩ := known.conclude reads
    · exact ⟨_, ⟨tree, known.isCanonical_of_tree? makes, rfl⟩, outcome⟩
    · exact (fault.not_of_begins begins matched).elim

/-- The first number that is not lifted is refused, before anything to its left is looked at. -/
theorem parseTokens_of_fails {asked : List Token} {error : RingError} {pos : Int}
    (judged : Verdict tokens read verdict) (ends : asked <:+ read)
    (fails : ring.Fails memory asked error pos after) :
    parseTokens ring tokens memory = (.error (.refused ⟨.literal error, pos⟩), after) := by
  obtain ⟨value, rest, middle, rfl, lifts, failed⟩ := fails
  have readable := judged.readable
  -- The row is cut at the number that is refused: its right part is read, its left part is not.
  obtain ⟨left, whole⟩ := ends.trans judged.isSuffix
  obtain ⟨between, rfl⟩ := ends
  have front := readable.of_append
  obtain ⟨station, reads, known⟩ := Readable.reads front.2 lifts
  rw [← whole]
  exact parseTokens_of_stops (reads.stops (front.stops_of_fails known failed)) left

/-! ### Calls -/

theorem Ring.parses_of_lifts (judged : Verdict tokens read verdict)
    (valued : ∀ token ∈ tokens, token.symbol ≠ .number none)
    (lifts : ring.Lifts memory read after) :
    ∃ result, Agrees verdict result ∧ ring.Parses tokens memory result after read := by
  obtain ⟨result, agrees, parsed⟩ := parseTokens_of_lifts judged valued lifts
  refine ⟨result, agrees, .of_recorded parsed fun earlier => ?_⟩
  obtain ⟨other, -, outcome⟩ := parseTokens_of_lifts judged valued (lifts.recorded earlier)
  exact ⟨other, outcome⟩

theorem Ring.parses_of_fails {asked : List Token} {error : RingError} {pos : Int}
    (judged : Verdict tokens read verdict) (ends : asked <:+ read)
    (fails : ring.Fails memory asked error pos after) :
    ring.Parses tokens memory (.error (.refused ⟨.literal error, pos⟩)) after asked :=
  .of_recorded (parseTokens_of_fails judged ends fails) fun earlier =>
    ⟨_, parseTokens_of_fails judged ends (fails.recorded earlier)⟩

end

/-- Some tokens have a verdict, and it names the tokens that can be read.  A ring that lifts their
numbers is asked for them all and for nothing else, and the result is that of the verdict; else the
ring is asked up to the first number that it refuses, and this number is blamed. -/
theorem parseTokens_lifts_literals {tokens : List Token}
    (valued : ∀ token ∈ tokens, token.symbol ≠ .number none) :
    ∃ read verdict, Verdict tokens read verdict ∧ read <:+ tokens ∧
      (verdict = none → read = tokens) ∧
      ∀ {σ α : Type} (ring : Ring σ α) (memory : σ),
        (∀ after, ring.Lifts memory read after →
          ∃ result, Agrees verdict result ∧ ring.Parses tokens memory result after read) ∧
        (∀ asked error pos after, asked <:+ read → ring.Fails memory asked error pos after →
          ring.Parses tokens memory (.error (.refused ⟨.literal error, pos⟩)) after asked ∧
          (⟨.literal error, pos⟩ : ParseError).message = error.message ∧
          (⟨.literal error, pos⟩ : ParseError).kind = .unspecified) ∧
        ((∃ after, ring.Lifts memory read after) ∨
          ∃ asked error pos after, asked <:+ read ∧ ring.Fails memory asked error pos after) ∧
        (ring.Total → ∃ after, ring.Lifts memory read after) := by
  obtain ⟨read, verdict, judged⟩ := exists_verdict tokens
  refine ⟨read, verdict, judged, judged.isSuffix, ?_, fun ring memory => ⟨?_, ?_, ?_, ?_⟩⟩
  · rintro rfl
    cases judged
    rfl
  · exact fun after lifts => Ring.parses_of_lifts judged valued lifts
  · exact fun asked error pos after ends fails =>
      ⟨Ring.parses_of_fails judged ends fails, rfl, rfl⟩
  · exact ring.lifts_or_fails memory read
  · exact fun total => Ring.lifts_of_total total memory read

/-- Integers, of which as many can be lifted as the memory says. -/
def Ring.rationed : Ring Nat Int where
  zero := Action.steady (.ok 0)
  ofInt value
    | 0 => (.error .overflow, 0)
    | count + 1 => (.ok value, count)
  add left right := Action.steady (.ok (left + right))
  sub left right := Action.steady (.ok (left - right))
  mul left right := Action.steady (.ok (left * right))
  div _ _ := Action.steady (.error .notInRing)

/-- In `)1+9` the parenthesis is blamed if both numbers are lifted, and the `1` if one is. -/
theorem parseTokens_lifts_literals_adjacent :
    (∀ token ∈ [(⟨.rightParen, 0⟩ : Token), ⟨.number (some 1), 1⟩, ⟨.operator .add, 2⟩,
        ⟨.number (some 9), 3⟩], token.symbol ≠ .number none) ∧
      Ring.rationed.Parses [⟨.rightParen, 0⟩, ⟨.number (some 1), 1⟩, ⟨.operator .add, 2⟩,
        ⟨.number (some 9), 3⟩] 2 (.error (.refused ⟨.adjacentElements, 0⟩)) 0
        [⟨.number (some 1), 1⟩, ⟨.operator .add, 2⟩, ⟨.number (some 9), 3⟩] ∧
      Ring.rationed.Parses [⟨.rightParen, 0⟩, ⟨.number (some 1), 1⟩, ⟨.operator .add, 2⟩,
        ⟨.number (some 9), 3⟩] 1 (.error (.refused ⟨.literal .overflow, 1⟩)) 0
        [⟨.number (some 1), 1⟩, ⟨.operator .add, 2⟩, ⟨.number (some 9), 3⟩] := by
  have valued : ∀ token ∈ [(⟨.rightParen, 0⟩ : Token), ⟨.number (some 1), 1⟩,
      ⟨.operator .add, 2⟩, ⟨.number (some 9), 3⟩], token.symbol ≠ .number none := by decide
  obtain ⟨read, verdict, judged, -, -, outcomes⟩ := parseTokens_lifts_literals valued
  have readable : Readable [⟨.number (some 1), 1⟩, ⟨.operator .add, 2⟩, ⟨.number (some 9), 3⟩] :=
    ⟨⟨nofun, rfl⟩, rfl, ⟨nofun, rfl⟩, trivial⟩
  obtain ⟨rfl, rfl⟩ := judged.unique
    (.inside [] readable (fun free : true = false => by cases free) (.rightParen 0 _))
  refine ⟨valued, ?_, ?_⟩
  · obtain ⟨result, rfl, parses⟩ :=
      (outcomes Ring.rationed 2).1 0 ⟨1, 1, ⟨2, 9, rfl, rfl⟩, rfl⟩
    exact parses
  · exact ((outcomes Ring.rationed 1).2.1 _ .overflow 1 0 (List.suffix_refl _)
      ⟨1, _, 0, rfl, ⟨1, 9, rfl, rfl⟩, rfl⟩).1

/-! ## What every ring makes of some tokens -/

/-- The tokens are a canonical tree, or they are refused at one of them or for want of any. -/
theorem parseTokens_cases {tokens : List Token}
    (valued : ∀ token ∈ tokens, token.symbol ≠ .number none) (ring : Ring σ α) (memory : σ) :
    (∃ tree after, tree.isCanonical true = true ∧
        parseTokens ring tokens memory = (.ok tree, after)) ∨
      ∃ error after, parseTokens ring tokens memory = (.error (.refused error), after) ∧
        (∀ cause, error.cause ≠ .lexical cause) ∧
        (∀ failure, error.cause = .literal failure →
          ∃ value middle, ring.ofInt value middle = (.error failure, after)) ∧
        ((tokens = [] ∧ error = ⟨.noExpression, 0⟩) ∨
          ∃ token ∈ tokens, token.pos = error.pos) := by
  obtain ⟨read, verdict, judged⟩ := exists_verdict tokens
  obtain ⟨after, lifts⟩ | ⟨asked, error, pos, after, ends, fails⟩ := ring.lifts_or_fails memory read
  · obtain ⟨result, agrees, parsed⟩ := parseTokens_of_lifts judged valued lifts
    cases verdict with
    | none =>
      obtain ⟨tree, canonical, rfl⟩ := agrees
      exact .inl ⟨tree, after, canonical, parsed⟩
    | some error =>
      obtain rfl : result = .error (.refused error) := agrees
      obtain ⟨notLifted, notLexical⟩ := judged.isSyntactic
      exact .inr ⟨error, after, parsed, notLexical,
        fun failure same => absurd same (notLifted failure), judged.exists_pos⟩
  · have parsed := parseTokens_of_fails judged ends fails
    obtain ⟨value, rest, middle, rfl, -, failed⟩ := fails
    have member := (ends.trans judged.isSuffix).mem List.mem_cons_self
    refine .inr ⟨_, after, parsed, nofun, ?_, .inr ⟨_, member, rfl⟩⟩
    rintro failure ⟨rfl⟩
    exact ⟨value, middle, failed⟩

end RingCalc
