import RingCalc.Main
import RingCalc.Proofs.CommandLine.Echo
import RingCalc.Proofs.CommandLine.Invocation
import RingCalc.Proofs.Evaluation
import RingCalc.Proofs.Parser.Culprit

/-!
# What the command line tells

The command line tells what parsing and evaluating come to: one line about the value, or about the
first thing that fails, with a caret below it where the failure has a place.  Nothing else is
written, and no failure of these escapes.
-/

namespace RingCalc.CommandLine

/-! ## What there is to tell -/

/-- What there is to tell of an expression in a ring: whether it has a value, and the value or the
first failure. -/
inductive ToldIn (packed : PackedRing) (caret : Bool) (expression : String) :
    Bool → String → Prop where
  | unparsed {error : ParseError} {after : packed.Memory}
      (refused : parse packed.ring expression packed.memory = (.error (.refused error), after)) :
      ToldIn packed caret expression false
        (error.message ++ ": " ++ expression ++
          if caret then "\n" ++ caretLine (error.message.length + error.pos + 3).toNat else "")
  | unevaluated {tree : Expr packed.Elem} {error : EvalError} {after last : packed.Memory}
      (parsed : parse packed.ring expression packed.memory = (.ok tree, after))
      (refused : evaluate packed.ring tree after = (.error (.refused error), last)) :
      ToldIn packed caret expression false (error.message ++ ": " ++ expression)
  | value {tree : Expr packed.Elem} {value : packed.Elem} {after last : packed.Memory}
      (parsed : parse packed.ring expression packed.memory = (.ok tree, after))
      (evaluated : evaluate packed.ring tree after = (.ok value, last)) :
      ToldIn packed caret expression true ("Result: " ++ packed.display value)

/-- What there is to tell of an expression in the ring of a name, which may be unknown. -/
inductive Told (rings : Registry PackedRing) (caret : Bool) (name expression : String) :
    Bool → String → Prop where
  | unknown (missing : rings.get? name = none) :
      Told rings caret name expression false (rings.unknownMessage name)
  | known {packed : PackedRing} {success : Bool} {line : String}
      (found : rings.get? name = some packed) (told : ToldIn packed caret expression success line) :
      Told rings caret name expression success line

section

variable {rings : Registry PackedRing} {packed : PackedRing} {caret success other : Bool}
  {name expression line shown : String}

theorem ToldIn.unique (told : ToldIn packed caret expression success line)
    (again : ToldIn packed caret expression other shown) : other = success ∧ shown = line := by
  cases told with
  | unparsed refused =>
    cases again with
    | unparsed alsoRefused =>
      cases refused.symm.trans alsoRefused
      exact ⟨rfl, rfl⟩
    | unevaluated parsed _ | value parsed _ => cases refused.symm.trans parsed
  | unevaluated parsed refused =>
    cases again with
    | unparsed unparsed => cases parsed.symm.trans unparsed
    | unevaluated alsoParsed alsoRefused =>
      cases parsed.symm.trans alsoParsed
      cases refused.symm.trans alsoRefused
      exact ⟨rfl, rfl⟩
    | value alsoParsed evaluated =>
      cases parsed.symm.trans alsoParsed
      cases refused.symm.trans evaluated
  | value parsed evaluated =>
    cases again with
    | unparsed refused => cases parsed.symm.trans refused
    | unevaluated alsoParsed refused =>
      cases parsed.symm.trans alsoParsed
      cases evaluated.symm.trans refused
    | value alsoParsed alsoEvaluated =>
      cases parsed.symm.trans alsoParsed
      cases evaluated.symm.trans alsoEvaluated
      exact ⟨rfl, rfl⟩

theorem Told.unique (told : Told rings caret name expression success line)
    (again : Told rings caret name expression other shown) : other = success ∧ shown = line := by
  cases told with
  | unknown missing =>
    cases again with
    | unknown _ => exact ⟨rfl, rfl⟩
    | known found _ => cases missing.symm.trans found
  | known found told =>
    cases again with
    | unknown missing => cases missing.symm.trans found
    | known alsoFound again =>
      cases found.symm.trans alsoFound
      exact told.unique again

/-! ### Plain lines -/

/-- The message of a parse error stands on one line, unless the ring has answered it. -/
theorem inline_or_answer_of_parse {σ α : Type} {ring : Ring σ α} {memory after : σ}
    {error : ParseError}
    (refused : parse ring expression memory = (.error (.refused error), after)) :
    Text.Inline error.message.toList ∨ ∃ failure value middle,
      error.message = failure.message ∧
        ring.perform (.ofInt value) middle = (.error failure, after) := by
  obtain ⟨failure, literal⟩ | inline := error.cause.literal_or_inline
  · obtain ⟨value, middle, answer⟩ := (culprit_of_parse refused).2 failure literal
    have same : error.message = failure.message := by rw [ParseError.message, literal]; rfl
    exact .inr ⟨failure, value, middle, same, answer⟩
  · exact .inl inline

theorem plain_pointing {message : String} (messagePlain : Text.Plain message)
    (plain : Text.Plain expression) (caret : Bool) (width : Nat) :
    Text.Plain (message ++ ": " ++ expression ++
      if caret then "\n" ++ caretLine width else "") := by
  have colon : Text.Plain ": " := by decide
  refine ((messagePlain.append colon).append plain).append ?_
  split
  · exact Text.Plain.append (by decide) (inline_caretLine width).plain
  · decide

theorem ToldIn.plain (told : ToldIn packed caret expression success line)
    (unstyled : packed.Unstyled) (plain : Text.Plain expression) : Text.Plain line := by
  cases told with
  | @unparsed error after refused =>
    have message : Text.Plain error.message := by
      obtain inline | ⟨failure, value, middle, same, answer⟩ := inline_or_answer_of_parse refused
      · exact inline.plain
      · rw [same]
        exact unstyled.message answer
    exact plain_pointing message plain caret _
  | @unevaluated tree error after last parsed refused =>
    -- The error is an answer of the ring, for a parsed tree holds nothing that is no expression.
    obtain ⟨value, memory, evaluated⟩ | ⟨failure, memory, outcome, call, middle, answer⟩ :=
      evaluate_cases (isCanonical_of_parse parsed) packed.ring after
    · cases refused.symm.trans evaluated
    · cases refused.symm.trans outcome
      have colon : Text.Plain ": " := by decide
      exact ((unstyled.message answer).append colon).append plain
  | @value tree value after last parsed evaluated =>
    have result : Text.Plain "Result: " := by decide
    exact result.append (unstyled.display value)

theorem Told.plain (told : Told rings caret name expression success line)
    (unstyled : rings.Unstyled) (plain : Text.Plain expression) : Text.Plain line := by
  cases told with
  | unknown missing => exact unstyled.unknownMessage name
  | known found told => exact told.plain (unstyled.ring found) plain

end

/-! ## What is told -/

/-- Where debugging is off, no record is kept. -/
theorem kept_of_quiet {settings : Settings} (quiet : settings.logLevel ≠ .debug)
    (records : List LogRecord) : kept settings records = [] :=
  if_neg quiet

/-- The report of a line, which stands on the one stream or on the other. -/
def Report.told (success : Bool) (line : String) : Report :=
  if success then ⟨0, echo line, [], ""⟩ else ⟨1, "", [], echo line⟩

theorem positioned_eq (settings : Settings) (message source : String) (pos : Int) :
    positioned settings message source pos = message ++ ": " ++ source ++
      if settings.caret then "\n" ++ caretLine (message.length + pos + 3).toNat else "" := by
  unfold positioned
  split
  · simp only [pointAt, String.append_assoc]
  · rw [String.append_empty]

/-- Evaluation in a ring reports what there is to tell, at every log level. -/
theorem evalIn_reports (packed : PackedRing) (settings : Settings) (expression : String) :
    ∃ success line records, ToldIn packed settings.caret expression success line ∧
      evalIn packed settings expression =
        .report { Report.told success line with log := kept settings records } := by
  obtain ⟨tree, after, canonical, parsed⟩ | ⟨error, after, refused, -⟩ :=
    parse_cases packed.ring expression packed.memory
  · obtain ⟨value, last, evaluated⟩ | ⟨failure, last, refused, -⟩ :=
      evaluate_cases canonical packed.ring after
    · let records := parseLog expression (.ok tree) ++ evalLog packed.display (.ok value)
      refine ⟨true, _, records, .value parsed evaluated, ?_⟩
      simp only [evalIn, parsed, evaluated]
      rfl
    · let records := parseLog expression (.ok tree) ++
        evalLog packed.display (.error (.refused (.ring failure)))
      refine ⟨false, _, records, .unevaluated parsed refused, ?_⟩
      simp only [evalIn, parsed, refused]
      rfl
  · let records := @parseLog packed.Elem expression (.error (.refused error))
    refine ⟨false, _, records, .unparsed refused, ?_⟩
    simp only [evalIn, refused, positioned_eq]
    rfl

theorem evalIn_tells {settings : Settings} (quiet : settings.logLevel ≠ .debug)
    (packed : PackedRing) (expression : String) :
    ∃ success line, ToldIn packed settings.caret expression success line ∧
      evalIn packed settings expression = .report (.told success line) := by
  obtain ⟨success, line, records, told, outcome⟩ := evalIn_reports packed settings expression
  refine ⟨success, line, told, outcome.trans ?_⟩
  rw [kept_of_quiet quiet]
  cases success <;> rfl

theorem evalCommand_tells {settings : Settings} (quiet : settings.logLevel ≠ .debug)
    (rings : Registry PackedRing) (expression : String) (ring : Option String) :
    ∃ success line, Told rings settings.caret (ringName settings ring) expression success line ∧
      evalCommand rings settings expression ring = .report (.told success line) := by
  cases found : rings.get? (ringName settings ring) with
  | none =>
    refine ⟨false, _, .unknown found, ?_⟩
    simp only [evalCommand, found]
    rfl
  | some packed =>
    obtain ⟨success, line, told, outcome⟩ := evalIn_tells quiet packed expression
    refine ⟨success, line, .known found told, ?_⟩
    simp only [evalCommand, found, outcome]

theorem tokensCommand_of_ok {settings : Settings} (quiet : settings.logLevel ≠ .debug)
    {expression : String} {tokens : List Token} (read : tokenize expression = .ok tokens) :
    tokensCommand settings expression =
      .report ⟨0, "Tokens: " ++ Token.textOfAll tokens ++ "\n", [], ""⟩ := by
  have label : Text.Plain "Tokens: " := by decide
  have line := label.append (Token.inline_textOfAll tokens).plain
  simp only [tokensCommand, read, kept_of_quiet quiet, Report.success, echo_of_plain line]

theorem tokensCommand_of_error {settings : Settings} {expression : String} {error : LexError}
    (fails : tokenize expression = .error error) (plain : Text.Plain expression) :
    tokensCommand settings expression =
      .report ⟨1, "", [], error.message ++ ": " ++ expression ++
        (if settings.caret then "\n" ++ caretLine (error.message.length + error.pos + 3)
          else "") ++ "\n"⟩ := by
  have width : ((error.message.length : Int) + (error.pos : Int) + 3).toNat =
      error.message.length + error.pos + 3 := by omega
  have message : Text.Plain error.message := error.cause.inline_message.plain
  have line := plain_pointing message plain settings.caret (error.message.length + error.pos + 3)
  simp only [tokensCommand, fails, Report.failure, positioned_eq, width]
  rw [echo_of_plain line]

/-- The command line tells the one thing that there is to tell of an expression, in the ring that is
asked for or else in that of the settings, and shows its tokens if it has any.  The status and the
stream say whether it is a success.  Lines are printed as they are unless the expression or the
rings have escape characters, so that a failure with a place is the line of the message and, if
carets are shown, the line of the caret. -/
theorem run_tells {rings : Registry PackedRing} {surroundings : Surroundings}
    {arguments : List String} {settings : Settings} {ring : Option String} {expression : String}
    (quiet : settings.logLevel ≠ .debug) :
    (Invokes rings surroundings arguments .eval settings ring expression →
      ∃ success line,
        (∀ other shown, Told rings settings.caret (ringName settings ring) expression other shown ↔
          other = success ∧ shown = line) ∧
        run rings surroundings arguments =
          .report (if success then ⟨0, echo line, [], ""⟩ else ⟨1, "", [], echo line⟩) ∧
        (rings.Unstyled → Text.Plain expression → echo line = line ++ "\n")) ∧
    (Invokes rings surroundings arguments .tokens settings ring expression →
      (∀ tokens, tokenize expression = .ok tokens → run rings surroundings arguments =
        .report ⟨0, "Tokens: " ++ Token.textOfAll tokens ++ "\n", [], ""⟩) ∧
      ∀ error, tokenize expression = .error error → Text.Plain expression →
        run rings surroundings arguments =
          .report ⟨1, "", [], error.message ++ ": " ++ expression ++
            (if settings.caret then "\n" ++ caretLine (error.message.length + error.pos + 3)
              else "") ++ "\n"⟩) := by
  constructor
  · intro invokes
    obtain ⟨success, line, told, outcome⟩ := evalCommand_tells quiet rings expression ring
    refine ⟨success, line, fun other shown => ⟨told.unique, ?_⟩, invokes.run_eq.trans outcome, ?_⟩
    · rintro ⟨rfl, rfl⟩
      exact told
    · exact fun unstyled plain => echo_of_plain (told.plain unstyled plain)
  · intro invokes
    exact ⟨fun tokens read => invokes.run_eq.trans (tokensCommand_of_ok quiet read),
      fun error fails plain => invokes.run_eq.trans (tokensCommand_of_error fails plain)⟩

/-- What is told of a sum: its value in the ring of the settings, which is that of checked integers,
that another ring is not known, and its tokens. -/
theorem run_tells_sum :
    ({} : Settings).logLevel ≠ .debug ∧
      Invokes standardRings bareSurroundings ["eval", "--", "1 + 2"] .eval {} none "1 + 2" ∧
      run standardRings bareSurroundings ["eval", "--", "1 + 2"] =
        .report ⟨0, "Result: 3\n", [], ""⟩ ∧
      run standardRings bareSurroundings ["eval", "--ring", "real", "--", "1 + 2"] =
        .report ⟨1, "", [], "Unknown ring: 'real' (available: int)\n"⟩ ∧
      run standardRings bareSurroundings ["tokens", "--", "1 + 2"] =
        .report ⟨0, "Tokens: 1 + 2\n", [], ""⟩ := by
  have quiet : ({} : Settings).logLevel ≠ .debug := by decide
  have invokes : Invokes standardRings bareSurroundings ["eval", "--", "1 + 2"] .eval {} none
      "1 + 2" := .eval rfl "1 + 2"
  refine ⟨quiet, invokes, ?_, ?_, ?_⟩
  · obtain ⟨success, line, tells, outcome, plain⟩ := (run_tells quiet).1 invokes
    let sum : CheckedInt := ⟨3, by decide, by decide⟩
    let tree : Expr CheckedInt :=
      .binary .add (.leaf ⟨1, by decide, by decide⟩) (.leaf ⟨2, by decide, by decide⟩)
    have parsed : parse (CheckedInt.ring Unit) "1 + 2" () = (.ok tree, ()) := by decide +kernel
    have evaluated : evaluate (CheckedInt.ring Unit) tree () = (.ok sum, ()) := by decide +kernel
    have told : Told standardRings true "int" "1 + 2" true ("Result: " ++ toString sum) :=
      .known rfl (.value parsed evaluated)
    obtain ⟨rfl, rfl⟩ := (tells _ _).mp told
    rw [outcome, plain standardRings_unstyled (by decide)]
    rfl
  · have invokesReal : Invokes standardRings bareSurroundings
        ["eval", "--ring", "real", "--", "1 + 2"] .eval {} (some "real") "1 + 2" :=
      .eval_ring rfl "real" "1 + 2"
    obtain ⟨success, line, tells, outcome, plain⟩ := (run_tells quiet).1 invokesReal
    obtain ⟨rfl, rfl⟩ := (tells _ _).mp (.unknown rfl)
    rw [outcome, plain standardRings_unstyled (by decide)]
    decide +kernel
  · have invokesTokens : Invokes standardRings bareSurroundings ["tokens", "--", "1 + 2"] .tokens {}
        none "1 + 2" := .tokens rfl "1 + 2"
    have read : tokenize "1 + 2" = .ok [⟨.number (some 1), 0⟩, ⟨.operator .add, 2⟩,
        ⟨.number (some 2), 4⟩] := by decide +kernel
    exact ((run_tells quiet).2 invokesTokens).1 _ read

end RingCalc.CommandLine
