import RingCalc.Proofs.CommandLine.Told

/-!
# Where the caret stands

The place of a parse error is that of its culprit in the text, so the caret of a report stands below
the first character of a token or below the character that cannot be read.
-/

namespace RingCalc.CommandLine

/-! ## Two lines -/

/-- Two lines: a message with a text, and a caret below the character at a place of the text. -/
structure PointsBelow (message text : String) (place : Nat) (first second : String) : Prop where
  line : first = message ++ ": " ++ text
  firstLine : '\n' ∉ first.toList
  secondLine : '\n' ∉ second.toList
  caret : second.toList = List.replicate (message.length + 2 + place) ' ' ++ ['^']
  above : ∃ c, text.toList[place]? = some c ∧
    first.toList[message.length + 2 + place]? = some c

theorem pointsBelow_of_place {message text : String} {place : Nat} {c : Char}
    (inline : Text.Inline message.toList) (oneLine : '\n' ∉ text.toList)
    (stands : text.toList[place]? = some c) :
    PointsBelow message text place (message ++ ": " ++ text)
      (caretLine (message.length + place + 3)) where
  line := rfl
  firstLine := by
    have colon : '\n' ∉ ": ".toList := by decide
    rw [String.toList_append, String.toList_append, List.mem_append, List.mem_append, not_or,
      not_or]
    exact ⟨⟨inline.not_mem (by decide), colon⟩, oneLine⟩
  secondLine := (inline_caretLine _).not_mem (by decide)
  caret := by
    have width : message.length + place + 3 - 1 = message.length + 2 + place := by omega
    rw [caretLine, String.toList_ofList, width]
  above := by
    refine ⟨c, stands, ?_⟩
    -- The text stands behind the message, a colon and a space.
    have before : (message ++ ": ").toList.length = message.length + 2 := by
      rw [String.toList_append, List.length_append, String.length_toList]
      rfl
    rw [String.toList_append, ← before, List.getElem?_append_right (Nat.le_add_right _ _),
      Nat.add_sub_cancel_left, stands]

/-! ## Reports -/

section

variable {rings : Registry PackedRing} {settings : Settings} {source : String}

theorem evalCommand_of_refused {packed : PackedRing} {ring : Option String} {error : ParseError}
    {after : packed.Memory} {place : Nat} (quiet : settings.logLevel ≠ .debug)
    (caret : settings.caret = true) (found : rings.get? (ringName settings ring) = some packed)
    (refused : parse packed.ring source packed.memory = (.error (.refused error), after))
    (here : error.pos = place) (inline : Text.Inline error.message.toList)
    (plain : Text.Plain source) :
    evalCommand rings settings source ring =
      .report ⟨1, "", [], error.message ++ ": " ++ source ++ "\n" ++
        caretLine (error.message.length + place + 3) ++ "\n"⟩ := by
  obtain ⟨success, line, told, outcome⟩ := evalCommand_tells quiet rings source ring
  obtain ⟨rfl, rfl⟩ := told.unique (.known found (.unparsed refused))
  have width : ((error.message.length : Int) + (place : Int) + 3).toNat =
      error.message.length + place + 3 := by omega
  have line := plain_pointing inline.plain plain true (error.message.length + place + 3)
  rw [outcome, Report.told, caret, here, width, echo_of_plain line]
  simp only [if_true, Bool.false_eq_true, if_false, String.append_assoc]

theorem tokensCommand_of_unreadable {error : LexError} (caret : settings.caret = true)
    (fails : tokenize source = .error error) (plain : Text.Plain source) :
    tokensCommand settings source =
      .report ⟨1, "", [], error.message ++ ": " ++ source ++ "\n" ++
        caretLine (error.message.length + error.pos + 3) ++ "\n"⟩ := by
  rw [tokensCommand_of_error fails plain, caret]
  simp only [if_true, String.append_assoc]

theorem inline_message_of_parse {σ : Type} {memory after : σ} {error : ParseError}
    (refused : parse (CheckedInt.ring σ) source memory = (.error (.refused error), after)) :
    Text.Inline error.message.toList := by
  obtain inline | ⟨failure, value, middle, same, answer⟩ := inline_or_answer_of_parse refused
  · exact inline
  · rw [same]
    exact CheckedInt.inline_message answer

end

/-! ## Places and carets -/

theorem place_of_culprit {source : String} {error : ParseError}
    (culprit : Culprit source error) :
    (∀ c ∈ source.toList, Text.isBlank c = true) ∧ error.message = "No expression" ∧
        error.pos = 0 ∨
      0 ≤ error.pos ∧ error.pos < source.length := by
  obtain ⟨blank, rfl⟩ | ⟨place, c, here, stands, -⟩ := culprit.blank_or_visible
  · exact .inl ⟨blank, rfl, rfl⟩
  · have bound := (List.getElem?_eq_some_iff.mp stands).1
    rw [String.length_toList] at bound
    right
    omega

/-- The caret of a report stands below the culprit.  Every parse error has the place of one; and
where carets are shown, the command line writes two lines for it, of which the second has the caret
below the character at that place.  Where a text has no tokens, both commands write the same two
lines. -/
theorem caret_points_at_culprit (source : String) :
    (∀ {σ α : Type} (ring : Ring σ α) (memory after : σ) (error : ParseError),
      parse ring source memory = (.error (.refused error), after) →
      Culprit source error ∧
      ((∀ c ∈ source.toList, Text.isBlank c = true) ∧ error.message = "No expression" ∧
          error.pos = 0 ∨
        0 ≤ error.pos ∧ error.pos < source.length) ∧
      (error.kind = .tokenParseError ↔ ∃ failure, tokenize source = .error failure) ∧
      ∀ failure, tokenize source = .error failure →
        error.message = failure.message ∧ error.pos = failure.pos ∧ after = memory ∧
        ∀ earlier, parse ring.recorded source (memory, earlier) =
          (.error (.refused error), (memory, earlier))) ∧
    ∀ (rings : Registry PackedRing) (surroundings : Surroundings) (settings : Settings),
      settings.logLevel ≠ .debug → settings.caret = true →
      (¬ ∀ c ∈ source.toList, Text.isBlank c = true) → '\n' ∉ source.toList →
      Text.Plain source →
      (∀ arguments ring, Invokes rings surroundings arguments .eval settings ring source →
        rings.get? (ringName settings ring) =
          some ⟨Unit, CheckedInt, CheckedInt.ring Unit, (), toString⟩ →
        ∀ error after, parse (CheckedInt.ring Unit) source () = (.error (.refused error), after) →
        ∃ (place : Nat) (first second : String), error.pos = place ∧
          PointsBelow error.message source place first second ∧
          run rings surroundings arguments =
            .report ⟨1, "", [], first ++ "\n" ++ second ++ "\n"⟩) ∧
      ∀ failure, tokenize source = .error failure →
        ∃ first second, PointsBelow failure.message source failure.pos first second ∧
          (∀ arguments ring packed,
            Invokes rings surroundings arguments .eval settings ring source →
            rings.get? (ringName settings ring) = some packed →
            run rings surroundings arguments =
              .report ⟨1, "", [], first ++ "\n" ++ second ++ "\n"⟩) ∧
          ∀ arguments ring, Invokes rings surroundings arguments .tokens settings ring source →
            run rings surroundings arguments =
              .report ⟨1, "", [], first ++ "\n" ++ second ++ "\n"⟩ := by
  constructor
  · intro σ α ring memory after error refused
    have culprit := (culprit_of_parse refused).1
    refine ⟨culprit, place_of_culprit culprit, culprit.kind_eq_iff, fun failure fails => ?_⟩
    rw [parse, fails] at refused
    cases refused
    exact ⟨rfl, rfl, rfl, fun earlier => by rw [parse, fails]⟩
  intro rings surroundings settings quiet caret filled oneLine plain
  constructor
  · intro arguments ring invokes found error after refused
    -- The text is not blank, so the error has a character to point at.
    obtain ⟨place, c, here, stands, -⟩ :=
      (culprit_of_parse refused).1.blank_or_visible.resolve_left fun blank => filled blank.1
    have inline := inline_message_of_parse refused
    have outcome := evalCommand_of_refused quiet caret found refused here inline plain
    exact ⟨place, error.message ++ ": " ++ source,
      caretLine (error.message.length + place + 3), here,
      pointsBelow_of_place inline oneLine stands, invokes.run_eq.trans outcome⟩
  · intro failure fails
    obtain ⟨c, stands, -⟩ := exists_visible_of_tokenize fails
    have inline : Text.Inline failure.message.toList := failure.cause.inline_message
    refine ⟨failure.message ++ ": " ++ source,
      caretLine (failure.message.length + failure.pos + 3),
      pointsBelow_of_place inline oneLine stands, ?_, ?_⟩
    · intro arguments ring packed invokes found
      -- Whatever the ring, it is not asked for anything before the text is read.
      have refused : parse packed.ring source packed.memory =
          (.error (.refused failure.toParseError), packed.memory) := by rw [parse, fails]
      have outcome := evalCommand_of_refused quiet caret found refused rfl inline plain
      exact invokes.run_eq.trans outcome
    · intro arguments ring invokes
      exact invokes.run_eq.trans (tokensCommand_of_unreadable caret fails plain)

/-- Both commands point at the character of `1 + $` that cannot be read, and the evaluation of
`1 * ()` points at the end of the empty group. -/
theorem caret_points_at_culprit_two_texts :
    tokenize "1 + $" = .error ⟨.invalidToken, 4⟩ ∧
      run standardRings bareSurroundings ["eval", "--", "1 + $"] =
        .report ⟨1, "", [], "Invalid token: 1 + $\n                   ^\n"⟩ ∧
      run standardRings bareSurroundings ["tokens", "--", "1 + $"] =
        .report ⟨1, "", [], "Invalid token: 1 + $\n                   ^\n"⟩ ∧
      run standardRings bareSurroundings ["eval", "--", "1 * ()"] =
        .report ⟨1, "", [], "No expression: 1 * ()\n                    ^\n"⟩ := by
  have fails : tokenize "1 + $" = .error ⟨.invalidToken, 4⟩ := by decide +kernel
  have filled : ¬ ∀ c ∈ "1 + $".toList, Text.isBlank c = true := fun blank =>
    absurd (blank '1' (by decide)) (by decide)
  obtain ⟨first, second, points, evalRuns, tokensRuns⟩ :=
    ((caret_points_at_culprit "1 + $").2 standardRings bareSurroundings {} (by decide) rfl
      filled (by decide) (by decide)).2 _ fails
  have caret : second = "                   ^" :=
    String.toList_injective (points.caret.trans (by decide))
  obtain rfl := points.line
  subst caret
  refine ⟨fails, evalRuns _ _ _ (.eval rfl "1 + $") rfl, tokensRuns _ _ (.tokens rfl "1 + $"), ?_⟩
  have refused : parse (CheckedInt.ring Unit) "1 * ()" () =
      (.error (.refused ⟨.noExpression, 5⟩), ()) := by decide +kernel
  have otherFilled : ¬ ∀ c ∈ "1 * ()".toList, Text.isBlank c = true := fun blank =>
    absurd (blank '1' (by decide)) (by decide)
  obtain ⟨place, line, mark, here, pointsToo, outcome⟩ :=
    ((caret_points_at_culprit "1 * ()").2 standardRings bareSurroundings {} (by decide) rfl
      otherFilled (by decide) (by decide)).1 _ _ (.eval rfl "1 * ()") rfl _ _ refused
  obtain rfl : place = 5 := (Int.ofNat_inj.mp here).symm
  have otherCaret : mark = "                    ^" :=
    String.toList_injective (pointsToo.caret.trans (by decide))
  obtain rfl := pointsToo.line
  subst otherCaret
  exact outcome

end RingCalc.CommandLine
