import RingCalc.Expr.StreamBank
import RingCalc.Proofs.Parser.Source
import RingCalc.Ring.CheckedInt

/-!
# Streams that are used side by side

A stream gives what reading its text as a whole gives, one item at a time: the tokens, then the
error at which reading stops if there is one, and from then on nothing.  What is left of it is
parsed as the rest of the tokens.  In a bank a stream is not touched by the requests of other
streams, so it answers as if it were alone.
-/

namespace RingCalc

/-! ## One stream -/

namespace TokenStream

variable {stream : TokenStream} {text : String} {tokens : List Token} {error : Option LexError}

theorem drain_finish (stream : TokenStream) : stream.finish.drain = ([], none) := by
  rw [drain_eq]
  rfl

/-- The next item is the first one that draining gives, and draining gives the others afterwards. -/
theorem next?_cases (stream : TokenStream) :
    (∃ token after, stream.next? = (some (.ok token), after) ∧
      stream.drain = (token :: after.drain.1, after.drain.2)) ∨
    (∃ error, stream.next? = (some (.error error), stream.finish) ∧
      stream.drain = ([], some error)) ∨
    (stream.next? = (none, stream.finish) ∧ stream.drain = ([], none)) := by
  rw [next?, drain_eq]
  cases stream.pull with
  | token token after => exact .inl ⟨token, after, rfl, rfl⟩
  | failure error => exact .inr (.inl ⟨error, rfl, rfl⟩)
  | finished => exact .inr (.inr ⟨rfl, rfl⟩)

/-- Taking one token after the other comes to the same as draining at once, and leaves nothing. -/
theorem takeAll_eq (stream : TokenStream) :
    stream.takeAll.1 = stream.tokens ∧ stream.takeAll.2.drain = ([], none) := by
  fun_induction takeAll stream with
  | case1 stream token after taken tokens last rest inductionHypothesis =>
    rw [rest] at inductionHypothesis
    obtain ⟨same, finished⟩ := inductionHypothesis
    obtain ⟨_, _, next, drained⟩ | ⟨_, next, -⟩ | ⟨next, -⟩ := stream.next?_cases
    all_goals cases taken.symm.trans next
    refine ⟨?_, finished⟩
    simp only at same
    rw [same, TokenStream.tokens, TokenStream.tokens, drained]
    cases after.drain with
    | mk read error => cases error <;> rfl
  | case2 stream error after taken =>
    obtain ⟨_, _, next, -⟩ | ⟨_, next, drained⟩ | ⟨next, -⟩ := stream.next?_cases
    all_goals cases taken.symm.trans next
    exact ⟨by rw [TokenStream.tokens, drained], stream.drain_finish⟩
  | case3 stream after taken =>
    obtain ⟨_, _, next, -⟩ | ⟨_, next, -⟩ | ⟨next, drained⟩ := stream.next?_cases
    all_goals cases taken.symm.trans next
    exact ⟨by rw [TokenStream.tokens, drained], stream.drain_finish⟩

end TokenStream

namespace StreamAnswer

/-- The outcome of parsing some tokens, as an answer. -/
def ofTokens (ring : PackedRing) (tokens : List Token) : StreamAnswer :=
  let (result, memory) := parseTokens ring.ring tokens ring.memory
  .parsed ring (result.mapError .unparsed, memory)

/-- The error of a text, as the answer to parsing it.  The ring remembers what it did before. -/
def ofError (ring : PackedRing) (error : LexError) : StreamAnswer :=
  .parsed ring (.error (.unreadable error), ring.memory)

/-- The answer to parsing a stream that gives some tokens and perhaps an error. -/
def ofDrained (ring : PackedRing) : List Token × Option LexError → StreamAnswer
  | (tokens, none) => ofTokens ring tokens
  | (_, some error) => ofError ring error

end StreamAnswer

namespace TokenStream

/-- Tokens and perhaps an error, one after the other. -/
def items : List Token × Option LexError → List (Except LexError Token)
  | (tokens, error) => tokens.map .ok ++ error.toList.map .error

/-- What draining gives once some items are taken. -/
def left (drained : List Token × Option LexError) (taken : Nat) : List Token × Option LexError :=
  if taken ≤ drained.1.length then (drained.1.drop taken, drained.2) else ([], none)

theorem left_left_one (drained : List Token × Option LexError) (taken : Nat) :
    left (left drained taken) 1 = left drained (taken + 1) := by
  unfold left
  split
  next within =>
    simp only [List.length_drop, List.drop_drop]
    by_cases more : taken + 1 ≤ drained.1.length
    · rw [if_pos (by omega), if_pos more]
    · rw [if_neg (by omega), if_neg more]
  next beyond =>
    rw [if_neg (by decide), if_neg (by omega)]

theorem head?_items_left (drained : List Token × Option LexError) (taken : Nat) :
    (items (left drained taken)).head? = (items drained)[taken]? := by
  obtain ⟨tokens, error⟩ := drained
  unfold left
  split
  next within =>
    have same : items (tokens.drop taken, error) = (items (tokens, error)).drop taken := by
      rw [items, items, List.drop_append_of_le_length (by simpa using within), List.map_drop]
    rw [same, List.head?_drop]
  next beyond =>
    -- Even the error, if there is one, stands before this place.
    have short : (items (tokens, error)).length ≤ taken := by
      rw [items]
      cases error <;> simp at beyond ⊢ <;> omega
    rw [List.getElem?_eq_none short]
    rfl

theorem serve_next (stream : TokenStream) :
    (stream.serve .next).1 = .item (items stream.drain).head? ∧
      (stream.serve .next).2.drain = left stream.drain 1 := by
  obtain ⟨token, after, next, drained⟩ | ⟨error, next, drained⟩ | ⟨next, drained⟩ :=
    stream.next?_cases
  · rw [serve, next, drained]
    exact ⟨rfl, rfl⟩
  all_goals
    rw [serve, next, drained]
    exact ⟨rfl, stream.drain_finish⟩

theorem serve_parse (stream : TokenStream) (ring : PackedRing) :
    (stream.serve (.parse ring)).1 = .ofDrained ring stream.drain ∧
      (stream.serve (.parse ring)).2.drain = ([], none) := by
  obtain ⟨same, finished⟩ := stream.takeAll_eq
  rw [serve, parseStream]
  cases taken : stream.takeAll with
  | mk read after =>
    rw [taken] at same finished
    obtain rfl : read = stream.tokens := same
    rw [TokenStream.tokens]
    obtain ⟨tokens, _ | error⟩ := stream.drain
    · exact ⟨rfl, finished⟩
    · exact ⟨rfl, finished⟩

/-! ### Several uses -/

/-- A stream after some uses of it. -/
def afterUses (stream : TokenStream) (uses : List StreamUse) : TokenStream :=
  uses.foldl (fun stream use => (stream.serve use).2) stream

theorem afterUses_append (stream : TokenStream) (first second : List StreamUse) :
    stream.afterUses (first ++ second) = (stream.afterUses first).afterUses second :=
  List.foldl_append

theorem drain_afterUses_next (stream : TokenStream) (taken : Nat) :
    (stream.afterUses (List.replicate taken .next)).drain = left stream.drain taken := by
  induction taken with
  | zero => rfl
  | succ taken inductionHypothesis =>
    rw [List.replicate_succ', afterUses_append, ← left_left_one, ← inductionHypothesis]
    exact (serve_next _).2

/-- Once nothing is left, nothing is left until the stream is made anew. -/
theorem drain_afterUses_of_nil {stream : TokenStream} (ended : stream.drain = ([], none))
    {uses : List StreamUse} (kept : ∀ text, .renew text ∉ uses) :
    (stream.afterUses uses).drain = ([], none) := by
  induction uses generalizing stream with
  | nil => exact ended
  | cons use rest inductionHypothesis =>
    have keptRest : ∀ text, .renew text ∉ rest :=
      fun text member => kept text (List.mem_cons_of_mem use member)
    refine inductionHypothesis ?_ keptRest
    cases use with
    | renew text => exact absurd List.mem_cons_self (kept text)
    | next => rw [stream.serve_next.2, ended]; rfl
    | parse ring => exact (stream.serve_parse ring).2

theorem drain_afterUses_of_parse {stream : TokenStream} {uses : List StreamUse}
    {ring : PackedRing} (parsed : .parse ring ∈ uses) (kept : ∀ text, .renew text ∉ uses) :
    (stream.afterUses uses).drain = ([], none) := by
  obtain ⟨before, since, rfl⟩ := List.append_of_mem parsed
  have ended := ((stream.afterUses before).serve_parse ring).2
  rw [afterUses_append]
  refine drain_afterUses_of_nil ended fun text member => ?_
  exact kept text (List.mem_append_right before (List.mem_cons_of_mem _ member))

/-- Whoever asks for an item more often than there are tokens finds nothing left, error or not. -/
theorem drain_afterUses_of_beyond {stream : TokenStream} {uses : List StreamUse}
    (kept : ∀ text, .renew text ∉ uses) (beyond : stream.drain.1.length < uses.length) :
    (stream.afterUses uses).drain = ([], none) := by
  by_cases parsed : ∃ ring, .parse ring ∈ uses
  · obtain ⟨ring, parsed⟩ := parsed
    exact drain_afterUses_of_parse parsed kept
  · have taking : uses = List.replicate uses.length .next := by
      refine List.eq_replicate_of_mem fun use member => ?_
      cases use with
      | renew text => exact absurd member (kept text)
      | next => rfl
      | parse ring => exact absurd ⟨ring, member⟩ parsed
    rw [taking, drain_afterUses_next, left, if_neg (Nat.not_le_of_lt beyond)]

/-- The answer that a stream of a text gives, alone and after some uses of it. -/
def answerAlone (text : String) (since : List StreamUse) (use : StreamUse) : StreamAnswer :=
  (((ofString text).afterUses since).serve use).1

end TokenStream

/-! ## Banks -/

/-- The uses of the stream of a name among some requests. -/
def usesOf {ι : Type} [DecidableEq ι] (name : ι) (requests : List (StreamRequest ι)) :
    List StreamUse :=
  requests.filterMap fun request => if request.name = name then some request.use else none

theorem usesOf_cons {ι : Type} [DecidableEq ι] (name : ι) (request : StreamRequest ι)
    (rest : List (StreamRequest ι)) :
    usesOf name (request :: rest) =
      if request.name = name then request.use :: usesOf name rest else usesOf name rest := by
  unfold usesOf
  split
  next same => exact List.filterMap_cons_some (if_pos same)
  next other => exact List.filterMap_cons_none (if_neg other)

namespace StreamBank

variable {ι : Type} [DecidableEq ι]

/-- A bank after some requests. -/
def afterRequests (bank : StreamBank ι) (requests : List (StreamRequest ι)) : StreamBank ι :=
  requests.foldl (fun bank request => (bank.serve request).2) bank

theorem stream_serve (bank : StreamBank ι) (request : StreamRequest ι) (name : ι) :
    (bank.serve request).2.stream name =
      if request.name = name then ((bank.stream name).serve request.use).2
      else bank.stream name := by
  change (if name = request.name then ((bank.stream request.name).serve request.use).2
    else bank.stream name) = _
  split
  next same =>
    subst same
    exact (if_pos rfl).symm
  next other => exact (if_neg (Ne.symm other)).symm

/-- A stream is where its own uses have brought it. -/
theorem stream_afterRequests (bank : StreamBank ι) (requests : List (StreamRequest ι)) (name : ι) :
    (bank.afterRequests requests).stream name =
      (bank.stream name).afterUses (usesOf name requests) := by
  induction requests generalizing bank with
  | nil => rfl
  | cons request rest inductionHypothesis =>
    have later := inductionHypothesis (bank.serve request).2
    rw [stream_serve] at later
    rw [usesOf_cons]
    refine later.trans ?_
    split
    · rfl
    · rfl

theorem answers_getElem? (bank : StreamBank ι) (past future : List (StreamRequest ι))
    (request : StreamRequest ι) :
    (bank.answers (past ++ request :: future))[past.length]? =
      some ((bank.afterRequests past).serve request).1 := by
  induction past generalizing bank with
  | nil => rfl
  | cons first rest inductionHypothesis => exact inductionHypothesis (bank.serve first).2

/-- A stream of a bank answers as a stream of the text that it was last made from, which has only
its own uses since then behind it. -/
theorem answers_eq_answerAlone (texts : ι → String) (past future : List (StreamRequest ι))
    (name : ι) (use : StreamUse) {earlier since : List StreamUse} {text : String}
    (made : .renew (texts name) :: usesOf name past = earlier ++ .renew text :: since) :
    ((ofTexts texts).answers (past ++ ⟨name, use⟩ :: future))[past.length]? =
      some (TokenStream.answerAlone text since use) := by
  have here : ((ofTexts texts).afterRequests past).stream name =
      (TokenStream.ofString text).afterUses since := by
    have whole := congrArg (default : TokenStream).afterUses made
    rw [TokenStream.afterUses_append] at whole
    rw [stream_afterRequests]
    exact whole
  rw [answers_getElem?, TokenStream.answerAlone, ← here]
  rfl

end StreamBank

/-! ## Streams side by side -/

/-- Streams that are used side by side, in any order of requests.  Each answers as it would alone,
after its own uses since it was last made; those that a bank begins with count as made at the start.

Alone, a stream of a text gives the tokens of the text in order, then the error at which reading
stops if there is one, and then nothing.  Parsing it after some of its tokens were taken is parsing
the other tokens, unless there is an error: then that is the answer, and the ring is left as it was.
Once it is parsed or has given all it has, a stream is at its end until it is made anew.  A stream
from which nothing was taken is parsed as its text is, but for an error of the text, which is not
made an error of the expression. -/
theorem streams_answer_alone {ι : Type} [DecidableEq ι] (texts : ι → String)
    (past future : List (StreamRequest ι)) (name : ι) (use : StreamUse)
    (earlier since : List StreamUse) (text : String)
    (made : .renew (texts name) :: usesOf name past = earlier ++ .renew text :: since)
    (tokens : List Token) (error : Option LexError)
    (reads : (TokenStream.ofString text).drain = (tokens, error)) :
    ((StreamBank.ofTexts texts).answers (past ++ ⟨name, use⟩ :: future))[past.length]? =
        some (TokenStream.answerAlone text since use) ∧
      (∀ taken, TokenStream.answerAlone text (List.replicate taken .next) .next =
        .item (tokens.map .ok ++ error.toList.map .error)[taken]?) ∧
      (∀ taken ring, taken ≤ tokens.length →
        TokenStream.answerAlone text (List.replicate taken .next) (.parse ring) =
          match error with
          | none => .ofTokens ring (tokens.drop taken)
          | some failure => .ofError ring failure) ∧
      (∀ uses, (∀ other, .renew other ∉ uses) →
        (∃ ring, .parse ring ∈ uses) ∨ tokens.length < uses.length →
        TokenStream.answerAlone text uses .next = .item none ∧
          ∀ ring, TokenStream.answerAlone text uses (.parse ring) = .ofTokens ring []) ∧
      ∀ ring, match error with
        | none => TokenStream.answerAlone text [] (.parse ring) =
            .parsed ring ((parse ring.ring text ring.memory).1.mapError .unparsed,
              (parse ring.ring text ring.memory).2)
        | some failure => TokenStream.answerAlone text [] (.parse ring) = .ofError ring failure ∧
            parse ring.ring text ring.memory =
              (.error (.refused failure.toParseError), ring.memory) := by
  have drained := fun taken => (TokenStream.ofString text).drain_afterUses_next taken
  rw [reads] at drained
  have within : ∀ taken ring, taken ≤ tokens.length →
      TokenStream.answerAlone text (List.replicate taken .next) (.parse ring) =
        .ofDrained ring (tokens.drop taken, error) := by
    intro taken ring bound
    rw [TokenStream.answerAlone, (TokenStream.serve_parse _ ring).1, drained, TokenStream.left,
      if_pos bound]
  refine ⟨StreamBank.answers_eq_answerAlone texts past future name use made, ?_, ?_, ?_, ?_⟩
  · intro taken
    rw [TokenStream.answerAlone, (TokenStream.serve_next _).1, drained,
      TokenStream.head?_items_left]
    rfl
  · intro taken ring bound
    rw [within taken ring bound]
    cases error <;> rfl
  · intro uses kept ended
    have nothing : ((TokenStream.ofString text).afterUses uses).drain = ([], none) := by
      obtain ⟨ring, parsed⟩ | beyond := ended
      · exact TokenStream.drain_afterUses_of_parse parsed kept
      · refine TokenStream.drain_afterUses_of_beyond kept ?_
        rwa [reads]
    refine ⟨?_, fun ring => ?_⟩
    · rw [TokenStream.answerAlone, (TokenStream.serve_next _).1, nothing]
      rfl
    · rw [TokenStream.answerAlone, (TokenStream.serve_parse _ ring).1, nothing]
      rfl
  · intro ring
    have fresh := within 0 ring (Nat.zero_le _)
    cases error with
    | none =>
      refine fresh.trans ?_
      rw [parse, tokenize, TokenStream.tokens, reads]
      rfl
    | some failure =>
      refine ⟨fresh, ?_⟩
      rw [parse, tokenize, TokenStream.tokens, reads]

/-- Two streams by turns: the one is parsed as a product after its sum is taken, and the other gives
its error once. -/
theorem streams_answer_alone_by_turns :
    let texts : Bool → String := fun first => if first then "1 + 2 * 3" else "4 $"
    let turns : List (StreamRequest Bool) := [⟨true, .next⟩, ⟨false, .next⟩, ⟨true, .next⟩]
    let ring : PackedRing := ⟨Unit, CheckedInt, CheckedInt.ring Unit, (), toString⟩
    let product : Expr CheckedInt :=
      .binary .mul (.leaf ⟨2, by decide, by decide⟩) (.leaf ⟨3, by decide, by decide⟩)
    let answers := (StreamBank.ofTexts texts).answers
      (turns ++ [⟨false, .next⟩, ⟨true, .parse ring⟩, ⟨false, .next⟩, ⟨true, .next⟩])
    answers[3]? = some (.item (some (.error ⟨.invalidToken, 2⟩))) ∧
      answers[4]? = some (.parsed ring (.ok product, ())) ∧
      answers[5]? = some (.item none) ∧ answers[6]? = some (.item none) := by
  intro texts turns ring product answers
  have reads : (TokenStream.ofString "1 + 2 * 3").drain =
      ([⟨.number (some 1), 0⟩, ⟨.operator .add, 2⟩, ⟨.number (some 2), 4⟩, ⟨.operator .mul, 6⟩,
        ⟨.number (some 3), 8⟩], none) := by decide +kernel
  have fails : (TokenStream.ofString "4 $").drain =
      ([⟨.number (some 4), 0⟩], some ⟨.invalidToken, 2⟩) := by decide +kernel
  have tree : parseTokens (CheckedInt.ring Unit)
      [⟨.number (some 2), 4⟩, ⟨.operator .mul, 6⟩, ⟨.number (some 3), 8⟩] () =
        (.ok product, ()) := by decide +kernel
  refine ⟨?_, ?_, ?_, ?_⟩
  · obtain ⟨here, next, -⟩ := streams_answer_alone texts turns
      [⟨true, .parse ring⟩, ⟨false, .next⟩, ⟨true, .next⟩] false .next [] [.next] "4 $" rfl _ _
      fails
    exact here.trans (congrArg some (next 1))
  · obtain ⟨here, -, parsed, -⟩ := streams_answer_alone texts (turns ++ [⟨false, .next⟩])
      [⟨false, .next⟩, ⟨true, .next⟩] true (.parse ring) [] [.next, .next] "1 + 2 * 3" rfl _ _ reads
    refine here.trans (congrArg some ((parsed 2 ring (by decide)).trans ?_))
    change StreamAnswer.ofTokens ring [⟨.number (some 2), 4⟩, ⟨.operator .mul, 6⟩,
      ⟨.number (some 3), 8⟩] = _
    rw [StreamAnswer.ofTokens, tree]
    rfl
  · obtain ⟨here, next, -⟩ := streams_answer_alone texts
      (turns ++ [⟨false, .next⟩, ⟨true, .parse ring⟩]) [⟨true, .next⟩] false .next []
      [.next, .next] "4 $" rfl _ _ fails
    exact here.trans (congrArg some (next 2))
  · obtain ⟨here, -, -, ended, -⟩ := streams_answer_alone texts
      (turns ++ [⟨false, .next⟩, ⟨true, .parse ring⟩, ⟨false, .next⟩]) [] true .next []
      [.next, .next, .parse ring] "1 + 2 * 3" rfl _ _ reads
    have kept : ∀ other, StreamUse.renew other ∉ [.next, .next, .parse ring] := by
      intro other member
      simp at member
    exact here.trans (congrArg some (ended _ kept (.inl ⟨ring, by simp⟩)).1)

end RingCalc
