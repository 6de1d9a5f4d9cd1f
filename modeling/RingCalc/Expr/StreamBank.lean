import RingCalc.Expr.Parser
import RingCalc.Ring.Packed

/-!
# Banks of token streams

Several token streams may be in use at the same time, each under a name of its own.  A stream is
made anew from a text, asked for its next token, or handed to the parser, which takes everything
that is left of it before it looks at a token.  A bank serves such requests in any order.
-/

namespace RingCalc

/-! ## Parsing what is left of a stream -/

namespace TokenStream

theorem length_of_next? {stream after : TokenStream} {token : Token}
    (taken : stream.next? = (some (.ok token), after)) :
    after.rest.length < stream.rest.length := by
  unfold next? at taken
  split at taken
  next pulled =>
    cases taken
    exact length_of_pull pulled
  · cases taken
  · cases taken

/-- Takes one token after the other, until there is none or one cannot be read. -/
def takeAll (stream : TokenStream) : Except LexError (List Token) × TokenStream :=
  match _taken : stream.next? with
  | (some (.ok token), after) =>
    let (tokens, last) := after.takeAll
    (tokens.map (token :: ·), last)
  | (some (.error error), after) => (.error error, after)
  | (none, after) => (.ok [], after)
termination_by stream.rest.length
decreasing_by exact length_of_next? _taken

end TokenStream

/-- Why there is no tree for what is left of a stream. -/
inductive StreamHalt where
  /-- Its tokens cannot all be read. -/
  | unreadable (error : LexError)
  | unparsed (halt : Halt ParseError)
  deriving DecidableEq, Repr

/-- Parses what is left of a stream.  The ring is not asked for anything before all tokens are
taken. -/
def parseStream {σ α : Type} (ring : Ring σ α) (stream : TokenStream) (memory : σ) :
    (Except StreamHalt (Expr α) × σ) × TokenStream :=
  match stream.takeAll with
  | (.ok tokens, after) =>
    let (result, memory) := parseTokens ring tokens memory
    ((result.mapError .unparsed, memory), after)
  | (.error error, after) => ((.error (.unreadable error), memory), after)

/-! ## Requests -/

/-- What may be done with a stream. -/
inductive StreamUse where
  /-- A stream of the text takes its place. -/
  | renew (text : String)
  | next
  /-- It is parsed over a ring, which comes with what it remembers by then. -/
  | parse (ring : PackedRing)

inductive StreamAnswer where
  | renewed
  | item (item : Option (Except LexError Token))
  | parsed (ring : PackedRing) (outcome : Except StreamHalt (Expr ring.Elem) × ring.Memory)

/-- The answer of a stream to a use of it, and the stream afterwards. -/
def TokenStream.serve (stream : TokenStream) : StreamUse → StreamAnswer × TokenStream
  | .renew text => (.renewed, .ofString text)
  | .next =>
    let (item, after) := stream.next?
    (.item item, after)
  | .parse ring =>
    let (outcome, after) := parseStream ring.ring stream ring.memory
    (.parsed ring outcome, after)

/-- The use of the stream of a name. -/
structure StreamRequest (ι : Type) where
  name : ι
  use : StreamUse

/-! ## Banks -/

/-- Token streams by name. -/
structure StreamBank (ι : Type) where
  stream : ι → TokenStream

namespace StreamBank

variable {ι : Type}

/-- The streams of some texts, from which nothing has been taken. -/
def ofTexts (texts : ι → String) : StreamBank ι := ⟨fun name => .ofString (texts name)⟩

variable [DecidableEq ι]

def set (bank : StreamBank ι) (name : ι) (stream : TokenStream) : StreamBank ι :=
  ⟨fun other => if other = name then stream else bank.stream other⟩

def serve (bank : StreamBank ι) (request : StreamRequest ι) : StreamAnswer × StreamBank ι :=
  let (answer, after) := (bank.stream request.name).serve request.use
  (answer, bank.set request.name after)

/-- The answers to some requests, one after the other. -/
def answers (bank : StreamBank ι) : List (StreamRequest ι) → List StreamAnswer
  | [] => []
  | request :: rest =>
    let (answer, after) := bank.serve request
    answer :: after.answers rest

end StreamBank

end RingCalc
