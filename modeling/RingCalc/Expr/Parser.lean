import RingCalc.Expr.Basic
import RingCalc.Halt
import RingCalc.Token.Stream

/-!
# Parsing

Tokens are read from the last to the first.  The parser holds at most one finished tree, the one to
the right of the place it has reached, and a stack of frames: operators that wait for their left
operand and right parentheses that wait for what they enclose.

Where a context ends, at the first token or at the left parenthesis of a group, the frames are
folded: the tree held becomes the left operand of the operator on top of the stack, or the content
of the group on top of the stack.  After a group is closed, reading goes on to its left.

A move either reads a token or pops a frame or ends a context, so every run ends.
-/

namespace RingCalc

/-! ## Errors -/

inductive ParseCause where
  | adjacentElements
  | missingRight
  | missingLeft
  | missingLeftParen
  | missingRightParen
  | noExpression
  | unhandled (symbol : Symbol)
  /-- The ring has no element for a literal. -/
  | literal (error : RingError)
  /-- The text has no tokens. -/
  | lexical (cause : LexCause)
  deriving DecidableEq, Repr

/-- The place where tokens stop to be an expression, and why. -/
structure ParseError where
  cause : ParseCause
  pos : Int
  deriving DecidableEq, Repr

inductive ParseErrorKind where
  | unspecified
  | tokenParseError
  | noExpression
  deriving DecidableEq, Repr

def ParseCause.message : ParseCause → String
  | .adjacentElements => "Ring element cannot be followed by another ring element in expression"
  | .missingRight => "Missing right hand side expression for operator"
  | .missingLeft => "Missing left hand side expression for operator"
  | .missingLeftParen => "Missing left parenthesis for right parenthesis"
  | .missingRightParen => "Missing right parenthesis for left parenthesis"
  | .noExpression => "No expression"
  | .unhandled symbol => "Unhandled token: " ++ symbol.text
  | .literal error => error.message
  | .lexical cause => cause.message

def ParseCause.kind : ParseCause → ParseErrorKind
  | .noExpression => .noExpression
  | .lexical _ => .tokenParseError
  | _ => .unspecified

def ParseError.message (error : ParseError) : String := error.cause.message

def ParseError.kind (error : ParseError) : ParseErrorKind := error.cause.kind

def ParseError.describe (error : ParseError) : String :=
  "Error parsing expression at position " ++ toString error.pos ++ ": " ++ error.message

/-! ## The machine -/

/-- What waits for the tree to its left. -/
inductive Frame (α : Type) where
  | operator (op : Operator) (right : Expr α) (pos : Int)
  /-- A right parenthesis, and whether a group was open when it was read. -/
  | group (pos : Int) (outerInGroup : Bool)
  deriving DecidableEq, Repr

/-- Whether the parser reads tokens or folds frames. -/
inductive Phase where
  | reading
  | folding
  deriving DecidableEq, Repr

/-- The state of the parser.  The unread tokens are kept with the next one, the rightmost, first. -/
structure ParserState (α : Type) where
  unread : List Token
  /-- The finished tree to the right of the unread tokens. -/
  held : Option (Expr α)
  inGroup : Bool
  frames : List (Frame α)
  phase : Phase
  deriving DecidableEq, Repr

inductive Move (α : Type) where
  | goto (next : ParserState α)
  /-- Asks the ring for a literal and goes on from the state with the literal held. -/
  | lift (value : Int) (pos : Int) (next : ParserState α)
  /-- Ends with the tree held, if there is one, and with some tokens unread. -/
  | finish (held : Option (Expr α)) (unread : Nat)
  | refuse (cause : ParseCause) (pos : Int)
  | fault (reason : Defect)

namespace ParserState

variable {σ α : Type}

/-- The state before any token is read. -/
def start (tokens : List Token) : ParserState α :=
  ⟨tokens.reverse, none, false, [], .reading⟩

def hold (state : ParserState α) (element : α) : ParserState α :=
  { state with held := some (.leaf element) }

/-- The move on one token, while reading. -/
def read (state : ParserState α) (token : Token) (rest : List Token) : Move α :=
  match token.symbol, state.held with
  | .leftParen, _ =>
    -- The parenthesis ends the group; it is read when the group is closed.
    if state.inGroup then .goto { state with phase := .folding }
    else .refuse .missingRightParen token.pos
  | .number _, some _ => .refuse .adjacentElements token.pos
  | .number none, none => .fault .valuelessNumber
  | .number (some value), none => .lift value token.pos { state with unread := rest }
  | .operator _, none => .refuse .missingRight token.pos
  | .operator op, some right =>
    .goto { state with
      unread := rest, held := none, frames := .operator op right token.pos :: state.frames }
  | .rightParen, some _ => .refuse .adjacentElements token.pos
  | .rightParen, none =>
    .goto { state with
      unread := rest, inGroup := true, frames := .group token.pos state.inGroup :: state.frames }
  | .mod, _ => .refuse (.unhandled .mod) token.pos

/-- The move on the frame on top of the stack, while folding. -/
def fold (state : ParserState α) (frame : Frame α) (below : List (Frame α)) : Move α :=
  match frame, state.held with
  -- Nothing stands to the left of the operator: a minus is a sign.
  | .operator .sub right _, none =>
    .goto { state with held := some (.negate right), frames := below }
  | .operator _ _ pos, none => .refuse .missingLeft pos
  | .operator op right _, some left =>
    .goto { state with held := some (left.attach op right), frames := below }
  | .group pos _, none => .refuse .noExpression pos
  | .group pos outerInGroup, some inner =>
    match state.unread with
    | ⟨.leftParen, _⟩ :: rest => .goto ⟨rest, some (.group inner), outerInGroup, below, .reading⟩
    | _ => .refuse .missingLeftParen pos

def move (state : ParserState α) : Move α :=
  match state.phase with
  | .reading =>
    match state.unread with
    | [] => .goto { state with phase := .folding }
    | token :: rest => state.read token rest
  | .folding =>
    match state.frames with
    | [] => .finish state.held state.unread.length
    | frame :: below => state.fold frame below

/-- Bounds the number of moves left. -/
def measure (state : ParserState α) : Nat :=
  2 * state.unread.length + state.frames.length +
    match state.phase with
    | .reading => 1
    | .folding => 0

theorem measure_lt_of_goto {state next : ParserState α} (moved : state.move = .goto next) :
    next.measure < state.measure := by
  obtain ⟨unread, held, inGroup, frames, phase⟩ := state
  cases phase with
  | reading =>
    cases unread with
    | nil =>
      cases moved
      simp [measure]
    | cons token rest =>
      simp only [move, read] at moved
      repeat' split at moved
      all_goals cases moved
      all_goals simp only [measure, List.length_cons]
      all_goals omega
  | folding =>
    cases frames with
    | nil => cases moved
    | cons frame below =>
      simp only [move, fold] at moved
      repeat' split at moved
      all_goals cases moved
      all_goals simp_all only [measure, List.length_cons]
      all_goals omega

theorem measure_lt_of_lift {state next : ParserState α} {value pos : Int}
    (moved : state.move = .lift value pos next) (element : α) :
    (next.hold element).measure < state.measure := by
  obtain ⟨unread, held, inGroup, frames, phase⟩ := state
  cases phase with
  | reading =>
    cases unread with
    | nil => cases moved
    | cons token rest =>
      simp only [move, read] at moved
      repeat' split at moved
      all_goals cases moved
      simp only [measure, hold, List.length_cons]
      omega
  | folding =>
    cases frames with
    | nil => cases moved
    | cons frame below =>
      simp only [move, fold] at moved
      repeat' split at moved
      all_goals cases moved

/-- Runs the parser to its end: the tree held there, if any, and the number of tokens unread. -/
def run (ring : Ring σ α) (state : ParserState α) (memory : σ) :
    Except (Halt ParseError) (Option (Expr α) × Nat) × σ :=
  match _moved : state.move with
  | .goto next => run ring next memory
  | .lift value pos next =>
    match ring.ofInt value memory with
    | (.ok element, memory) => run ring (next.hold element) memory
    | (.error error, memory) => (.error (.refused ⟨.literal error, pos⟩), memory)
  | .finish held unread => (.ok (held, unread), memory)
  | .refuse cause pos => (.error (.refused ⟨cause, pos⟩), memory)
  | .fault reason => (.error (.defect reason), memory)
termination_by state.measure
decreasing_by
  · exact measure_lt_of_goto _moved
  · exact measure_lt_of_lift _moved element

end ParserState

/-! ## Parsing tokens and texts -/

/-- What is made of the end of a run: all tokens must be read and a tree must be held. -/
def Expr.ofRun {α : Type} : Option (Expr α) × Nat → Except (Halt ParseError) (Expr α)
  | (_, count + 1) => .error (.defect (.tokensLeft (count + 1)))
  | (none, 0) => .error (.refused ⟨.noExpression, 0⟩)
  | (some expr, 0) => .ok expr

def parseTokens {σ α : Type} (ring : Ring σ α) (tokens : List Token) (memory : σ) :
    Except (Halt ParseError) (Expr α) × σ :=
  match (ParserState.start tokens).run ring memory with
  | (.ok result, memory) => (Expr.ofRun result, memory)
  | (.error halt, memory) => (.error halt, memory)

/-- The error of a text as an error of the expression that was looked for. -/
def LexError.toParseError (error : LexError) : ParseError := ⟨.lexical error.cause, error.pos⟩

def parse {σ α : Type} (ring : Ring σ α) (source : String) (memory : σ) :
    Except (Halt ParseError) (Expr α) × σ :=
  match tokenize source with
  | .ok tokens => parseTokens ring tokens memory
  | .error error => (.error (.refused error.toParseError), memory)

end RingCalc
