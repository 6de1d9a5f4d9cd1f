import RingCalc.Text.Blank
import RingCalc.Token

/-!
# Token streams

A token stream is the unread part of a text and the place where that part begins.  Tokens are taken
from it one at a time and on demand; the first text that is no token ends it for good.  Every token
taken leaves a shorter rest, so a stream can always be drained.
-/

namespace RingCalc

inductive LexCause where
  | invalidToken
  | numberTooBig
  deriving DecidableEq, Repr, Inhabited

/-- The place where no token can be read, and why. -/
structure LexError where
  cause : LexCause
  pos : Nat
  deriving DecidableEq, Repr, Inhabited

def LexCause.message : LexCause → String
  | .invalidToken => "Invalid token"
  | .numberTooBig => "Decimal number too big"

def LexError.message (error : LexError) : String := error.cause.message

def LexError.describe (error : LexError) : String :=
  "Unparseable input at position " ++ toString error.pos ++ ": " ++ error.message

/-! ## Single symbols -/

/-- The largest number that may be written: the largest signed 64-bit integer, `2 ^ 63 - 1`. -/
def maxLiteral : Nat := 9223372036854775807

/-- The most digits a number may have, leading zeros apart. -/
def maxLiteralDigits : Nat := 19

/-- The value of a run of digits, if it is small enough.  A run with too many digits is refused by
its length alone, before its value is worked out. -/
def literalValue? (digits : List Char) : Option Nat :=
  let significant := digits.dropWhile (· = '0')
  -- Leading zeros count for nothing, however many there are.
  if maxLiteralDigits < significant.length then none
  else
    let value := Nat.ofDigitChars 10 significant 0
    if maxLiteral < value then none else some value

/-- The symbol that a character alone makes up. -/
def Symbol.ofChar? : Char → Option Symbol
  | '(' => some .leftParen
  | ')' => some .rightParen
  | '+' => some (.operator .add)
  | '-' => some (.operator .sub)
  | '*' => some (.operator .mul)
  | '/' => some (.operator .div)
  | _ => none

/-- The symbol at the front of a text that begins with the character given, and the number of
characters that it takes.  A run of digits is taken as a whole. -/
def Symbol.front (c : Char) (rest : List Char) : Except LexCause (Symbol × Nat) :=
  match Symbol.ofChar? c with
  | some symbol => .ok (symbol, 1)
  | none =>
    if c = 'm' then
      if rest.take 2 = ['o', 'd'] then .ok (.mod, 3) else .error .invalidToken
    else if c.isDigit then
      let run := c :: rest.takeWhile Char.isDigit
      match literalValue? run with
      | some value => .ok (.number (some value), run.length)
      | none => .error .numberTooBig
    else .error .invalidToken

theorem Symbol.front_pos {c : Char} {rest : List Char} {symbol : Symbol} {width : Nat}
    (found : Symbol.front c rest = .ok (symbol, width)) : 0 < width := by
  simp only [Symbol.front] at found
  repeat' split at found
  all_goals simp at found
  all_goals omega

/-! ## Streams -/

/-- The unread part of a text and the place where it begins. -/
structure TokenStream where
  rest : List Char
  pos : Nat
  deriving DecidableEq, Repr, Inhabited

namespace TokenStream

def ofList (text : List Char) : TokenStream := ⟨text, 0⟩

def ofString (text : String) : TokenStream := ofList text.toList

def skip (stream : TokenStream) (count : Nat) : TokenStream :=
  ⟨stream.rest.drop count, stream.pos + count⟩

def skipBlanks (stream : TokenStream) : TokenStream :=
  ⟨stream.rest.dropWhile Text.isBlank,
    stream.pos + (stream.rest.takeWhile Text.isBlank).length⟩

/-- A stream from which nothing more can be taken. -/
def finish (stream : TokenStream) : TokenStream := ⟨[], stream.pos⟩

inductive Pull where
  | token (token : Token) (after : TokenStream)
  | failure (error : LexError)
  | finished

/-- Looks at the front of a stream that does not begin with a blank. -/
def pullHere (stream : TokenStream) : Pull :=
  match stream.rest with
  | [] => .finished
  | c :: rest =>
    match Symbol.front c rest with
    | .ok (symbol, width) => .token ⟨symbol, stream.pos⟩ (stream.skip width)
    | .error cause => .failure ⟨cause, stream.pos⟩

/-- Looks at the front of a stream, blanks apart. -/
def pull (stream : TokenStream) : Pull := stream.skipBlanks.pullHere

theorem length_skipBlanks_le (stream : TokenStream) :
    stream.skipBlanks.rest.length ≤ stream.rest.length :=
  (List.dropWhile_sublist Text.isBlank).length_le

theorem length_of_pullHere {stream after : TokenStream} {token : Token}
    (pulled : stream.pullHere = .token token after) : after.rest.length < stream.rest.length := by
  unfold pullHere at pulled
  split at pulled
  · cases pulled
  · rename_i front
    split at pulled
    · rename_i found
      have positive := Symbol.front_pos found
      cases pulled
      simp only [skip, List.length_drop, front, List.length_cons]
      omega
    · cases pulled

theorem length_of_pull {stream after : TokenStream} {token : Token}
    (pulled : stream.pull = .token token after) : after.rest.length < stream.rest.length :=
  Nat.lt_of_lt_of_le (length_of_pullHere pulled) stream.length_skipBlanks_le

/-- Takes the next token.  There is none at the end of the text; where the text is no token, the
error is given once and the stream is at its end from then on. -/
def next? (stream : TokenStream) : Option (Except LexError Token) × TokenStream :=
  match stream.pull with
  | .token token after => (some (.ok token), after)
  | .failure error => (some (.error error), stream.finish)
  | .finished => (none, stream.finish)

/-- All tokens of a stream up to its end or to the first error, which is given too. -/
def drain (stream : TokenStream) : List Token × Option LexError :=
  match _pulled : stream.pull with
  | .token token after =>
    let (tokens, error) := after.drain
    (token :: tokens, error)
  | .failure error => ([], some error)
  | .finished => ([], none)
termination_by stream.rest.length
decreasing_by exact length_of_pull _pulled

def tokens (stream : TokenStream) : Except LexError (List Token) :=
  match stream.drain with
  | (tokens, none) => .ok tokens
  | (_, some error) => .error error

end TokenStream

def tokenize (text : String) : Except LexError (List Token) :=
  (TokenStream.ofString text).tokens

end RingCalc
