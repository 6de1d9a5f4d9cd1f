import RingCalc.Operator

/-!
# Tokens

A token is a symbol together with the place where it begins.  Places count characters from the
start of the text.  Tokens read from a text always carry the value of their number; tokens made by
hand may leave it out or stand anywhere, so the value is optional and the place is an integer.
-/

namespace RingCalc

inductive Symbol where
  | number (value : Option Int)
  | operator (op : Operator)
  | mod
  | leftParen
  | rightParen
  deriving DecidableEq, Repr, Inhabited

/-- A symbol and the place where it begins. -/
structure Token where
  symbol : Symbol
  pos : Int
  deriving DecidableEq, Repr, Inhabited

/-- The text that shows a symbol: a number in its shortest decimal form, all else as it is written. -/
def Symbol.text : Symbol → String
  | .number (some value) => toString value
  | .number none => "?"
  | .operator op => op.sign.toString
  | .mod => "mod"
  | .leftParen => "("
  | .rightParen => ")"

def Token.text (token : Token) : String := token.symbol.text

/-- The texts of some tokens, with a space between neighbours. -/
def Token.textOfAll (tokens : List Token) : String :=
  " ".intercalate (tokens.map Token.text)

end RingCalc
