import SyntaxChecker.Symbol
import SyntaxChecker.Text.Quoted

/-!
# Tokens

A token is one classified lexeme with the place where it was found. The end of
the input is a token too, of symbol `Symbol.eof` and with no text.

Nothing ties the text of a token to its symbol: a token that was not made by
the lexer may carry any text.
-/

namespace SyntaxChecker

open Text (quoted)

/-- A lexeme, its kind, and the line and column of its first character, both
counted from one. -/
structure Token where
  symbol : Symbol
  text : String
  line : Int
  col : Int
  deriving DecidableEq, Repr, Inhabited

namespace Token

/-- The token that stands for the end of the input. -/
def endOfInput (line col : Int) : Token := ⟨.eof, "", line, col⟩

/-- Whether a token stands for the end of the input. -/
def isEof (t : Token) : Bool := t.symbol == .eof

/-- What a message says was found: the lexeme between apostrophes, as it
stands. -/
def found (t : Token) : String :=
  if t.isEof then "end of input" else "'" ++ t.text ++ "'"

/-- A token in one line: name, quoted lexeme, place. -/
def summary (t : Token) : String :=
  t.symbol.name ++ "(" ++ quoted t.text ++ ") @" ++ toString t.line ++ ":" ++ toString t.col

/-- A token with its parts labelled. -/
def detail (t : Token) : String :=
  "Token(symbol=<Symbol." ++ t.symbol.name ++ ": " ++ toString t.symbol.code ++ ">, text="
    ++ quoted t.text ++ ", line=" ++ toString t.line ++ ", col=" ++ toString t.col ++ ")"

end Token

end SyntaxChecker
