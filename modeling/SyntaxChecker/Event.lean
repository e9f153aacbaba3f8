import SyntaxChecker.Rule
import SyntaxChecker.Token

/-!
# Events and notices

While a program is checked, a listener hears how the check proceeds. An *event*
is a step of the derivation: a rule is entered, a rule is left, a terminal is
accepted. Read in order, the events of a successful check are the depth-first
walk through the derivation of the program.

A *notice* is whatever a listener may be told: an event, a token that does not
fit, or that all is well.
-/

namespace SyntaxChecker

open Text (quoted)

/-- A step of a derivation. -/
inductive Event where
  | enter (label : String)
  | exit (label : String)
  | terminal (token : Token)
  deriving DecidableEq, Repr

namespace Event

/-- An event in one line. -/
def text : Event → String
  | enter label => "enter " ++ label
  | exit label => "exit " ++ label
  | terminal t => "terminal " ++ t.symbol.name ++ " " ++ quoted t.text

/-- The token of an accepted terminal. -/
def token? : Event → Option Token
  | terminal t => some t
  | _ => none

end Event

/-- What a listener may be told. -/
inductive Notice where
  | event (e : Event)
  /-- A token does not fit, and the message says what was expected. -/
  | mismatch (token : Token) (message : String)
  | success
  deriving DecidableEq, Repr

end SyntaxChecker
