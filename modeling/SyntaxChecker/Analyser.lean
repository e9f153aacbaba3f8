import SyntaxChecker.Grammar
import SyntaxChecker.Sink
import SyntaxChecker.Supply

/-!
# The analyser

An analyser checks the tokens of a supply against the grammar, one token ahead,
and reports to a sink. It holds the token that comes next, the *lookahead*, and
nothing else of the input; so what it does depends on the lookahead's symbol
alone, and the parts of a program it has passed are with the sink.

What an analyser can do is an `Action`: it ends well or with a fault, and in
either case leaves the analyser in some state, from where it can go on. The
actions are few.

* `accept` takes the lookahead if it has the right symbol. The sink hears of it
  before the next token is taken, so a fault of the supply leaves the accepted
  token in place.
* `mismatch` reports that the lookahead does not fit.
* `bracket` runs the body of a rule between the notices that the rule is entered
  and left. A syntactic fault of the body leaves the rule as the cause of the
  rule's own error; every other fault passes. The notice that the rule is
  left is sent in any case, and if that raises a fault, it is the one that
  counts.
* `follow` interprets a phrase of the grammar by these three.

Rules are recursive, and so is `follow`, to a depth that is given beforehand.
Between two tokens only a few rules can be entered, so a depth in proportion to
the tokens that the supply still has is never reached; `checkRule` and
`checkProgram` provide for it.
-/

namespace SyntaxChecker

/-- A check in progress. -/
structure Analyser (σ τ : Type) where
  supply : σ
  sink : τ
  /-- The token that comes next. -/
  lookahead : Token
  /-- What messages call the input. -/
  sourceName : String
  deriving Repr

/-- Something an analyser can do. -/
abbrev Action (σ τ : Type) := Analyser σ τ → Outcome × Analyser σ τ

/-! ## Sequence -/

namespace Action

variable {σ τ : Type}

/-- Do nothing. -/
def done : Action σ τ := fun a => (.ok (), a)

/-- Raise a fault and do nothing else. -/
def raise (r : Raised) : Action σ τ := fun a => (.error r, a)

/-- One action after the other. A fault of the first is the fault of both. -/
def andThen (first second : Action σ τ) : Action σ τ := fun a =>
  match first a with
  | (.ok (), b) => second b
  | (.error e, b) => (.error e, b)

/-- Choose by the lookahead: the first action if its symbol is among those
given, or else the second. -/
def ifNext (symbols : List Symbol) (first second : Action σ τ) : Action σ τ := fun a =>
  if a.lookahead.symbol ∈ symbols then first a else second a

end Action

/-! ## Messages -/

/-- The wording of every error message. -/
def errorMessage (sourceName : String) (line : Int) (expected found : String) : String :=
  "Syntax error at line " ++ toString line ++ " in " ++ sourceName ++ ": expected " ++ expected
    ++ " but found " ++ found ++ "."

namespace Analyser

variable {σ τ : Type}

/-- The message that a token is not what was expected. -/
def message (a : Analyser σ τ) (expected : String) (actual : Token) : String :=
  errorMessage a.sourceName actual.line expected actual.found

/-- The error of a rule that is left by a syntactic fault. If it all
began with a lexical error, the lookahead has nothing to do with it, and the
error tells the place and the text where the lexer stopped. Otherwise it tells
the lookahead. -/
def ruleError (a : Analyser σ τ) (expected : String) (cause : Raised) : GrammarError :=
  match cause.innermost with
  | .lexical e =>
    ⟨errorMessage a.sourceName e.line expected e.found, none, some e.line⟩
  | _ => ⟨a.message expected a.lookahead, some a.lookahead, none⟩

/-- What becomes of a fault that leaves a rule: a syntactic one becomes the
cause of the rule's own, every other one passes. -/
def wrap (a : Analyser σ τ) (expected : String) (r : Raised) : Raised :=
  if r.isSyntactic then Raised.because (.grammar (a.ruleError expected r)) r else r

/-- What becomes of the outcome of a rule's body when the rule is left. -/
def settle (a : Analyser σ τ) (expected : String) : Outcome → Outcome
  | .ok () => .ok ()
  | .error r => .error (a.wrap expected r)

/-! ## The actions -/

variable [Listener τ]

/-- Tell the sink something. -/
def notify (n : Notice) : Action σ τ := fun ⟨supply, sink, lookahead, sourceName⟩ =>
  match Listener.notify n sink with
  | (outcome, s) => (outcome, ⟨supply, s, lookahead, sourceName⟩)

/-- Report that the lookahead is not what was expected. A sink that is told has
to raise the error; if it does not, that is a fault of its own. -/
def mismatch (expected : String) : Action σ τ := fun a =>
  match Listener.report a.lookahead (a.message expected a.lookahead) a.sink with
  | (.error e, s) => (.error e, { a with sink := s })
  | (.ok (), s) => (.error (Raised.fresh (.unreported (Listener.title s))), { a with sink := s })

/-- Run the body of a rule between the notices that it is entered and left. -/
def bracket (r : Rule) (body : Action σ τ) : Action σ τ := fun a =>
  match notify (.event (.enter r.label)) a with
  | (.error e, b) => (.error e, b)
  | (.ok (), b) =>
    match body b with
    | (outcome, c) =>
      match notify (.event (.exit r.label)) c with
      | (.error e, d) => (.error e, d)
      | (.ok (), d) => (d.settle r.expectation outcome, d)

variable [Supply σ]

/-- Take the next token from the supply. -/
def advance : Action σ τ := fun a =>
  match Supply.pull a.supply with
  | (.ok t, s) => (.ok (), { a with supply := s, lookahead := t })
  | (.error e, s) => (.error e, { a with supply := s })

/-- Take the lookahead if it has the given symbol. -/
def accept (symbol : Symbol) : Action σ τ := fun a =>
  if a.lookahead.symbol = symbol then
    (Action.andThen (notify (.event (.terminal a.lookahead))) advance) a
  else mismatch ("'" ++ symbol.displayName ++ "'") a

/-- Interpret a phrase, given how to interpret those that it refers to: the
productions of its rules, and the rest of its repetitions. -/
def followWith (call : Phrase → Action σ τ) : Phrase → Action σ τ
  | .empty => Action.done
  | .unmet expected => mismatch expected
  | .terminal s => accept s
  | .rule r => bracket r (call r.production)
  | .seq p q => Action.andThen (followWith call p) (followWith call q)
  | .alt p q => Action.ifNext p.starters (followWith call p) (followWith call q)
  | .star p =>
    Action.ifNext p.starters (Action.andThen (followWith call p) (call (.star p))) Action.done

/-- Interpret a phrase, to the given depth of nesting. -/
def follow : Nat → Phrase → Action σ τ
  | 0 => fun _ => Action.raise (Raised.fresh .tooDeep)
  | depth + 1 => followWith (follow depth)

/-! ## Checking -/

/-- An analyser over a supply. It takes the first token at once, so that may
fail. -/
def start (supply : σ) (sink : τ) (sourceName : String) : Except Raised (Analyser σ τ) :=
  match Supply.pull supply with
  | (.ok t, s) => .ok ⟨s, sink, t, sourceName⟩
  | (.error e, _) => .error e

/-- A depth of nesting that the tokens still to come cannot reach. -/
def depthBound (a : Analyser σ τ) : Nat := 8 * (Supply.pending a.supply + 2)

/-- Check that a rule comes next. -/
def checkRule (r : Rule) : Action σ τ := fun a => follow a.depthBound (.rule r) a

/-- Check that a program comes, and then the end of the input. -/
def checkProgram : Action σ τ :=
  Action.andThen (checkRule .statementPart) (Action.andThen (accept .eof) (notify .success))

end Analyser

end SyntaxChecker
