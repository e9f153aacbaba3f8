import SyntaxChecker.Proofs.Analyser.Course

/-!
# The shape of an error

The error of a call tells how it came about. Its chain holds one error for each
rule that was open when the checking stopped, outermost rule first, and behind
them the error that stopped it, with whatever causes that had already
(`Call.chain_of_error`).

The errors of the rules differ in nothing but what they expected. They agree on
the line and on what was found there, which is their *blame*: the lookahead as
a rule, but the place where the lexer stopped if the far end of the chain is a
lexical error (`Fault.blame`). This takes no account of the order in which the
rules are left, since a new link in front leaves the far end of a chain where
it is, and leaving a rule does not touch the lookahead.

Errors that are not syntactic pass all rules unchanged.
-/

namespace SyntaxChecker

open Listener

/-! ## Blame -/

/-- What the errors of all rules that are left by an error have in common. -/
structure Blame where
  line : Int
  found : String
  token : Option Token
  givenLine : Option Int
  deriving DecidableEq, Repr

/-- The blame for a fault at the far end of a chain. A lexical error is to blame
itself, and of other faults the lookahead is accused. -/
def Fault.blame (lookahead : Token) : Fault → Blame
  | .lexical e => ⟨e.line, e.found, none, some e.line⟩
  | _ => ⟨lookahead.line, lookahead.found, some lookahead, none⟩

/-- The error of a rule that blames what it is left by. -/
def Blame.link (b : Blame) (sourceName : String) (r : Rule) : Fault :=
  .grammar ⟨"Syntax error at line " ++ toString b.line ++ " in " ++ sourceName ++ ": expected "
    ++ r.expectation ++ " but found " ++ b.found ++ ".", b.token, b.givenLine⟩

namespace Analyser

variable {σ τ : Type} (a : Analyser σ τ) (rules : List Rule) (origin : Raised)

theorem grammar_ruleError (r : Rule) (e : Raised) :
    Fault.grammar (a.ruleError r.expectation e)
      = (e.innermost.blame a.lookahead).link a.sourceName r := by
  unfold ruleError
  generalize e.innermost = root
  cases root <;> rfl

theorem wrap_of_isSyntactic {e : Raised} (h : e.isSyntactic = true) (r : Rule) :
    a.wrap r.expectation e
      = Raised.because ((e.innermost.blame a.lookahead).link a.sourceName r) e := by
  rw [wrap, if_pos h, grammar_ruleError]

variable {origin}

/-- An error that is not syntactic passes all rules. -/
theorem wrapped_of_not_isSyntactic (h : origin.isSyntactic = false) :
    a.wrapped rules origin = origin := by
  induction rules with
  | nil => rfl
  | cons r rules ih =>
    show a.wrap r.expectation (a.wrapped rules origin) = origin
    rw [ih, wrap, h]
    rfl

/-- **One link for each rule**, and all with the same blame. -/
theorem wrapped_of_isSyntactic (h : origin.isSyntactic = true) :
    (a.wrapped rules origin).isSyntactic = true
      ∧ (a.wrapped rules origin).innermost = origin.innermost
      ∧ (a.wrapped rules origin).chain
        = rules.map ((origin.innermost.blame a.lookahead).link a.sourceName) ++ origin.chain := by
  induction rules with
  | nil => exact ⟨h, rfl, rfl⟩
  | cons r rules ih =>
    obtain ⟨hsyn, hinner, hchain⟩ := ih
    -- the far end has not moved, so this rule blames the same as those inside it
    have hwrap : a.wrapped (r :: rules) origin
        = Raised.because ((origin.innermost.blame a.lookahead).link a.sourceName r)
            (a.wrapped rules origin) := by
      rw [← hinner]
      exact a.wrap_of_isSyntactic hsyn r
    rw [hwrap]
    refine ⟨rfl, ?_, ?_⟩
    · rw [Raised.innermost_because, hinner]
    · rw [Raised.chain_because, hchain]
      rfl

end Analyser

/-! ## Where a call stops -/

namespace Analyser.Halts

variable {σ : Type} [Supply σ] {D : Prop} {k l : Analyser σ Journal} {stop : List Notice}
  {origin : Raised}

theorem sink_eq (h : Halts D k stop origin l) : l.sink = k.sink.write stop := by
  cases h with
  | mismatch | supply => rfl
  | tooDeep => exact (congrArg Analyser.sink k.wrote_nil).symm

theorem sourceName_eq (h : Halts D k stop origin l) : l.sourceName = k.sourceName := by
  cases h <;> rfl

end Analyser.Halts

namespace Call

variable {σ τ : Type} [Supply σ] [Listener τ]

theorem closing_error (c : Call) (e : Raised) : c.closing (.error e) = [] := by
  cases c <;> rfl

end Call

end SyntaxChecker
