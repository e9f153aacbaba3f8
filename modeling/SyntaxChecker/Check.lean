import SyntaxChecker.Analyser
import SyntaxChecker.SourceText

/-!
# Checking texts and files

To check a text is to run an analyser over a lexer for it. The sink is given by
the caller and comes back as the check leaves it, also where the check fails.
-/

namespace SyntaxChecker

/-- What messages call a text that has no name. -/
def unnamedInput : String := "<input>"

/-- Check the tokens of a supply. -/
def checkSupply {σ τ : Type} [Supply σ] [Listener τ]
    (supply : σ) (sink : τ) (sourceName : String) : Outcome × τ :=
  match Analyser.start supply sink sourceName with
  | .error e => (.error e, sink)
  | .ok a =>
    let (outcome, b) := a.checkProgram
    (outcome, b.sink)

/-- Check a text. -/
def checkText {τ : Type} [Listener τ] (text : String) (sink : τ) (sourceName : String) :
    Outcome × τ :=
  checkSupply (Lexer.ofText text) sink sourceName

/-- Check the text of a file, under the file's name. -/
def checkFile {τ : Type} [Listener τ] (read : SourceText.Reader) (path : String) (sink : τ) :
    Outcome × τ :=
  match SourceText.load read path with
  | .error f => (.error (Raised.fresh f), sink)
  | .ok text => checkText text sink path

end SyntaxChecker
