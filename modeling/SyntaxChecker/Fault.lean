import SyntaxChecker.Token

/-!
# Faults and their causes

Whatever can go wrong is a `Fault`. Two kinds matter most. A `LexicalError`
tells where the text holds nothing that could be a token, and a `GrammarError`
where the tokens leave the grammar. These two, and the bare `Fault.malformed`,
are *syntactic*: they are about the program that is checked. All others are
about its surroundings – the file it came from, the supply that delivers its
tokens, the sink that hears of the progress – and the checker lets them pass.

A fault that is on its way out of a computation is `Raised`: the fault itself
and the faults that caused it, nearest cause first. A rule of the grammar that
is left by a syntactic fault puts a fault of its own in front, so the whole
list, the *chain*, reads from the outermost rule to the point of failure.
-/

namespace SyntaxChecker

open Text (quoted)

/-! ## Syntactic errors -/

/-- The tokens leave the grammar. -/
structure GrammarError where
  message : String
  /-- The offending token, where there is one. -/
  token : Option Token
  /-- The line, for an error without a token. -/
  givenLine : Option Int
  deriving DecidableEq, Repr

/-- The line of a grammar error: that of its token if it has one. -/
def GrammarError.line (e : GrammarError) : Option Int :=
  match e.token with
  | some t => some t.line
  | none => e.givenLine

/-- A grammar error with its parts labelled. -/
def GrammarError.detail (e : GrammarError) : String :=
  let token := match e.token with
    | some t => t.detail
    | none => "None"
  "ParseError(" ++ quoted e.message ++ ", token=" ++ token ++ ")"

/-- The text holds something that begins no token. -/
structure LexicalError where
  message : String
  line : Int
  col : Int
  /-- The offending input: one character, or the rest of the line behind a
  quotation mark that is never closed. -/
  text : String
  deriving DecidableEq, Repr

/-- What a message says was found in place of a token. -/
def LexicalError.found (e : LexicalError) : String :=
  if e.text = "" then "invalid input" else "'" ++ e.text ++ "'"

/-! ## Faults -/

/-- Why a file could not be opened. -/
inductive OpenFault where
  /-- Nothing has that name. -/
  | missing
  /-- The name is a directory's. -/
  | directory
  /-- The name leads through something that is not a directory. -/
  | notDirectory
  /-- The file may not be read. -/
  | denied
  deriving DecidableEq, Repr

/-- The kind of an opening fault, as reports name it. -/
def OpenFault.kind : OpenFault → String
  | .missing => "FileNotFoundError"
  | .directory => "IsADirectoryError"
  | .notDirectory => "NotADirectoryError"
  | .denied => "PermissionError"

/-- The number and the description of an opening fault. -/
def OpenFault.description : OpenFault → String
  | .missing => "[Errno 2] No such file or directory"
  | .directory => "[Errno 21] Is a directory"
  | .notDirectory => "[Errno 20] Not a directory"
  | .denied => "[Errno 13] Permission denied"

/-- Something that went wrong. -/
inductive Fault where
  | grammar (error : GrammarError)
  | lexical (error : LexicalError)
  /-- A syntactic fault that says nothing but its message. -/
  | malformed (message : String)
  /-- The system failed under a supply or a sink. -/
  | system (message : String)
  /-- A value that is not acceptable. -/
  | badValue (message : String)
  /-- No symbol has that name. -/
  | unknownName (name : String)
  /-- A sink was told of an error and went on as if nothing had happened. -/
  | unreported (sink : String)
  /-- A supply that delivers nothing. -/
  | unimplemented
  /-- A file could not be opened. -/
  | unopened (fault : OpenFault) (path : String)
  /-- The bytes of a file are not UTF-8. -/
  | undecodable
  /-- The nesting of rules reached the bound that was set for it. -/
  | tooDeep
  deriving DecidableEq, Repr

namespace Fault

/-- The symbol of that name, or the fault that there is none. -/
def symbolNamed (name : String) : Except Fault Symbol :=
  match Symbol.ofName? name with
  | some s => .ok s
  | none => .error (.unknownName name)

/-- The symbol of that code, or the fault that there is none. -/
def symbolCoded (code : Int) : Except Fault Symbol :=
  match Symbol.ofCode? code with
  | some s => .ok s
  | none => .error (.badValue (toString code ++ " is not a valid Symbol"))

/-- The wording of a fault, in one place. -/
def message : Fault → String
  | grammar e => e.message
  | lexical e => e.message ++ " at " ++ toString e.line ++ ":" ++ toString e.col
  | malformed m => m
  | system m => m
  | badValue m => m
  | unknownName n => quoted n
  | unreported s => s ++ ".report_error returned normally"
  | unimplemented => ""
  | unopened f p => f.description ++ ": " ++ quoted p
  | undecodable => "invalid UTF-8"
  | tooDeep => "rules are nested too deeply"

/-- Whether a fault is about the program that is checked, so that the rules it
passes on its way out answer for it. -/
def isSyntactic : Fault → Bool
  | grammar _ | lexical _ | malformed _ => true
  | _ => false

end Fault

/-! ## Faults on their way -/

/-- A fault on its way out of a computation, with its causes, nearest first. -/
structure Raised where
  fault : Fault
  causes : List Fault
  deriving DecidableEq, Repr

namespace Raised

/-- A fault without a cause. -/
def fresh (f : Fault) : Raised := ⟨f, []⟩

/-- All faults of the chain, outermost first. -/
def chain (r : Raised) : List Fault := r.fault :: r.causes

/-- The fault at the far end of the chain: where it all began. -/
def innermost (r : Raised) : Fault := r.causes.getLastD r.fault

/-- The fault in front of a chain that it is a consequence of. -/
def because (f : Fault) (cause : Raised) : Raised := ⟨f, cause.chain⟩

/-- Whether the outermost fault is syntactic. -/
def isSyntactic (r : Raised) : Bool := r.fault.isSyntactic

@[simp] theorem chain_because (f : Fault) (r : Raised) : (because f r).chain = f :: r.chain := rfl

/-- **A new fault in front leaves the far end where it is.** -/
@[simp] theorem innermost_because (f : Fault) (r : Raised) :
    (because f r).innermost = r.innermost := by
  cases r with
  | mk g cs => simp only [because, innermost, chain, List.getLastD_cons]

/-- The far end is the last fault of the chain. -/
theorem getLast?_chain (r : Raised) : r.chain.getLast? = some r.innermost := by
  cases r with
  | mk g cs => cases cs <;> simp [chain, innermost, List.getLast?_cons]

end Raised

/-! ## Chains in print -/

/-- A chain of faults, one line each, outermost first unless asked
otherwise. -/
def formatChain (chain : List Fault) (innermostFirst : Bool) : String :=
  let ordered := if innermostFirst then chain.reverse else chain
  "\n".intercalate (ordered.map Fault.message)

end SyntaxChecker
