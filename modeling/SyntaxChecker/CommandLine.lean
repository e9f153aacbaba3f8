import SyntaxChecker.Check
import SyntaxChecker.CommandLine.Request
import SyntaxChecker.CommandLine.Transcript
import SyntaxChecker.Snippet

/-!
# The commands

Each command reads what it was asked to read, and answers with a transcript and
a status: zero if all is well, and two if something is wrong with a program or
a file. A file that is not there, or cannot be opened, is reported and passed
over. A file whose bytes are not text is not: the command breaks off, and what
was written before remains.
-/

namespace SyntaxChecker.CommandLine

open SourceText (Reader)

/-- A status, or the fault at which a command broke off. -/
abbrev Result := Except Fault Nat

/-- All is well. -/
def statusOk : Nat := 0

/-- Something is wrong with a program or a file, or with the arguments. -/
def statusFailed : Nat := 2

/-! ## Reports -/

/-- The place that a report shows for a fault. -/
def snippet? (src : String) : Fault → Option String
  | .grammar e => e.token.map fun t => Snippet.render src t.line t.col
  | .lexical e => some (Snippet.render src e.line e.col)
  | _ => none

/-- The report on a program that is wrong: the chain of errors, and the place
where it began. -/
def syntaxReport (src : String) (style : ReportStyle) (r : Raised) : Transcript :=
  .reportLine "[SYNTAX ERROR]" ++ .reportLine (formatChain r.chain style.innermostFirst)
    ++ ((snippet? src r.innermost).map Transcript.reportLine).getD .empty

/-- The report on a file that could not be opened. -/
def openReport (f : OpenFault) (path : String) : Transcript :=
  .reportLine ("[ERROR] " ++ f.kind ++ " " ++ (Fault.unopened f path).message)

/-- A detail of the progress on a file. -/
def debugReport (style : ReportStyle) (path detail : String) : Transcript :=
  .onlyIf style.debug (.reportLine ("[DEBUG] " ++ path ++ ": " ++ detail))

/-- The detail that the text of a file was read. -/
def loadedReport (style : ReportStyle) (path src : String) : Transcript :=
  debugReport style path ("loaded " ++ toString src.length ++ " chars")

/-- What a command writes before it goes on with the text of a file, and the
result where it cannot go on. -/
def withText (read : Reader) (path : String) (before : String → Transcript)
    (go : String → Result × Transcript) : Result × Transcript :=
  match SourceText.load read path with
  | .error (.unopened f p) => (.ok statusFailed, openReport f p)
  | .error f => (.error f, .empty)
  | .ok src =>
    let (result, transcript) := go src
    (result, before src ++ transcript)

/-! ## Checking -/

/-- What `check` writes about a text that was checked. -/
def checkReport (style : ReportStyle) (path src : String) (outcome : Outcome)
    (record : Recording) : Result × Transcript :=
  match outcome with
  | .ok () =>
    (.ok statusOk,
      debugReport style path ("events=" ++ toString record.events.size
          ++ " terminals=" ++ toString record.terminals.length)
        ++ .outputLine ("[CHECK OK] " ++ path ++ " terminals="
          ++ toString record.terminals.length))
  | .error r =>
    if r.isSyntactic then (.ok statusFailed, syntaxReport src style r)
    else (.error r.fault, .empty)

/-- Check a file. -/
def checkPath (read : Reader) (style : ReportStyle) (path : String) : Result × Transcript :=
  withText read path (loadedReport style path) fun src =>
    let (outcome, sink) := checkText src Sink.recorder path
    checkReport style path src outcome (sink.record?.getD .empty)

/-- Check files, one after the other. The status tells whether any of them is
wrong. -/
def checkPaths (read : Reader) (style : ReportStyle) : List String → Result × Transcript
  | [] => (.ok statusOk, .empty)
  | path :: rest =>
    match checkPath read style path with
    | (.error f, t) => (.error f, t)
    | (.ok status, t) =>
      match checkPaths read style rest with
      | (.error f, t') => (.error f, t ++ t')
      | (.ok status', t') => (.ok (max status status'), t ++ t')

/-! ## Tracing -/

/-- What `trace` writes about a text that was checked, besides the trace. -/
def traceReport (style : ReportStyle) (path src : String) (outcome : Outcome)
    (record : Recording) : Result × Transcript :=
  let detail := debugReport style path ("events=" ++ toString record.events.size)
  match outcome with
  | .ok () => (.ok statusOk, detail)
  | .error r =>
    if r.isSyntactic then (.ok statusFailed, syntaxReport src style r ++ detail)
    else (.error r.fault, detail)

/-- Check a file, and write its derivation. -/
def tracePath (read : Reader) (style : ReportStyle) (path : String) : Result × Transcript :=
  withText read path (loadedReport style path) fun src =>
    let (outcome, sink) :=
      checkText src (Sink.tee [Sink.tracer Trace.customaryIndent, Sink.recorder]) path
    let (result, transcript) := traceReport style path src outcome (sink.record?.getD .empty)
    (result, ⟨sink.written?.getD "", ""⟩ ++ transcript)

/-! ## Listing tokens -/

/-- A number with at least three digits. -/
def listNumber (n : Nat) : String :=
  let digits := toString n
  String.ofList (List.replicate (3 - digits.length) '0') ++ digits

/-- A name, filled up with blanks to the width of its column. -/
def nameColumn (name : String) : String :=
  name ++ String.ofList (List.replicate (18 - name.length) ' ')

/-- The line of a token in the list. -/
def tokenLine (number : Nat) (t : Token) : String :=
  listNumber number ++ ": " ++ nameColumn t.symbol.name ++ " " ++ Text.quoted t.text ++ "  @"
    ++ toString t.line ++ ":" ++ toString t.col

/-- The lines of a list of tokens, numbered from the given number on. -/
def tokenLines : Nat → List Token → Transcript
  | _, [] => .empty
  | n, t :: rest => .outputLine (tokenLine n t) ++ tokenLines (n + 1) rest

/-- List the tokens of a text, all of them or none. -/
def lexText (text : String) : Result × Transcript :=
  match tokensOf text with
  | .ok ts => (.ok statusOk, tokenLines 0 ts)
  | .error e => (.ok statusFailed, .reportLine ("[LEX ERROR] " ++ (Fault.lexical e).message))

/-- List the tokens of a file. -/
def lexPath (read : Reader) (path : String) : Result × Transcript :=
  withText read path (fun _ => .empty) lexText

/-! ## Running a command line -/

/-- Do what is asked for. -/
def Request.run (read : Reader) : Request → Result × Transcript
  | .check paths style => checkPaths read style paths
  | .trace path style => tracePath read style path
  | .lexText text => CommandLine.lexText text
  | .lexFile path => lexPath read path

/-- How a run of the program ends. -/
inductive Ending where
  /-- The arguments were not carried out, but answered by help or refused, and
  the program leaves with the given status. -/
  | answered (status : Nat)
  | returned (status : Nat)
  /-- The command broke off at a fault. -/
  | brokeOff (fault : Fault)
  deriving DecidableEq, Repr

/-- Run a command line. -/
def run (read : Reader) (args : List String) : Ending × Transcript :=
  match readArguments args with
  | .help => (.answered statusOk, .empty)
  | .misuse => (.answered statusFailed, .empty)
  | .proceed request =>
    match request.run read with
    | (.ok status, t) => (.returned status, t)
    | (.error f, t) => (.brokeOff f, t)

end SyntaxChecker.CommandLine
