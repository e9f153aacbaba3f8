import SyntaxChecker.CommandLine.Arguments

/-!
# Requests

A command line names a command and goes on with the arguments of that command.
`check` takes any number of files, `trace` takes one, and `lex` takes its input
by a switch, either the text itself or the name of a file. A `Request` is a
command line that makes sense.
-/

namespace SyntaxChecker.CommandLine

/-- How a report is to look. -/
structure ReportStyle where
  /-- Whether the chain of errors begins with the innermost. -/
  innermostFirst : Bool
  /-- Whether details of the progress are reported as well. -/
  debug : Bool
  deriving DecidableEq, Repr

/-- What is asked for. -/
inductive Request where
  /-- Check files, one after the other. -/
  | check (paths : List String) (style : ReportStyle)
  /-- Check a file, and write its derivation. -/
  | trace (path : String) (style : ReportStyle)
  /-- List the tokens of a text. -/
  | lexText (text : String)
  /-- List the tokens of a file. -/
  | lexFile (path : String)
  deriving DecidableEq, Repr

/-- The commands. -/
inductive Command where
  | check
  | trace
  | lex
  deriving DecidableEq, Repr

namespace Command

/-- The command of a given name. -/
def ofName? : String → Option Command
  | "check" => some check
  | "trace" => some trace
  | "lex" => some lex
  | _ => none

/-- The switches that every command has, and that may stand before one. -/
def commonSwitches : List (String × Switch) := [("-h", .help), ("--help", .help)]

/-- The switches that tell how a report is to look. -/
def styleSwitches : List (String × Switch) :=
  [("--innermost-first", .innermostFirst), ("-D", .debug), ("--debug", .debug)]

/-- What may be given to a command. -/
def usage : Command → Usage
  | check => ⟨commonSwitches ++ styleSwitches, .some⟩
  | trace => ⟨commonSwitches ++ styleSwitches, .one⟩
  | lex => ⟨commonSwitches ++ [("--text", .text), ("--input", .input)], .none⟩

/-- What is asked for by a command and what was given to it. -/
def request (c : Command) (g : Given) : Verdict Request :=
  let style : ReportStyle := ⟨g.innermostFirst, g.debug⟩
  match c, g.values, g.text, g.input with
  | check, some paths, _, _ => .proceed (.check paths style)
  | trace, some [path], _, _ => .proceed (.trace path style)
  | lex, _, some text, none => .proceed (.lexText text)
  | lex, _, none, some path => .proceed (.lexFile path)
  | _, _, _, _ => .misuse

/-- Read the arguments of a command. -/
def read (c : Command) (args : List String) : Verdict Request :=
  match c.usage.read args with
  | .help => .help
  | .misuse => .misuse
  | .proceed g => c.request g

end Command

/-- A verdict, when something was given before that is not wanted. -/
def Verdict.withSurplus {α : Type} (surplus : Bool) : Verdict α → Verdict α
  | .proceed a => if surplus then .misuse else .proceed a
  | verdict => verdict

/-- Read a command line. Before the command there may be a wish for help, and
unknown switches, which are refused only in the end. -/
def readCommand (surplus : Bool) : List String → Verdict Request
  | [] => .misuse
  | arg :: rest =>
    if arg = "--" then .misuse
    else
      match slot Command.commonSwitches arg with
      | some (.value name) =>
        match Command.ofName? name with
        | some c => (c.read rest).withSurplus surplus
        | none => .misuse
      | some .unknown => readCommand true rest
      | some (.switch s .nothing) => if s = .help then .help else .misuse
      | some (.switch s (.letters cs)) =>
        match cluster Command.commonSwitches s cs with
        | some _ => .help
        | none => .misuse
      | _ => .misuse

/-- What a command line asks for. -/
def readArguments (args : List String) : Verdict Request := readCommand false args

end SyntaxChecker.CommandLine
