import SyntaxChecker.CommandLine

/-!
# The program

The command line program: it reads the files that a request names, runs the
request over what was read, and writes the transcript.
-/

namespace SyntaxChecker.Main

open CommandLine (Ending Request Verdict)

/-- The files that a request names. -/
def filesOf : Request → List String
  | .check paths _ => paths
  | .trace path _ => [path]
  | .lexText _ => []
  | .lexFile path => [path]

/-- The numbers by which the system says that the name of a file leads through
something that is not a directory: some of its calls give it with the opposite
sign. -/
def notDirectoryCodes : List UInt32 := [20, -20]

/-- Why the system could not open a file. -/
def openFault : IO.Error → OpenFault
  | .noFileOrDirectory .. => .missing
  | .inappropriateType _ code _ =>
    if notDirectoryCodes.contains code then .notDirectory else .directory
  | _ => .denied

/-- What a file holds. -/
def readFile (path : String) : IO (Except OpenFault (List UInt8)) := do
  try
    let bytes ← IO.FS.readBinFile path
    return .ok bytes.toList
  catch e => return .error (openFault e)

/-- What can be read of the files that were read before. -/
def readerOf (files : List (String × Except OpenFault (List UInt8))) : SourceText.Reader :=
  fun path => (files.lookup path).getD (.error .missing)

/-- How the program is used. -/
def usageLine : String :=
  "usage: check FILE... | trace FILE | lex (--text TEXT | --input FILE)"

end SyntaxChecker.Main

open SyntaxChecker SyntaxChecker.Main in
/-- Run the program. -/
def main (args : List String) : IO UInt32 := do
  let wanted := match CommandLine.readArguments args with
    | .proceed request => filesOf request
    | _ => []
  let files ← wanted.mapM fun path => return (path, ← readFile path)
  let (ending, transcript) := CommandLine.run (readerOf files) args
  IO.print transcript.output
  IO.eprint transcript.reports
  match ending with
  | .returned status => return status.toUInt32
  | .answered status =>
    if status = CommandLine.statusOk then IO.println usageLine else IO.eprintln usageLine
    return status.toUInt32
  | .brokeOff fault =>
    IO.eprintln fault.message
    return 1
