/-!
# Transcripts

What a command writes goes to two channels, the output and the reports. A
transcript is what was written to each. Transcripts are put one after the other
channel by channel.
-/

namespace SyntaxChecker.CommandLine

/-- What was written to the output, and what to the reports. -/
@[ext] structure Transcript where
  output : String
  reports : String
  deriving DecidableEq, Repr

namespace Transcript

/-- Nothing was written. -/
def empty : Transcript := ⟨"", ""⟩

/-- A line in the output. -/
def outputLine (line : String) : Transcript := ⟨line ++ "\n", ""⟩

/-- A line in the reports. -/
def reportLine (line : String) : Transcript := ⟨"", line ++ "\n"⟩

/-- One transcript after the other. -/
def append (a b : Transcript) : Transcript := ⟨a.output ++ b.output, a.reports ++ b.reports⟩

instance : Append Transcript := ⟨append⟩

/-- Something, or nothing where it is not wanted. -/
def onlyIf (wanted : Bool) (t : Transcript) : Transcript := if wanted then t else empty

@[simp] theorem output_append (a b : Transcript) : (a ++ b).output = a.output ++ b.output := rfl

@[simp] theorem reports_append (a b : Transcript) : (a ++ b).reports = a.reports ++ b.reports := rfl

@[simp] theorem empty_append (t : Transcript) : empty ++ t = t :=
  Transcript.ext (by simp [empty]) (by simp [empty])

@[simp] theorem append_empty (t : Transcript) : t ++ empty = t :=
  Transcript.ext (by simp [empty]) (by simp [empty])

end Transcript

end SyntaxChecker.CommandLine
