import SyntaxChecker.Event
import SyntaxChecker.Fault

/-!
# Sinks

A sink is what a check reports to. It hears every notice, may change its state,
and may raise a fault of its own. Told of a token that does not fit, it hears of
it first and then has to raise the error that ends the check; that is
`Listener.report`.

`Listener` says what a check asks of a sink, and the type `Sink` holds the sinks
there are. Three keep to themselves and never raise a fault
unasked: `Sink.quiet` keeps nothing, a `Recording` keeps the events and the
outcome, and a `Trace` writes an indented derivation. `Sink.tee` passes every
notice on to several sinks in order. Two serve to try the checker: a `Trap`
raises a given fault when a given kind of notice comes for a given time, and
`Sink.silent` fails in its duty and raises nothing at all.
-/

namespace SyntaxChecker

/-- Success, or a fault on its way. -/
abbrev Outcome := Except Raised Unit

/-- What a check asks of the sink that it reports to. -/
class Listener (τ : Type) where
  /-- Tell the sink something. -/
  notify : Notice → τ → Outcome × τ
  /-- Tell the sink of a token that does not fit, and have it raise the
  error. -/
  report : Token → String → τ → Outcome × τ
  /-- What the sink calls itself. -/
  title : τ → String

/-- The error for a token that does not fit. -/
def mismatchError (t : Token) (message : String) : Raised :=
  Raised.fresh (.grammar ⟨message, some t, none⟩)

/-! ## Recording -/

/-- A record of a check: its events, whether it succeeded, and the token that
did not fit with the message about it. -/
structure Recording where
  events : Array Event
  succeeded : Bool
  error : Option (Token × String)
  deriving DecidableEq, Repr

namespace Recording

/-- Nothing is recorded yet. -/
def empty : Recording := ⟨#[], false, none⟩

/-- Record a notice. -/
def hear (r : Recording) : Notice → Recording
  | .event e => { r with events := r.events.push e }
  | .mismatch t m => { r with error := some (t, m) }
  | .success => { r with succeeded := true }

/-- The accepted tokens, in order. -/
def terminals (r : Recording) : List Token := r.events.toList.filterMap Event.token?

/-- The events, one a line. -/
def render (r : Recording) : String := "\n".intercalate (r.events.toList.map Event.text)

end Recording

/-! ## Tracing -/

/-- A written derivation: the text so far, the number of rules that are open,
and what a line is indented by for each of them. -/
structure Trace where
  text : String
  depth : Int
  indent : String
  deriving DecidableEq, Repr

namespace Trace

/-- Nothing is written yet. -/
def empty (indent : String) : Trace := ⟨"", 0, indent⟩

/-- The indentation that is customary. -/
def customaryIndent : String := "  "

/-- Write a line at the present depth. A depth below zero is not indented. -/
def write (t : Trace) (line : String) : Trace :=
  { t with text := t.text ++ String.join (List.replicate t.depth.toNat t.indent) ++ line ++ "\n" }

/-- How a trace shows an accepted token. The end of the input has no text, so
it is shown by a mark of its own. -/
def terminalLine (t : Token) : String :=
  let shown := if t.isEof then "<EOF>" else t.text
  t.symbol.name ++ " " ++ Text.quoted shown ++ " on line " ++ toString t.line

/-- Write down a notice. The line for the end of a rule stands below that for
its beginning. -/
def hear (t : Trace) : Notice → Trace
  | .event (.enter label) =>
    let written := t.write ("begin " ++ label)
    { written with depth := written.depth + 1 }
  | .event (.exit label) =>
    let outer := { t with depth := t.depth - 1 }
    outer.write ("end " ++ label)
  | .event (.terminal token) => t.write (terminalLine token)
  | .mismatch _ message => t.write ("syntax error: " ++ message)
  | .success => t.write "parse succeeded"

end Trace

/-! ## Traps -/

/-- The kinds of notices. -/
inductive Hook where
  | enter
  | exit
  | terminal
  | mismatch
  | success
  deriving DecidableEq, Repr

/-- The kind of a notice. -/
def Notice.hook : Notice → Hook
  | .event (.enter _) => .enter
  | .event (.exit _) => .exit
  | .event (.terminal _) => .terminal
  | .mismatch _ _ => .mismatch
  | .success => .success

/-- A sink that raises a fault once: when it hears the notice of the given kind
that is the `turn`-th of its kind, counted from one. -/
structure Trap where
  hook : Hook
  turn : Nat
  /-- How many notices of the kind were heard. -/
  heard : Nat
  raises : Raised
  deriving DecidableEq, Repr

namespace Trap

/-- A trap that has heard nothing yet. -/
def set (hook : Hook) (turn : Nat) (raises : Raised) : Trap := ⟨hook, turn, 0, raises⟩

/-- Hear a notice, and raise the fault if it is the one. -/
def hear (t : Trap) (n : Notice) : Outcome × Trap :=
  if n.hook = t.hook then
    let t' := { t with heard := t.heard + 1 }
    if t'.heard = t.turn then (.error t.raises, t') else (.ok (), t')
  else (.ok (), t)

end Trap

/-! ## The sinks there are -/

/-- A sink. -/
inductive Sink where
  /-- Keeps nothing. -/
  | quiet
  | recording (record : Recording)
  | trace (written : Trace)
  /-- Records, and raises nothing when it should. -/
  | silent (record : Recording)
  | trap (t : Trap)
  /-- Passes everything on to several sinks, in order. -/
  | tee (sinks : List Sink)
  deriving Repr

namespace Sink

mutual

/-- Tell a sink something. -/
def notify (n : Notice) : Sink → Outcome × Sink
  | quiet => (.ok (), quiet)
  | recording r => (.ok (), recording (r.hear n))
  | trace t => (.ok (), trace (t.hear n))
  | silent r => (.ok (), silent (r.hear n))
  | trap t =>
    let (outcome, t') := t.hear n
    (outcome, trap t')
  | tee sinks =>
    let (outcome, sinks') := notifyAll n sinks
    (outcome, tee sinks')

/-- Tell several sinks something, in order. Those behind one that raises a
fault are not told. -/
def notifyAll (n : Notice) : List Sink → Outcome × List Sink
  | [] => (.ok (), [])
  | s :: rest =>
    match notify n s with
    | (.ok (), s') =>
      let (outcome, rest') := notifyAll n rest
      (outcome, s' :: rest')
    | (.error e, s') => (.error e, s' :: rest)

end

/-- What a sink calls itself. -/
def title : Sink → String
  | quiet => "EventSink"
  | recording _ => "RecordingSink"
  | trace _ => "TraceSink"
  | silent _ => "SilentSink"
  | trap _ => "TrapSink"
  | tee _ => "TeeSink"

/-- Tell a sink of a token that does not fit, and have it raise the error. Only
the silent sink fails to. -/
def report (t : Token) (message : String) (s : Sink) : Outcome × Sink :=
  match s.notify (.mismatch t message), s with
  | (.error e, s'), _ => (.error e, s')
  | (.ok (), s'), silent _ => (.ok (), s')
  | (.ok (), s'), _ => (.error (mismatchError t message), s')

instance : Listener Sink := ⟨notify, report, title⟩

/-- A sink that records and has not heard anything yet. -/
def recorder : Sink := recording Recording.empty

/-- A sink that traces and has not heard anything yet. -/
def tracer (indent : String) : Sink := trace (Trace.empty indent)

/-! ## What sinks are made of -/

mutual

/-- The sinks at the ends of a tee, in order; of any other sink, itself. -/
def leaves : Sink → List Sink
  | tee sinks => leavesAll sinks
  | s => [s]

/-- The leaves of several sinks, in order. -/
def leavesAll : List Sink → List Sink
  | [] => []
  | s :: rest => leaves s ++ leavesAll rest

end

/-- What the first sink that records has recorded. -/
def record? (s : Sink) : Option Recording :=
  s.leaves.findSome? fun
    | recording r | silent r => some r
    | _ => none

/-- What the first sink that traces has written. -/
def written? (s : Sink) : Option String :=
  s.leaves.findSome? fun
    | trace t => some t.text
    | _ => none

end Sink

end SyntaxChecker
