import SyntaxChecker.Text.DecimalDigit

/-!
# Reading arguments

A command line is a list of arguments. Some are switches, recognised by a
leading hyphen, and the others are values, which stand for themselves. This
module sorts them, knowing which switches there are and how many free values
are wanted, and leaves to others what they mean.

The rules are the customary ones. A switch may be shortened to a beginning that
no other switch shares, and a value for it may be attached by an equals sign or
given as the next argument. Switches of one letter may be written together
behind one hyphen, and an equals sign may stand behind the first of them. Two
hyphens alone end the switches: all further arguments are values. A lone
hyphen, a negative number, and anything unknown with a space in it are values
too. The free values have to stand together, before, between
or after switches; one that stands apart from the others is too many.

Not everything that is wrong is found at once. An ambiguous switch is refused
before anything else. A switch with a value that it does not take, or without
one that it does, is refused where it stands, and so are letters written
together of which one is no switch. Other unknown switches, and values too many,
are refused at the end. This matters because a wish for help is granted
where it stands, and so excuses whatever would have been refused later.
-/

namespace SyntaxChecker.CommandLine

/-! ## Switches -/

/-- What an argument with a leading hyphen may ask for. -/
inductive Switch where
  | help
  | debug
  | innermostFirst
  | text
  | input
  deriving DecidableEq, Repr

/-- Whether a switch comes with a value. -/
def Switch.takesValue : Switch → Bool
  | .text | .input => true
  | _ => false

/-- How many free values are wanted. -/
inductive Arity where
  | none
  | one
  | some
  deriving DecidableEq, Repr

/-- Whether that many free values are as wanted. -/
def Arity.admits : Arity → Nat → Bool
  | .none, _ => false
  | .one, n => n == 1
  | .some, n => 0 < n

/-- What may be given: the spellings of the switches, and the free values. -/
structure Usage where
  switches : List (String × Switch)
  arity : Arity

/-! ## Sorting a single argument -/

/-- What is attached to a switch in the same argument, if something is. -/
inductive Attachment where
  | nothing
  /-- A value, behind a long switch and an equals sign. -/
  | value (text : List Char)
  /-- Further letters, behind a switch of one letter, with or without an equals
  sign between. -/
  | letters (more : List Char)
  deriving DecidableEq, Repr

/-- What an argument is. -/
inductive Slot where
  | value (text : String)
  | separator
  | switch (s : Switch) (attached : Attachment)
  | unknown
  deriving DecidableEq, Repr

/-- Whether all characters of a text are decimal digits, and there are some. -/
def areDigits (s : List Char) : Bool := !s.isEmpty && s.all Text.isDecimalDigit

/-- A text without the line feed at its end, if it ends with one. -/
def dropFinalLineFeed (s : List Char) : List Char :=
  if s.getLast? = some '\n' then s.dropLast else s

/-- Whether an argument reads as a negative number: a hyphen and digits, or a
hyphen, perhaps digits, a point and digits. A line feed at the end is passed
over. -/
def isNegativeNumber (arg : List Char) : Bool :=
  match arg with
  | '-' :: rest =>
    let number := dropFinalLineFeed rest
    areDigits number ||
      match number.dropWhile Text.isDecimalDigit with
      | '.' :: decimals => areDigits decimals
      | _ => false
  | _ => false

/-- A text up to its first equals sign, and what is behind it if there is
one. -/
def splitAtEquals (arg : List Char) : List Char × Option (List Char) :=
  match arg.dropWhile (· != '=') with
  | [] => (arg, none)
  | _ :: behind => (arg.takeWhile (· != '='), some behind)

/-- Whether a switch is spelled with two hyphens. -/
def isLong (name : List Char) : Bool := ['-', '-'].isPrefixOf name

/-- What is attached to a switch of the given spelling, given what stands behind
the equals sign. -/
def Attachment.behindEquals (name : List Char) : Option (List Char) → Attachment
  | none => nothing
  | some v => if isLong name then value v else letters v

/-- The switches that an argument may be a form of. A long one may be
shortened, and a short one may have something directly behind it. -/
def readings (switches : List (String × Switch)) (arg : List Char) : List Slot :=
  match arg with
  | '-' :: '-' :: _ =>
    let (name, behind) := splitAtEquals arg
    (switches.filter fun p => name.isPrefixOf p.1.toList).map
      fun p => .switch p.2 (.behindEquals name behind)
  | '-' :: letter :: behind =>
    (switches.filter fun p => p.1.toList == ['-', letter]).map
      fun p => .switch p.2 (.letters behind)
  | _ => []

/-- An argument that is the full spelling of a switch, alone or with something
behind an equals sign. -/
def exactReading (switches : List (String × Switch)) (arg : List Char) : Option Slot :=
  match switches.lookup (String.ofList arg) with
  | some s => some (.switch s .nothing)
  | none =>
    match splitAtEquals arg with
    | (name, some behind) =>
      (switches.lookup (String.ofList name)).map
        fun s => .switch s (.behindEquals name (some behind))
    | (_, none) => none

/-- What an argument is, if it is not ambiguous. -/
def slot (switches : List (String × Switch)) (arg : String) : Option Slot :=
  match arg.toList with
  | '-' :: second :: rest =>
    let cs := '-' :: second :: rest
    match exactReading switches cs with
    | some s => some s
    | none =>
      match readings switches cs with
      | [s] => some s
      | _ :: _ :: _ => none
      | [] =>
        if isNegativeNumber cs || cs.contains ' ' then some (.value arg) else some .unknown
  | _ => some (.value arg)

/-- What the arguments are, if none is ambiguous. -/
def slots (switches : List (String × Switch)) : List String → Option (List Slot)
  | [] => some []
  | arg :: rest =>
    if arg = "--" then some (.separator :: rest.map .value)
    else
      match slot switches arg, slots switches rest with
      | some s, some ss => some (s :: ss)
      | _, _ => none

/-! ## Reading all of them -/

/-- What was given. -/
structure Given where
  /-- The free values, once they have been met. -/
  values : Option (List String)
  debug : Bool
  innermostFirst : Bool
  text : Option String
  input : Option String
  /-- Whether something was given that is not wanted. -/
  surplus : Bool
  deriving DecidableEq, Repr

/-- Nothing was given. -/
def Given.nothing : Given := ⟨none, false, false, none, none, false⟩

/-- What to make of arguments. -/
inductive Verdict (α : Type) where
  /-- Help is asked for. -/
  | help
  /-- The arguments cannot be used. -/
  | misuse
  | proceed (a : α)
  deriving DecidableEq, Repr

/-- The switches of letters that are written together: a first one, and those
of the letters behind it, of which there is at least one. -/
def cluster (switches : List (String × Switch)) : Switch → List Char → Option (List Switch)
  | _, [] => none
  | first, letter :: rest =>
    match switches.lookup (String.ofList ['-', letter]) with
    | none => none
    | some second =>
      if rest.isEmpty then some [first, second]
      else (cluster switches second rest).map (first :: ·)

/-- The value that is attached to a switch. Two hyphens alone are no text: they
are dropped here as elsewhere, and leave it empty. As the name of a file they
stay. -/
def attachedValue (s : Switch) (value : List Char) : String :=
  if s = .text ∧ value = ['-', '-'] then "" else String.ofList value

/-- Note that a switch without a value was given. -/
def Given.noteSwitch (g : Given) : Switch → Given
  | .debug => { g with debug := true }
  | .innermostFirst => { g with innermostFirst := true }
  | _ => g

/-- Note that a switch was given with a value. The two ways to name an input
exclude each other. -/
def Given.noteValue (g : Given) (s : Switch) (value : String) : Option Given :=
  match s, g.text, g.input with
  | .text, _, none => some { g with text := some value }
  | .input, none, _ => some { g with input := some value }
  | _, _, _ => none

/-- Note free values that stand together. They are the ones that are wanted, or
too many. -/
def Given.noteRun (g : Given) (arity : Arity) : Option (List String) → Given
  | none => g
  | some run =>
    if g.values.isNone && arity.admits run.length then { g with values := some run }
    else { g with surplus := true }

/-- Note switches without values; help excuses what comes later. -/
def Given.noteSwitches (g : Given) (ss : List Switch) : Verdict Given :=
  if .help ∈ ss then .help else .proceed (ss.foldl noteSwitch g)

/-- Read the slots in order. The run holds the free values that have been met
since the last switch, if any or a separator has. -/
def readSlots (u : Usage) : Option (List String) → Given → List Slot → Verdict Given
  | run, g, [] =>
    let g := g.noteRun u.arity run
    if g.surplus || (u.arity != .none && g.values.isNone) then .misuse else .proceed g
  | run, g, .value v :: rest => readSlots u (some (run.getD [] ++ [v])) g rest
  | run, g, .separator :: rest => readSlots u (some (run.getD [])) g rest
  | run, g, .unknown :: rest =>
    readSlots u none { g.noteRun u.arity run with surplus := true } rest
  | run, g, .switch s .nothing :: rest =>
    let g := g.noteRun u.arity run
    if s.takesValue then
      match rest with
      | .value v :: rest =>
        match g.noteValue s v with
        | some g => readSlots u none g rest
        | none => .misuse
      | _ => .misuse
    else
      match g.noteSwitches [s] with
      | .proceed g => readSlots u none g rest
      | verdict => verdict
  | run, g, .switch s (.value v) :: rest =>
    if s.takesValue then
      match (g.noteRun u.arity run).noteValue s (attachedValue s v) with
      | some g => readSlots u none g rest
      | none => .misuse
    else .misuse
  | run, g, .switch s (.letters cs) :: rest =>
    match cluster u.switches s cs with
    | none => .misuse
    | some ss =>
      match (g.noteRun u.arity run).noteSwitches ss with
      | .proceed g => readSlots u none g rest
      | verdict => verdict

/-- Read arguments. -/
def Usage.read (u : Usage) (args : List String) : Verdict Given :=
  match slots u.switches args with
  | none => .misuse
  | some ss => readSlots u none .nothing ss

end SyntaxChecker.CommandLine
