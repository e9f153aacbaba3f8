import SyntaxChecker.CommandLine
import SyntaxChecker.Proofs.Analyser.CalmSinks
import SyntaxChecker.Proofs.Grammar.Tree

/-!
# What is written, line by line

An output is read line by line, so whoever counts its lines relies on it that nothing that
stands on a line breaks it. A list of tokens has one line for each token, and a trace has one
for each notice, since names and numbers have no line feed in them and quoted text has none
either (`oneLine_quoted`). Of the lines of a trace, those that begin with the name of a symbol
are the ones that show a terminal.
-/

namespace SyntaxChecker

/-! ## Texts without a line feed -/

/-- A text that stands on one line. -/
def OneLine (s : String) : Prop := '\n' ∉ s.toList

instance (s : String) : Decidable (OneLine s) := inferInstanceAs (Decidable ('\n' ∉ s.toList))

@[simp] theorem oneLine_append {s t : String} : OneLine (s ++ t) ↔ OneLine s ∧ OneLine t := by
  unfold OneLine
  rw [String.toList_append, List.mem_append, not_or]

theorem isDigit_of_mem_repr {n : Nat} {c : Char} (h : c ∈ n.repr.toList) : c.isDigit = true := by
  rw [Nat.toList_repr] at h
  exact Nat.isDigit_of_mem_toDigits (by decide) (by decide) h

/-- A number below zero is written with a hyphen in front. -/
theorem toList_repr_negSucc (n : Nat) :
    (Int.negSucc n).repr.toList = '-' :: (n + 1).repr.toList :=
  String.toList_append (s := "-")

/-- A number is written in digits, perhaps behind a hyphen. -/
theorem isDigit_or_of_mem_repr {n : Int} {c : Char} (h : c ∈ n.repr.toList) :
    c.isDigit = true ∨ c = '-' := by
  cases n with
  | ofNat n => exact .inl (isDigit_of_mem_repr h)
  | negSucc n =>
    rw [toList_repr_negSucc] at h
    exact (List.mem_cons.1 h).symm.imp_left isDigit_of_mem_repr

@[simp] theorem oneLine_natRepr (n : Nat) : OneLine n.repr := fun h => by
  cases isDigit_of_mem_repr h

@[simp] theorem oneLine_intRepr (n : Int) : OneLine n.repr := fun h => by
  rcases isDigit_or_of_mem_repr h with h | h <;> cases h

@[simp] theorem oneLine_name (s : Symbol) : OneLine s.name := by
  cases s <;> decide

@[simp] theorem oneLine_label (r : Rule) : OneLine r.label := by
  cases r <;> decide

namespace Text

theorem newline_notMem_hexDigits (width n : Nat) : '\n' ∉ hexDigits width n := by
  have hdigit : ∀ d < 16, '\n' ≠ Nat.digitChar d := by decide
  induction width generalizing n with
  | zero => exact List.not_mem_nil
  | succ width ih =>
    intro h
    rcases List.mem_append.1 h with h | h
    · exact ih _ h
    · exact hdigit _ (Nat.mod_lt _ (by decide)) (List.mem_singleton.1 h)

theorem newline_notMem_escapeByCode (n : Nat) : '\n' ∉ escapeByCode n := by
  unfold escapeByCode
  split
  · simpa using newline_notMem_hexDigits 2 n
  · split
    · simpa using newline_notMem_hexDigits 4 n
    · simpa using newline_notMem_hexDigits 8 n

/-- An escaped character has no line feed in it, whatever the character is. -/
theorem newline_notMem_escape {quote : Char} (hquote : quote ≠ '\n') (c : Char) :
    '\n' ∉ escape quote c := by
  unfold escape
  by_cases hself : (c == quote || c == '\x5c') = true
  · rw [if_pos hself]
    rcases Bool.or_eq_true_iff.1 hself with h | h
    · obtain rfl := eq_of_beq h
      simpa using hquote.symm
    · obtain rfl := eq_of_beq h
      decide
  · rw [if_neg hself]
    by_cases hfeed : (c == '\n') = true
    · rw [if_pos hfeed]
      decide
    · rw [if_neg hfeed]
      have hne : '\n' ≠ c := fun h => hfeed (h ▸ rfl)
      split
      · decide
      · split
        · decide
        · split
          · simpa using hne
          · exact newline_notMem_escapeByCode _

end Text

/-- **Quoted text stands on one line**, whatever is quoted. -/
@[simp] theorem oneLine_quoted (s : String) : OneLine (Text.quoted s) := by
  have hquote : Text.quoteFor s.toList ≠ '\n' := by
    unfold Text.quoteFor
    split <;> decide
  unfold OneLine Text.quoted Text.quotedChars
  rw [String.toList_ofList]
  intro h
  rcases List.mem_append.1 h with h | h
  · rcases List.mem_cons.1 h with h | h
    · exact hquote h.symm
    · obtain ⟨c, -, hc⟩ := List.mem_flatMap.1 h
      exact Text.newline_notMem_escape hquote c hc
  · exact hquote (List.mem_singleton.1 h).symm

/-! ## Lines of an output -/

/-- The lines of an output, each of which is ended by a line feed. -/
def linesOf (output : String) : List (List Char) := (output.toList.splitOn '\n').dropLast

/-- **An output that was written line by line.** -/
structure Written (output : String) (lines : List (List Char)) : Prop where
  toList_eq : output.toList = lines.flatMap (· ++ ['\n'])
  unbroken : ∀ line ∈ lines, '\n' ∉ line

namespace Written

theorem empty : Written "" [] := ⟨rfl, List.forall_mem_nil _⟩

theorem line {s : String} (h : OneLine s) : Written (s ++ "\n") [s.toList] := by
  refine ⟨?_, List.forall_mem_singleton.2 h⟩
  rw [String.toList_append]
  exact (List.append_nil _).symm

theorem append {o o' : String} {ls ls' : List (List Char)} (h : Written o ls)
    (h' : Written o' ls') : Written (o ++ o') (ls ++ ls') := by
  refine ⟨?_, List.forall_mem_append.2 ⟨h.unbroken, h'.unbroken⟩⟩
  rw [String.toList_append, h.toList_eq, h'.toList_eq, List.flatMap_append]

/-- **The lines that were written are the lines that are read.** -/
theorem linesOf_eq {o : String} {ls : List (List Char)} (h : Written o ls) : linesOf o = ls := by
  obtain ⟨heq, hunbroken⟩ := h
  have hsplit : (ls.flatMap (· ++ ['\n'])).splitOn '\n' = ls ++ [[]] := by
    clear heq
    induction ls with
    | nil => rfl
    | cons l ls ih =>
      obtain ⟨hl, hls⟩ := List.forall_mem_cons.1 hunbroken
      rw [List.flatMap_cons, List.append_assoc, List.singleton_append,
        List.splitOn_append_cons_self_of_not_mem hl, ih hls]
      rfl
  rw [linesOf, heq, hsplit, List.dropLast_concat]

end Written

/-! ## Lines of a trace -/

namespace Trace

/-- What a trace writes about a notice, behind the indentation. -/
def wording : Notice → String
  | .event (.enter label) => "begin " ++ label
  | .event (.exit label) => "end " ++ label
  | .event (.terminal token) => terminalLine token
  | .mismatch _ message => "syntax error: " ++ message
  | .success => "parse succeeded"

theorem text_write (t : Trace) (line : String) : (t.write line).text
    = t.text ++ (String.join (List.replicate t.depth.toNat t.indent) ++ line ++ "\n") := by
  simp only [write, String.append_assoc]

/-- A notice is written down on a line of its own. -/
theorem text_hear (t : Trace) (n : Notice) :
    (t.hear n).indent = t.indent
      ∧ ∃ depth, (t.hear n).text
        = t.text ++ (String.join (List.replicate depth t.indent) ++ wording n ++ "\n") := by
  cases n with
  | event e => cases e <;> exact ⟨rfl, _, text_write ..⟩
  | mismatch | success => exact ⟨rfl, _, text_write ..⟩

/-- Whether a line of a trace shows a terminal: behind the indentation stands the name of a
symbol. -/
def isTerminalLine (line : List Char) : Bool :=
  Symbol.all.any fun s => (s.name ++ " ").toList.isPrefixOf (line.dropWhile (· == ' '))

/-- The indentation of a line does not matter. -/
theorem isTerminalLine_indented {blanks : List Char} (h : ∀ c ∈ blanks, c = ' ')
    (line : List Char) : isTerminalLine (blanks ++ line) = isTerminalLine line := by
  unfold isTerminalLine
  rw [List.dropWhile_append_of_pos fun c hc => beq_iff_eq.2 (h c hc)]

/-- The name of a symbol begins with a capital letter. -/
theorem exists_name_eq_cons (s : Symbol) : ∃ c cs, s.name.toList = c :: cs ∧ c.isUpper = true := by
  cases s <;> exact ⟨_, _, rfl, rfl⟩

theorem dropWhile_blank {c : Char} (hc : c ≠ ' ') (cs : List Char) :
    (c :: cs).dropWhile (· == ' ') = c :: cs :=
  List.dropWhile_cons_of_neg fun h => hc (eq_of_beq h)

/-- A line that begins with a small letter shows no terminal. -/
theorem isTerminalLine_of_isLower {c : Char} (hc : c.isLower = true) (line : List Char) :
    isTerminalLine (c :: line) = false := by
  have hblank : c ≠ ' ' := by
    rintro rfl
    cases hc
  unfold isTerminalLine
  rw [dropWhile_blank hblank, List.any_eq_false]
  intro s _ hprefix
  obtain ⟨d, ds, hname, hd⟩ := exists_name_eq_cons s
  rw [String.toList_append, hname, List.cons_append, List.isPrefixOf_iff_prefix,
    List.cons_prefix_cons] at hprefix
  obtain rfl := hprefix.1
  unfold Char.isLower at hc
  unfold Char.isUpper at hd
  simp only [Bool.and_eq_true, decide_eq_true_eq, ge_iff_le] at hc hd
  exact absurd (UInt32.le_trans hc.1 hd.2) (by decide)

/-- **The lines that show a terminal** are those that were written about one. -/
theorem isTerminalLine_wording (n : Notice) :
    isTerminalLine (wording n).toList = n.token?.isSome := by
  have hlower : ∀ {s : String} {c : Char} {cs : List Char} (t : String), s.toList = c :: cs →
      c.isLower = true → isTerminalLine (s ++ t).toList = false := fun t hs hc => by
    rw [String.toList_append, hs]
    exact isTerminalLine_of_isLower hc _
  cases n with
  | mismatch t message => exact hlower message rfl rfl
  | success => exact isTerminalLine_of_isLower rfl _
  | event e =>
    cases e with
    | enter label => exact hlower label rfl rfl
    | exit label => exact hlower label rfl rfl
    | terminal t =>
      refine List.any_eq_true.2 ⟨t.symbol, Symbol.mem_all t.symbol, ?_⟩
      obtain ⟨c, cs, hname, hc⟩ := exists_name_eq_cons t.symbol
      have hblank : c ≠ ' ' := by
        rintro rfl
        cases hc
      simp only [wording, terminalLine, String.toList_append, List.append_assoc, hname,
        List.cons_append, dropWhile_blank hblank, List.isPrefixOf_iff_prefix]
      rw [List.cons_prefix_cons, List.prefix_append_right_inj]
      exact ⟨rfl, List.prefix_append ..⟩

/-- **A trace has one line for each notice**, and shows as many terminals as it has heard
of. -/
theorem exists_written_foldl_hear (ns : List Notice) (hns : ∀ n ∈ ns, OneLine (wording n))
    {t : Trace} (ht : ∀ c ∈ t.indent.toList, c = ' ') {lines : List (List Char)}
    (h : Written t.text lines) :
    ∃ more, Written (ns.foldl hear t).text (lines ++ more)
      ∧ more.countP isTerminalLine = (ns.filterMap Notice.token?).length := by
  induction ns generalizing t lines with
  | nil => exact ⟨[], by rwa [List.append_nil], rfl⟩
  | cons n ns ih =>
    obtain ⟨hn, hns⟩ := List.forall_mem_cons.1 hns
    obtain ⟨hindent, depth, htext⟩ := t.text_hear n
    let blanks := String.join (List.replicate depth t.indent)
    have hblanks : ∀ c ∈ blanks.toList, c = ' ' := fun c hc => by
      rw [String.toList_join] at hc
      obtain ⟨s, hs, hc⟩ := List.mem_flatMap.1 hc
      obtain rfl := List.eq_of_mem_replicate hs
      exact ht c hc
    have hline : Written (t.hear n).text (lines ++ [(blanks ++ wording n).toList]) := by
      rw [htext]
      refine h.append (.line (oneLine_append.2 ⟨fun hmem => ?_, hn⟩))
      cases hblanks _ hmem
    obtain ⟨more, hmore, hcount⟩ := ih hns (hindent.symm ▸ ht) hline
    refine ⟨(blanks ++ wording n).toList :: more, ?_, ?_⟩
    · rwa [List.append_assoc] at hmore
    · rw [List.countP_cons, hcount, String.toList_append, isTerminalLine_indented hblanks,
        isTerminalLine_wording, List.filterMap_cons]
      cases n.token? <;> rfl

@[simp] theorem oneLine_terminalLine (t : Token) : OneLine (terminalLine t) := by
  simp +decide [terminalLine]

mutual

/-- Whatever is told of a derivation is written on one line. -/
theorem oneLine_wording_events : (t : Tree) → ∀ e ∈ t.events, OneLine (wording (.event e))
  | .leaf t => List.forall_mem_singleton.2 (oneLine_terminalLine t)
  | .node r children => by
    rw [Tree.events, List.forall_mem_cons, List.forall_mem_append, List.forall_mem_singleton]
    exact ⟨oneLine_append.2 ⟨by decide, oneLine_label r⟩, oneLine_wording_eventsAll children,
      oneLine_append.2 ⟨by decide, oneLine_label r⟩⟩

theorem oneLine_wording_eventsAll :
    (trees : List Tree) → ∀ e ∈ Tree.eventsAll trees, OneLine (wording (.event e))
  | [] => List.forall_mem_nil _
  | t :: rest => by
    rw [Tree.eventsAll, List.forall_mem_append]
    exact ⟨oneLine_wording_events t, oneLine_wording_eventsAll rest⟩

end

end Trace

/-! ## Lines of a list of tokens -/

namespace CommandLine

/-- Leading zeros and trailing blanks do not break a line. -/
@[simp] theorem oneLine_replicate {c : Char} (hc : c ≠ '\n') (n : Nat) :
    OneLine (String.ofList (List.replicate n c)) := by
  intro h
  rw [String.toList_ofList] at h
  exact hc (List.eq_of_mem_replicate h).symm

theorem oneLine_tokenLine (n : Nat) (t : Token) : OneLine (tokenLine n t) := by
  simp +decide [tokenLine, listNumber, nameColumn]

/-- **A list of tokens has one line for each token.** -/
theorem exists_written_tokenLines (n : Nat) (ts : List Token) :
    ∃ lines, Written (tokenLines n ts).output lines ∧ lines.length = ts.length := by
  induction ts generalizing n with
  | nil => exact ⟨[], .empty, rfl⟩
  | cons t ts ih =>
    obtain ⟨lines, hlines, hlength⟩ := ih (n + 1)
    exact ⟨_, (Written.line (oneLine_tokenLine n t)).append hlines, congrArg (· + 1) hlength⟩

end CommandLine

end SyntaxChecker
