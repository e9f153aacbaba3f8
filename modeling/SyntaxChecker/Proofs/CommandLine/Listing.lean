import SyntaxChecker.Proofs.CommandLine.Agreement
import SyntaxChecker.Proofs.Quotation

/-!
# The list of tokens is lossless

What is listed for a text is either the error of the lexer or all tokens, each on a line of
its own, and two texts with the same list have the same tokens (`listing_is_lossless`). This
depends on each field of a line. The number of a line is known from its place. The name of a
symbol has no blank in it, so it ends at the first one, however wide its column is. The lexeme
is quoted and tells by itself where it ends (`Text.quotedChars_append_inj`). And in what
remains, two blanks, the line, a colon and the column, there is only one colon.

A text is given as an argument, and the reader of arguments does not leave all texts as they
are: if it consists of two hyphens, they are taken away, here as where they end the switches.
The two hyphens begin a comment, which has a length, and so the place of the end of the input
that is listed is wrong for this one text (`two_hyphens_are_lost`).
-/

namespace SyntaxChecker.CommandLine

open SourceText (Reader)

/-! ## Lines of tokens -/

/-- Two texts that are equal up to a delimiter and behind it. -/
theorem append_cons_inj_of_delimiter {c : Char} {front front' rest rest' : List Char}
    (hfront : c ∉ front) (hfront' : c ∉ front') (h : front ++ c :: rest = front' ++ c :: rest') :
    front = front' ∧ rest = rest' := by
  have hsplit := congrArg (List.splitOn c) h
  rw [List.splitOn_append_cons_self_of_not_mem hfront,
    List.splitOn_append_cons_self_of_not_mem hfront'] at hsplit
  obtain ⟨rfl, -⟩ := List.cons.inj hsplit
  exact ⟨rfl, (List.cons.inj (List.append_cancel_left h)).2⟩

theorem blank_notMem_name (s : Symbol) : ' ' ∉ s.name.toList := by
  cases s <;> decide

theorem colon_notMem_repr (n : ℤ) : ':' ∉ n.repr.toList := fun h => by
  rcases isDigit_or_of_mem_repr h with h | h <;> cases h

/-- **A number is determined by its digits**, which can be read back. -/
theorem natRepr_inj {m n : ℕ} (h : m.repr.toList = n.repr.toList) : m = n := by
  have hread : ∀ n : ℕ, Nat.ofDigitChars 10 n.repr.toList 0 = n := fun n => by
    rw [Nat.toList_repr, Nat.ofDigitChars_toDigits (by decide) (by decide)]
  rw [← hread m, h, hread]

/-- **A number is determined by its digits and the hyphen in front**, if there is one. -/
theorem intRepr_inj {m n : ℤ} (h : m.repr.toList = n.repr.toList) : m = n := by
  have hdigits : ∀ m n : ℕ, m.repr.toList ≠ (Int.negSucc n).repr.toList := fun m n h => by
    have hmem : '-' ∈ m.repr.toList := by
      rw [h, toList_repr_negSucc]
      exact List.mem_cons_self
    cases isDigit_of_mem_repr hmem
  cases m with
  | ofNat m =>
    cases n with
    | ofNat n => exact congrArg Int.ofNat (natRepr_inj h)
    | negSucc n => exact (hdigits m n h).elim
  | negSucc m =>
    cases n with
    | ofNat n => exact (hdigits n m h.symm).elim
    | negSucc n =>
      rw [toList_repr_negSucc, toList_repr_negSucc] at h
      exact congrArg Int.negSucc (Nat.succ_inj.1 (natRepr_inj (List.cons.inj h).2))

/-- The line of a token, behind its number. -/
def tokenFields (t : Token) : List Char :=
  t.symbol.name.toList ++ ' ' :: (List.replicate (18 - t.symbol.name.length) ' '
    ++ (Text.quotedChars t.text.toList
      ++ (' ' :: ' ' :: '@' :: (t.line.repr.toList ++ ':' :: t.col.repr.toList))))

theorem toList_tokenLine (n : ℕ) (t : Token) :
    (tokenLine n t).toList = (listNumber n ++ ": ").toList ++ tokenFields t := by
  have hblanks : ∀ (width : ℕ) (rest : List Char),
      List.replicate width ' ' ++ ' ' :: rest = ' ' :: (List.replicate width ' ' ++ rest) :=
    fun width rest => by
      rw [← List.cons_append, ← List.replicate_succ, List.replicate_succ', List.append_assoc]
      rfl
  have hline : (tokenLine n t).toList = (listNumber n ++ ": ").toList ++ (t.symbol.name.toList
      ++ (List.replicate (18 - t.symbol.name.length) ' ' ++ (' ' :: (Text.quotedChars t.text.toList
        ++ (' ' :: ' ' :: '@' :: (t.line.repr.toList ++ ':' :: t.col.repr.toList)))))) := by
    simp [tokenLine, nameColumn, Text.quoted, String.toList_append]
  rw [hline, hblanks, tokenFields]

/-- **A line determines its token.** -/
theorem tokenFields_inj {t t' : Token} (h : tokenFields t = tokenFields t') : t = t' := by
  obtain ⟨symbol, text, line, col⟩ := t
  obtain ⟨symbol', text', line', col'⟩ := t'
  obtain ⟨hname, hrest⟩ := append_cons_inj_of_delimiter (blank_notMem_name symbol)
    (blank_notMem_name symbol') h
  have hsymbol : symbol = symbol' := by
    have hread := congrArg Symbol.ofName? (String.toList_injective hname)
    rw [Symbol.ofName?_name, Symbol.ofName?_name] at hread
    exact Option.some.inj hread
  subst hsymbol
  obtain ⟨htext, hplace⟩ := Text.quotedChars_append_inj (List.append_cancel_left hrest)
  have hnumbers : line.repr.toList ++ ':' :: col.repr.toList
      = line'.repr.toList ++ ':' :: col'.repr.toList :=
    (List.append_right_inj [' ', ' ', '@']).1 hplace
  obtain ⟨hline, hcol⟩ := append_cons_inj_of_delimiter (colon_notMem_repr line)
    (colon_notMem_repr line') hnumbers
  obtain rfl : text = text' := String.toList_injective htext
  obtain rfl := intRepr_inj hline
  obtain rfl := intRepr_inj hcol
  rfl

theorem reports_tokenLines (n : ℕ) (ts : List Token) : (tokenLines n ts).reports = "" := by
  induction ts generalizing n with
  | nil => rfl
  | cons t ts ih =>
    rw [tokenLines, Transcript.reports_append, ih]
    rfl

/-- **A list determines its tokens.** -/
theorem tokenLines_inj {n : ℕ} {ts ts' : List Token}
    (h : (tokenLines n ts).output = (tokenLines n ts').output) : ts = ts' := by
  have hcons : ∀ (n : ℕ) (t : Token) (ts : List Token), (tokenLines n (t :: ts)).output.toList
      = (tokenLine n t).toList ++ '\n' :: (tokenLines (n + 1) ts).output.toList := fun n t ts => by
    rw [tokenLines, Transcript.output_append, String.toList_append, Transcript.outputLine,
      String.toList_append, List.append_assoc]
    rfl
  have hne : ∀ (n : ℕ) (t : Token) (ts : List Token),
      (tokenLines n (t :: ts)).output ≠ (tokenLines n []).output := fun n t ts h => by
    have hlist := congrArg String.toList h
    rw [hcons] at hlist
    exact List.append_ne_nil_of_right_ne_nil _ (List.cons_ne_nil _ _) hlist
  induction ts generalizing n ts' with
  | nil =>
    cases ts' with
    | nil => rfl
    | cons t' ts' => exact (hne n t' ts' h.symm).elim
  | cons t ts ih =>
    cases ts' with
    | nil => exact (hne n t ts h).elim
    | cons t' ts' =>
      have hlist := congrArg String.toList h
      rw [hcons, hcons] at hlist
      obtain ⟨hline, hrest⟩ := append_cons_inj_of_delimiter (oneLine_tokenLine n t)
        (oneLine_tokenLine n t') hlist
      rw [toList_tokenLine, toList_tokenLine] at hline
      rw [tokenFields_inj (List.append_cancel_left hline), ih (String.toList_injective hrest)]

/-! ## The text as an argument -/

theorem slot_of_exactReading {switches : List (String × Switch)} {arg : String} {second : Char}
    {rest : List Char} {s : Slot} (hlist : arg.toList = '-' :: second :: rest)
    (h : exactReading switches arg.toList = some s) : slot switches arg = some s := by
  unfold slot
  split
  · next heq =>
    rw [heq] at h
    dsimp only
    rw [h]
  · next hother => exact absurd hlist (hother second rest)

/-- A switch and a text behind an equals sign are told apart. -/
theorem slot_text (text : String) : slot Command.lex.usage.switches ("--text=" ++ text)
    = some (.switch .text (.value text.toList)) := by
  have hlist : ("--text=" ++ text).toList = '-' :: '-' :: ("text=".toList ++ text.toList) := by
    rw [String.toList_append]
    rfl
  -- no switch is spelled with an equals sign, so the argument is not the spelling of one
  have hspelled : Command.lex.usage.switches.lookup (String.ofList ("--text=" ++ text).toList)
      = none := by
    have hswitches : ∀ p ∈ Command.lex.usage.switches, '=' ∉ p.1.toList := by decide
    refine List.lookup_eq_none_iff.2 fun p hp => bne_iff_ne.2 fun heq => hswitches p hp ?_
    rw [← heq, String.ofList_toList, hlist]
    simp
  refine slot_of_exactReading hlist ?_
  unfold exactReading
  rw [hspelled]
  dsimp only
  rw [hlist]
  rfl

/-- **A text behind the switch for it** is what is asked for, except for two hyphens. -/
theorem readArguments_lexText (text : String) :
    readArguments ["lex", "--text=" ++ text]
      = .proceed (.lexText (attachedValue .text text.toList)) := by
  have hnotEnd : "--text=" ++ text ≠ "--" := fun h => by
    have hlength := congrArg String.length h
    rw [String.length_append] at hlength
    have hswitch : "--text=".length = 7 := rfl
    have hend : "--".length = 2 := rfl
    omega
  have hslots : slots Command.lex.usage.switches ["--text=" ++ text]
      = some [.switch .text (.value text.toList)] := by
    rw [slots, if_neg hnotEnd, slot_text]
    rfl
  show (Command.lex.read _).withSurplus false = _
  rw [withSurplus_false, Command.read, Usage.read, hslots]
  rfl

theorem run_lexText (read : Reader) {text : String} (h : text ≠ "--") :
    run read ["lex", "--text=" ++ text] = (.ofResult (lexText text).1, (lexText text).2) := by
  have hvalue : attachedValue .text text.toList = text := by
    have hlist : text.toList ≠ ['-', '-'] := fun hlist => h (String.toList_injective hlist)
    rw [attachedValue, if_neg fun hdropped => hlist hdropped.2, String.ofList_toList]
  rw [run_of_proceed (readArguments_lexText text), hvalue]
  rfl

/-- If two hyphens are all there is of a text, the tokens of an empty text are listed. -/
theorem run_lexText_hyphens (read : Reader) :
    run read ["lex", "--text=--"] = (.returned 0, tokenLines 0 [.endOfInput 1 1]) := by
  have hempty : tokensOf "" = .ok [.endOfInput 1 1] := by decide +kernel
  have hlex : lexText "" = (.ok statusOk, tokenLines 0 [.endOfInput 1 1]) := by
    rw [lexText, hempty]
  have hrun := run_of_proceed (readArguments_lexText "--") read
  rw [Request.run, show attachedValue .text "--".toList = "" from rfl, hlex] at hrun
  exact hrun

theorem tokensOf_hyphens : tokensOf "--" = .ok [.endOfInput 1 3] := by decide +kernel

/-- **The list of tokens is lossless.** Let a text be given to the command that lists tokens. If
the lexer finds tokens in it, the command returns zero and writes no reports, and its output has
one line for each token and nothing else. If the lexer raises an error, the command returns two
and reports this error, and it lists nothing, not even the tokens before the error. If tokens are
found in another text too and the outputs are the same, then the tokens are the same, with their
symbols, lexemes and places, unless one of the texts is two hyphens alone. -/
theorem listing_is_lossless (read : Reader) (text : String) :
    let listed := fun text => run read ["lex", "--text=" ++ text]
    (∀ ts, tokensOf text = .ok ts → ∃ output lines, listed text = (.returned 0, ⟨output, ""⟩)
      ∧ Written output lines ∧ lines.length = ts.length)
    ∧ (∀ e, tokensOf text = .error e → listed text
      = (.returned 2, ⟨"", "[LEX ERROR] " ++ (Fault.lexical e).message ++ "\n"⟩))
    ∧ ∀ text' ts ts', text ≠ "--" → text' ≠ "--" →
      tokensOf text = .ok ts → tokensOf text' = .ok ts' →
        (listed text).2.output = (listed text').2.output → ts = ts' := by
  intro listed
  have hlisted : ∀ {text}, text ≠ "--" → ∀ ts, tokensOf text = .ok ts →
      listed text = (.returned 0, tokenLines 0 ts) := fun h ts htokens => by
    show run read _ = _
    rw [run_lexText read h, lexText, htokens]
    rfl
  have hwritten : ∀ us : List Token, listed text = (.returned 0, tokenLines 0 us) →
      ∃ output lines, listed text = (.returned 0, ⟨output, ""⟩)
        ∧ Written output lines ∧ lines.length = us.length := fun us h => by
    obtain ⟨lines, hlines, hlength⟩ := exists_written_tokenLines 0 us
    refine ⟨_, lines, h.trans (congrArg _ ?_), hlines, hlength⟩
    exact Transcript.ext rfl (reports_tokenLines 0 us)
  refine ⟨fun ts htokens => ?_, fun e htokens => ?_,
    fun text' ts ts' h h' htokens htokens' heq => ?_⟩
  · by_cases h : text = "--"
    · -- there is one line, although it is wrong
      subst h
      obtain rfl := Except.ok.inj (tokensOf_hyphens.symm.trans htokens)
      exact hwritten [.endOfInput 1 1] (run_lexText_hyphens read)
    · exact hwritten ts (hlisted h ts htokens)
  · have h : text ≠ "--" := by
      rintro rfl
      cases tokensOf_hyphens.symm.trans htokens
    show run read _ = _
    rw [run_lexText read h, lexText, htokens]
    rfl
  · rw [hlisted h ts htokens, hlisted h' ts' htokens'] at heq
    exact tokenLines_inj heq

/-- String constants with both quotes and a backslash or a control character, and a text that
is refused because of its last character. -/
theorem listing_is_lossless_quotes :
    let listed := fun text => run (fun _ => .error .missing) ["lex", "--text=" ++ text]
    let text := "\x22'\x5c\x22"
    let text' := "\x22'\u001b\x22"
    let ts : List Token := [⟨.stringConstant, text, 1, 1⟩, .endOfInput 1 5]
    let ts' : List Token := [⟨.stringConstant, text', 1, 1⟩, .endOfInput 1 5]
    let e : LexicalError := ⟨"Unexpected character '?'", 1, 5, "?"⟩
    text ≠ "--" ∧ text' ≠ "--"
      ∧ tokensOf text = .ok ts ∧ tokensOf text' = .ok ts' ∧ tokensOf (text ++ "?") = .error e
      ∧ (∃ output lines, listed text = (.returned 0, ⟨output, ""⟩)
        ∧ Written output lines ∧ lines.length = ts.length)
      ∧ (listed text).2.output ≠ (listed text').2.output
      ∧ listed (text ++ "?")
        = (.returned 2, ⟨"", "[LEX ERROR] " ++ (Fault.lexical e).message ++ "\n"⟩) := by
  intro listed text text' ts ts' e
  have htext : text ≠ "--" := by decide
  have htext' : text' ≠ "--" := by decide
  have htokens : tokensOf text = .ok ts := by
    dsimp only [text, ts]
    decide +kernel
  have htokens' : tokensOf text' = .ok ts' := by
    dsimp only [text', ts']
    decide +kernel
  have herror : tokensOf (text ++ "?") = .error e := by
    dsimp only [text, e]
    decide +kernel
  have hne : ts ≠ ts' := by decide
  obtain ⟨hlines, -, hlossless⟩ := listing_is_lossless (fun _ => .error .missing) text
  obtain ⟨-, hreport, -⟩ := listing_is_lossless (fun _ => .error .missing) (text ++ "?")
  exact ⟨htext, htext', htokens, htokens', herror, hlines ts htokens,
    fun heq => hne (hlossless text' ts ts' htext htext' htokens htokens' heq), hreport e herror⟩

/-- **Two hyphens are lost.** They are listed like an empty text, although the end of the input
is at another place. -/
theorem two_hyphens_are_lost :
    let listed := fun text => run (fun _ => .error .missing) ["lex", "--text=" ++ text]
    tokensOf "--" = .ok [.endOfInput 1 3] ∧ tokensOf "" = .ok [.endOfInput 1 1]
      ∧ listed "--" = (.returned 0, tokenLines 0 [.endOfInput 1 1])
      ∧ (listed "--").2.output = (listed "").2.output := by
  intro listed
  have hempty : tokensOf "" = .ok [.endOfInput 1 1] := by decide +kernel
  have hlisted : listed "--" = (.returned 0, tokenLines 0 [.endOfInput 1 1]) :=
    run_lexText_hyphens _
  refine ⟨tokensOf_hyphens, hempty, hlisted, ?_⟩
  rw [hlisted]
  show _ = (run _ _).2.output
  rw [run_lexText _ (by decide), lexText, hempty]

end SyntaxChecker.CommandLine
