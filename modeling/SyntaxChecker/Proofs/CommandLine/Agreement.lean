import SyntaxChecker.Proofs.Analyser.Tee
import SyntaxChecker.Proofs.Caret
import SyntaxChecker.Proofs.CommandLine.Written
import SyntaxChecker.Proofs.OnDemand

/-!
# Checking and tracing agree

One command checks a file and counts its terminals, another one traces the check, and a third
one lists the tokens of the file. They share little. The first has a recorder hear the check,
the second a tee of a trace and a recorder, and the third does without the analyser. A trace is
written even if the check fails, whereas the other commands write nothing but a report then.

About one file they say the same nevertheless (`check_and_trace_agree`). Wrong texts are the
easier half. Sinks that raise no errors of their own have no influence on the outcome, so the
same error is reported with the same snippet. For texts that are fine the count of one
command is found in what the others write. A trace shows as many terminals as its sink has
heard of (`Trace.exists_written_foldl_hear`). Those are the terminals that a recorder keeps. And
they are the tokens that the lexer finds if it is left alone, the end of the input included
(`tokensOf_of_checkText_ok`).
-/

namespace SyntaxChecker

open Listener
open SourceText (Reader)

namespace CommandLine

/-! ## Arguments -/

/-- An argument without a leading hyphen is a value. -/
theorem slot_of_head? {arg : String} (h : arg.toList.head? ≠ some '-')
    (switches : List (String × Switch)) : slot switches arg = some (.value arg) := by
  unfold slot
  split
  · next heq =>
    rw [heq] at h
    exact absurd rfl h
  · rfl

theorem ne_separator_of_head? {arg : String} (h : arg.toList.head? ≠ some '-') : arg ≠ "--" := by
  rintro rfl
  exact h rfl

/-- The switch that turns the order of a chain of errors. -/
def orderSwitch : String := "--innermost-first"

/-- The name of a command and a path, with some switches before and behind the path. -/
def commandLine (command path : String) (before after : Nat) : List String :=
  command :: (List.replicate before orderSwitch ++ path :: List.replicate after orderSwitch)

section Usage

variable {u : Usage}

theorem slots_orderSwitches
    (h : slot u.switches orderSwitch = some (.switch .innermostFirst .nothing))
    {args : List String} {ss : List Slot} (hargs : slots u.switches args = some ss) (n : Nat) :
    slots u.switches (List.replicate n orderSwitch ++ args)
      = some (List.replicate n (.switch .innermostFirst .nothing) ++ ss) := by
  induction n with
  | zero => exact hargs
  | succ n ih =>
    rw [List.replicate_succ, List.cons_append, slots, if_neg (by decide), h, ih]
    rfl

theorem readSlots_innermostFirst (run : Option (List String)) (g : Given) (ss : List Slot) :
    readSlots u run g (.switch .innermostFirst .nothing :: ss)
      = readSlots u none { g.noteRun u.arity run with innermostFirst := true } ss := by
  conv_lhs => unfold readSlots
  rfl

theorem readSlots_orderSwitches (n : Nat) (g : Given) (ss : List Slot) :
    readSlots u none g (List.replicate n (.switch .innermostFirst .nothing) ++ ss)
      = readSlots u none { g with innermostFirst := g.innermostFirst || decide (0 < n) } ss := by
  induction n generalizing g with
  | zero =>
    rw [show (g.innermostFirst || decide (0 < 0)) = g.innermostFirst from Bool.or_false _]
    rfl
  | succ n ih =>
    rw [List.replicate_succ, List.cons_append, readSlots_innermostFirst, ih]
    simp [Given.noteRun]

/-- **A path with some switches around it** is the only value. -/
theorem Usage.read_commandLine
    (h : slot u.switches orderSwitch = some (.switch .innermostFirst .nothing))
    (harity : u.arity.admits 1 = true) {path : String} (hpath : path.toList.head? ≠ some '-')
    (before after : Nat) :
    u.read (List.replicate before orderSwitch ++ path :: List.replicate after orderSwitch)
      = .proceed { Given.nothing with
          values := some [path], innermostFirst := decide (0 < before + after) } := by
  have hafter := slots_orderSwitches h (show slots u.switches [] = some [] from rfl) after
  rw [List.append_nil] at hafter
  have hslots : slots u.switches (path :: List.replicate after orderSwitch)
      = some (.value path :: (List.replicate after (.switch .innermostFirst .nothing) ++ [])) := by
    rw [slots, if_neg (ne_separator_of_head? hpath), slot_of_head? hpath, hafter]
  unfold Usage.read
  rw [slots_orderSwitches h hslots]
  dsimp only
  rw [readSlots_orderSwitches, readSlots]
  cases after with
  | zero =>
    show readSlots u (some [path]) _ [] = _
    simp [readSlots, Given.noteRun, Given.nothing, harity]
  | succ after =>
    have hpos : 0 < before + (after + 1) := Nat.succ_pos _
    rw [List.replicate_succ, List.cons_append, readSlots_innermostFirst, readSlots_orderSwitches]
    simp [readSlots, Given.noteRun, Given.nothing, harity, hpos]

end Usage

theorem withSurplus_false (v : Verdict Request) : v.withSurplus false = v := by
  cases v <;> rfl

theorem readArguments_check {path : String} (hpath : path.toList.head? ≠ some '-')
    (before after : Nat) : readArguments (commandLine "check" path before after)
      = .proceed (.check [path] ⟨decide (0 < before + after), false⟩) := by
  show (Command.check.read _).withSurplus false = _
  rw [withSurplus_false, Command.read, Usage.read_commandLine rfl rfl hpath]
  rfl

theorem readArguments_trace {path : String} (hpath : path.toList.head? ≠ some '-')
    (before after : Nat) : readArguments (commandLine "trace" path before after)
      = .proceed (.trace path ⟨decide (0 < before + after), false⟩) := by
  show (Command.trace.read _).withSurplus false = _
  rw [withSurplus_false, Command.read, Usage.read_commandLine rfl rfl hpath]
  rfl

theorem readArguments_lex {path : String} (hpath : path.toList.head? ≠ some '-') :
    readArguments ["lex", "--input", path] = .proceed (.lexFile path) := by
  have hslots : slots Command.lex.usage.switches ["--input", path]
      = some [.switch .input .nothing, .value path] := by
    rw [slots, if_neg (by decide), slots, if_neg (ne_separator_of_head? hpath),
      slot_of_head? hpath]
    rfl
  show (Command.lex.read _).withSurplus false = _
  rw [withSurplus_false, Command.read, Usage.read, hslots]
  rfl

end CommandLine

/-! ## A text that is fine -/

/-- **What sinks hear of a text that is fine**: notices that are written on one line each. -/
theorem exists_heard_of_checkText_ok {text sourceName : String}
    (h : (checkText text Sink.recorder sourceName).1 = .ok ()) :
    ∃ ns, (∀ n ∈ ns, OneLine (Trace.wording n))
      ∧ ∀ {sink : Sink}, Calm sink →
        checkText text sink sourceName = (.ok (), sendAll ns sink) := by
  rw [checkText, checkSupply_of_calm _ Sink.calm_recorder] at h
  rcases hstart : Analyser.start (Lexer.ofText text) Journal.empty sourceName with e | j
  all_goals rw [hstart] at h
  · cases h
  · have hsink : j.sink = Journal.empty := by
      unfold Analyser.start at hstart
      rcases hpull : Supply.pull (Lexer.ofText text) with ⟨_ | _, _⟩
      all_goals rw [hpull] at hstart
      · cases hstart
      · cases hstart
        rfl
    have hnotices : ∃ trees, (Call.program.run j).2.sink.notices
        = (Tree.eventsAll trees).map .event ++ [.success] := by
      have hruns := Call.program.runs_check j
      dsimp only at h
      rw [Call.run_eq_check] at h ⊢
      generalize Call.program.check j = result at hruns h ⊢
      cases hruns with
      | error => cases h
      | @ok trees k _ hcourse =>
        refine ⟨trees, ?_⟩
        show (k.sink.write [.success]).notices = _
        rw [hcourse.sink_eq, hsink]
        rfl
    obtain ⟨trees, hnotices⟩ := hnotices
    refine ⟨(Call.program.run j).2.sink.notices, ?_, fun {sink} hcalm => ?_⟩
    · rw [hnotices, List.forall_mem_append, List.forall_mem_singleton, List.forall_mem_map]
      exact ⟨Trace.oneLine_wording_eventsAll trees, by decide⟩
    · rw [checkText, checkSupply_of_calm _ hcalm, hstart]
      exact Prod.ext h rfl

/-- **No check gets past a lexical error.** -/
theorem checkText_ne_ok_of_tokensOf_error {text : String} {e : LexicalError}
    (htokens : tokensOf text = .error e) (sourceName : String) :
    (checkText text Sink.recorder sourceName).1 ≠ .ok () := by
  intro h
  obtain ⟨ts, hbreaks⟩ := Lexer.tokensOf_eq_error_iff.1 htokens
  have hts := hbreaks.isEof_eq_false
  obtain ⟨l, l', hyields, hnext⟩ := hbreaks
  have hpull : Supply.pull l = (.error (Raised.fresh (.lexical e)), l') :=
    Lexer.pull_eq_error_iff.2 ⟨e, rfl, hnext⟩
  rw [checkText] at h
  -- either the error is reached, or a token before it does not fit
  by_cases hviable : (Phrase.rule .statementPart).Viable (ts.map Token.symbol)
  · cases ts with
    | nil =>
      cases hyields
      rw [checkSupply, Analyser.start, hpull] at h
      cases h
    | cons t ts =>
      obtain ⟨r, record, herror, -, -⟩ := exists_error_of_viable hyields
        (List.cons_ne_nil t ts) hpull rfl hviable sourceName
      rw [herror] at h
      cases h
  · have hnoEnd : ¬ ∃ t ∈ ts, t.isEof = true := by
      rintro ⟨t, ht, heof⟩
      exact Bool.eq_false_iff.1 (hts t ht) heof
    rw [checkSupply_eq_of_not_viable hyields (fun hend => absurd hend hnoEnd) hviable
      Sink.calm_recorder sourceName] at h
    obtain ⟨r, t, herror, -, -⟩ :=
      exists_accused_of_not_viable hts hviable Sink.calm_recorder sourceName
    rw [herror] at h
    cases h

/-- **A text that is fine has a list of tokens**, which are the recorded terminals. -/
theorem tokensOf_of_checkText_ok {text sourceName : String}
    (h : (checkText text Sink.recorder sourceName).1 = .ok ()) :
    ∃ ts record, tokensOf text = .ok ts
      ∧ (checkText text Sink.recorder sourceName).2 = .recording record
      ∧ record.terminals = ts := by
  cases htokens : tokensOf text with
  | ok ts =>
    obtain ⟨us, t, l', rfl, hus, ht, hyields, hend⟩ := Lexer.yields_of_drain rfl htokens
    have hsame : checkText text Sink.recorder sourceName
        = checkSupply (TokenList.ofList (us ++ [t])) Sink.recorder sourceName :=
      checkSupply_eq_of_not_viable hyields
        (fun _ => ⟨_, _, Lexer.pull_eq_ok_iff.2 hend.next_eq⟩)
        (not_viable_of_isEof (List.mem_append_right us (List.mem_singleton.2 rfl)) ht)
        Sink.calm_recorder sourceName
    rw [hsame] at h ⊢
    obtain ⟨record, hrecord, hterminals⟩ := terminals_of_checkSupply_ok hus ht h
    exact ⟨_, record, rfl, hrecord, hterminals⟩
  | error e => exact absurd h (checkText_ne_ok_of_tokensOf_error htokens sourceName)

/-- **What the command for traces writes** is what its sink has heard. -/
theorem written?_sendAll (ns : List Notice) (indent : String) :
    (sendAll ns (Sink.tee [Sink.tracer indent, Sink.recorder])).written?
      = some (ns.foldl Trace.hear (Trace.empty indent)).text := by
  unfold Sink.written?
  rw [Sink.leaves_sendAll ns rfl]
  show List.findSome? _ [sendAll ns (Sink.trace _), sendAll ns Sink.recorder] = _
  rw [sendAll_trace]
  rfl

/-! ## Two commands -/

namespace CommandLine

/-- **How a file fares** with the commands that check and that trace. -/
inductive Agrees (read : Reader) (path : String) :
    Result × Transcript → Result × Transcript → Prop
  /-- The bytes of the file are no text. -/
  | undecodable : Agrees read path (.error .undecodable, .empty) (.error .undecodable, .empty)
  /-- The file cannot be opened or its text is wrong. A trace may have been begun. -/
  | wrong {report : Transcript} (written : String) : report.output = "" →
      Agrees read path (.ok statusFailed, report) (.ok statusFailed, ⟨written, ""⟩ ++ report)
  | fine {text written : String} {ts : List Token} {lines : List (List Char)} :
      SourceText.load read path = .ok text → tokensOf text = .ok ts → Written written lines →
        lines.countP Trace.isTerminalLine = ts.length →
          Agrees read path
            (.ok statusOk,
              .outputLine ("[CHECK OK] " ++ path ++ " terminals=" ++ toString ts.length))
            (.ok statusOk, ⟨written, ""⟩)

theorem load_eq_error {read : Reader} {path : String} {f : Fault}
    (h : SourceText.load read path = .error f) :
    f = .undecodable ∨ ∃ o, f = .unopened o path := by
  unfold SourceText.load at h
  split at h
  · next o _ =>
    cases h
    exact .inr ⟨o, rfl⟩
  · split at h
    · cases h
      exact .inl rfl
    · cases h

/-- A report is not part of the output. -/
theorem output_syntaxReport (text : String) (style : ReportStyle) (r : Raised) :
    (syntaxReport text style r).output = "" := by
  unfold syntaxReport
  cases snippet? text r.innermost <;> rfl

/-- **Both commands come to the same** about every file. -/
theorem agrees (read : Reader) (path : String) (innermostFirst : Bool) :
    Agrees read path (checkPath read ⟨innermostFirst, false⟩ path)
      (tracePath read ⟨innermostFirst, false⟩ path) := by
  unfold checkPath tracePath withText
  rcases hload : SourceText.load read path with f | text
  · rcases load_eq_error hload with rfl | ⟨o, rfl⟩
    · exact .undecodable
    · have hwrong : Agrees read path (.ok statusFailed, openReport o path)
          (.ok statusFailed, .empty ++ openReport o path) := .wrong "" rfl
      rwa [Transcript.empty_append] at hwrong
  · have hcalm := Sink.calm_tee_tracer Trace.customaryIndent
    dsimp only
    cases houtcome : (checkText text Sink.recorder path).1 with
    | error r =>
      have htrace := (checkSupply_fst_eq_of_calm _ hcalm Sink.calm_recorder path).trans houtcome
      obtain ⟨hsyn, -⟩ := pointedAt_of_checkText houtcome
      rw [show (checkText text (Sink.tee _) path).1 = _ from htrace, checkReport, traceReport,
        if_pos hsyn, if_pos hsyn]
      -- without details there is nothing before and behind the report
      show Agrees read path (_, .empty ++ _) (_, .empty ++ (_ ++ (_ ++ .empty)))
      rw [Transcript.empty_append, Transcript.empty_append, Transcript.append_empty]
      exact .wrong _ (output_syntaxReport ..)
    | ok =>
      obtain ⟨ns, hns, hheard⟩ := exists_heard_of_checkText_ok houtcome
      obtain ⟨ts, record, htokens, hrecord, hterminals⟩ := tokensOf_of_checkText_ok houtcome
      have hblank : ∀ c ∈ Trace.customaryIndent.toList, c = ' ' := fun c hc =>
        List.eq_of_mem_replicate (n := 2) hc
      obtain ⟨lines, hlines, hcount⟩ := Trace.exists_written_foldl_hear ns hns
        (t := Trace.empty Trace.customaryIndent) hblank .empty
      have hheardTokens : ns.filterMap Notice.token? = ts := by
        rw [hheard Sink.calm_recorder] at hrecord
        obtain rfl := Sink.recording.inj ((sendAll_recording ns Recording.empty).symm.trans hrecord)
        rw [Recording.terminals_foldl_hear] at hterminals
        exact hterminals
      rw [hrecord, hheard hcalm, written?_sendAll]
      show Agrees read path (_, .empty ++ (.empty ++ .outputLine
        ("[CHECK OK] " ++ path ++ " terminals=" ++ toString record.terminals.length)))
        (_, .empty ++ (_ ++ .empty))
      rw [Transcript.empty_append, Transcript.empty_append, Transcript.empty_append,
        Transcript.append_empty, hterminals]
      exact .fine hload htokens hlines (hcount.trans (congrArg _ hheardTokens))

theorem checkPaths_singleton (read : Reader) (style : ReportStyle) (path : String) :
    checkPaths read style [path] = checkPath read style path := by
  unfold checkPaths
  rcases checkPath read style path with ⟨_ | status, t⟩
  · rfl
  · show (Except.ok (max status 0), t ++ .empty) = _
    rw [Nat.max_zero, Transcript.append_empty]

/-- How the program ends, given the result of its command. -/
def Ending.ofResult : Result → Ending
  | .ok status => .returned status
  | .error f => .brokeOff f

theorem run_of_proceed {args : List String} {request : Request}
    (h : readArguments args = .proceed request) (read : Reader) :
    run read args = (.ofResult (request.run read).1, (request.run read).2) := by
  unfold run
  rw [h]
  dsimp only
  rcases request.run read with ⟨_ | _, _⟩ <;> rfl

/-- **Checking and tracing agree.** Let a file be checked and traced, with the switch for the
order of errors in both cases or in none. If its bytes are no text, both commands break off
without having written anything. Otherwise both return the same status and write the same
reports. If all is well, the check writes a line with a number; and that is how many lines of
the trace show a terminal, and how many tokens, the end of the input among them, are listed
for the file, one on a line. If not, the check writes nothing else than the report. -/
theorem check_and_trace_agree (read : Reader) {path : String}
    (hpath : path.toList.head? ≠ some '-') {before after before' after' : Nat}
    (hswitch : 0 < before + after ↔ 0 < before' + after') :
    let checked := run read (commandLine "check" path before after)
    let traced := run read (commandLine "trace" path before' after')
    checked = (.brokeOff .undecodable, .empty) ∧ traced = (.brokeOff .undecodable, .empty)
      ∨ ∃ status, checked.1 = .returned status ∧ traced.1 = .returned status
        ∧ checked.2.reports = traced.2.reports
        ∧ (status = 2 ∧ checked.2.output = ""
          ∨ status = 0 ∧ ∃ text ts, SourceText.load read path = .ok text ∧ tokensOf text = .ok ts
            ∧ checked.2.output
              = "[CHECK OK] " ++ path ++ " terminals=" ++ toString ts.length ++ "\n"
            ∧ (linesOf traced.2.output).countP Trace.isTerminalLine = ts.length
            ∧ run read ["lex", "--input", path] = (.returned 0, tokenLines 0 ts)
            ∧ (linesOf (tokenLines 0 ts).output).length = ts.length) := by
  intro checked traced
  have hagrees := agrees read path (decide (0 < before + after))
  have hchecked : checked = _ := run_of_proceed (readArguments_check hpath before after) read
  have htraced : traced = _ := run_of_proceed (readArguments_trace hpath before' after') read
  have hstyle : decide (0 < before' + after') = decide (0 < before + after) :=
    decide_eq_decide.2 hswitch.symm
  rw [Request.run, checkPaths_singleton] at hchecked
  rw [Request.run, hstyle] at htraced
  clear_value checked traced
  generalize checkPath read _ path = result at hagrees hchecked
  generalize tracePath read _ path = result' at hagrees htraced
  subst hchecked htraced
  cases hagrees with
  | undecodable => exact .inl ⟨rfl, rfl⟩
  | wrong written houtput =>
    exact .inr ⟨2, rfl, rfl, (String.empty_append ..).symm, .inl ⟨rfl, houtput⟩⟩
  | @fine text written ts lines hload htokens hlines hcount =>
    obtain ⟨listed, hlisted, hlength⟩ := exists_written_tokenLines 0 ts
    refine .inr ⟨0, rfl, rfl, rfl, .inr ⟨rfl, text, ts, hload, htokens, rfl, ?_, ?_, ?_⟩⟩
    · show (linesOf written).countP _ = _
      rw [hlines.linesOf_eq, hcount]
    · rw [run_of_proceed (readArguments_lex hpath), Request.run, lexPath, withText, hload]
      dsimp only
      rw [lexText, htokens, Transcript.empty_append]
      rfl
    · rw [hlisted.linesOf_eq, hlength]

/-- The file holds `begin x:=y end`. The switch stands before the path in one command line and
twice behind it in the other. -/
theorem check_and_trace_agree_assignment :
    let read : Reader := fun _ =>
      .ok [98, 101, 103, 105, 110, 32, 120, 58, 61, 121, 32, 101, 110, 100]
    let checked := run read (commandLine "check" "p" 1 0)
    let traced := run read (commandLine "trace" "p" 0 2)
    "p".toList.head? ≠ some '-' ∧ (0 < 1 + 0 ↔ 0 < 0 + 2)
      ∧ checked.1 = .returned 0 ∧ traced.1 = .returned 0
      ∧ checked.2.reports = traced.2.reports
      ∧ ∃ ts, checked.2.output = "[CHECK OK] p terminals=" ++ toString (ts.length : Nat) ++ "\n"
        ∧ (linesOf traced.2.output).countP Trace.isTerminalLine = ts.length
        ∧ run read ["lex", "--input", "p"] = (.returned 0, tokenLines 0 ts) := by
  intro read
  have hpath : "p".toList.head? ≠ some '-' := by decide
  have hswitch : 0 < 1 + 0 ↔ 0 < 0 + 2 := by decide
  have hstatus : (run read (commandLine "check" "p" 1 0)).1 = .returned 0 := by
    dsimp only [read]
    decide +kernel
  -- what the file holds does not matter any more
  clear_value read
  intro checked traced
  refine ⟨hpath, hswitch, hstatus, ?_⟩
  rcases check_and_trace_agree read hpath hswitch with
    ⟨hbroke, -⟩ | ⟨status, hchecked, htraced, hreports, hrest⟩
  · cases hstatus.symm.trans (congrArg Prod.fst hbroke)
  · obtain rfl : status = 0 := Ending.returned.inj (hchecked.symm.trans hstatus)
    rcases hrest with ⟨hfailed, -⟩ | ⟨-, _, ts, -, -, houtput, hterminals, hlisted, -⟩
    · cases hfailed
    · exact ⟨htraced, hreports, ts, houtput, hterminals, hlisted⟩

end CommandLine

end SyntaxChecker
