import SyntaxChecker.CommandLine
import SyntaxChecker.Proofs.Analyser.CalmSinks
import SyntaxChecker.Proofs.Analyser.Origin
import SyntaxChecker.Proofs.Lexer.Lines
import SyntaxChecker.Proofs.Lexer.Yield

/-!
# The caret points at the culprit

A report on a program that is wrong shows a line of the text and a caret. Line and
column are those of the fault at the far end of the error. They went a long way:
the lexer counted them, a token or a lexical error carried them through the check,
and the snippet is found from them by a search. `caret_points_at_culprit` says that
the caret is where it should be, below the first character of what the lexer found
at that time.
-/

namespace SyntaxChecker

open Listener
open SourceText (Reader)

/-! ## Answers of the lexer are shown where they were found -/

/-- **A token is shown** where it was found in a text. The end of the input is shown
at the end of the last line. -/
def Token.ShownAt (text : String) (offset : ℕ) (t : Token) : Prop :=
  ∃ start shown, PointsAt text t.line t.col offset t.text start shown
    ∧ (t.isEof = false → t.text ≠ "")
    ∧ (t.isEof = true → (t.col - 1).toNat = shown.length ∧ start + shown.length = text.length)

/-- **A lexical error is shown** where it was found in a text. What is at fault in a
string constant that is not closed is the rest of the line. -/
def LexicalError.ShownAt (text : String) (offset : ℕ) (e : LexicalError) : Prop :=
  ∃ start shown, PointsAt text e.line e.col offset e.text start shown
    ∧ e.text ≠ ""
    ∧ (e.message = "Unterminated string constant" →
      shown.drop (e.col - 1).toNat = e.text.toList)

theorem Token.shownAt_of_answers {text : String} {stop : ℕ} {t : Token}
    (h : Answers Place.first text.toList stop (.ok t)) :
    ∃ offset, offset + t.text.length = stop ∧ t.ShownAt text offset := by
  obtain ⟨before, rest, htext, hstop, hfound⟩ := h
  obtain ⟨above, left, hbefore, hcol, hpoints⟩ := pointsAt_after htext hfound.unbroken
  rw [← hfound.line_eq, ← hfound.col_eq, String.ofList_toList] at hpoints
  refine ⟨before.length, hstop, _, _, hpoints, hfound.nonempty, fun heof => ?_⟩
  obtain ⟨hempty, rfl⟩ := hfound.isEof heof
  rw [hempty] at htext ⊢
  have hlength : text.length = above.length + left.length := by
    rw [← String.length_toList, htext, hbefore]
    simp
  refine ⟨?_, ?_⟩
  · rw [hfound.col_eq, hcol]
    show _ = (left ++ []).length
    rw [List.append_nil]
    omega
  · rw [hlength]
    simp

theorem LexicalError.shownAt_of_answers {text : String} {stop : ℕ} {e : LexicalError}
    (h : Answers Place.first text.toList stop (.error e)) : e.ShownAt text stop := by
  obtain ⟨before, c, rest, htext, rfl, hc, rfl⟩ := h
  obtain ⟨piece, rest', hsplit, hunbroken, hne, hpiece, hwhole⟩ :=
    refusal_text (Place.first.after before) hc rest
  rw [hsplit] at htext
  obtain ⟨above, left, -, hcol, hpoints⟩ := pointsAt_after htext hunbroken
  obtain ⟨hline, hcolumn⟩ := refusal_place (Place.first.after before) c rest
  rw [← hline, ← hcolumn, ← hpiece] at hpoints
  refine ⟨_, _, hpoints, ?_, fun hmessage => ?_⟩
  · rwa [hpiece, Ne, String.ofList_eq_empty_iff]
  · have hleft : ((refusal (Place.first.after before) c rest).col - 1).toNat = left.length := by
      rw [hcolumn, hcol]
      omega
    rw [hleft, List.drop_left, hpiece, String.toList_ofList, ← hsplit]
    exact (hwhole hmessage).symm

/-! ## The far end of an error is shown -/

/-- **A fault is pointed at** by a snippet: a token that does not fit, or a lexical
error, is shown where the lexer found it. -/
inductive Fault.PointedAt (text : String) : Fault → String → Prop
  | token {t : Token} {offset : ℕ} (message : String) :
      t.ShownAt text offset →
        PointedAt text (.grammar ⟨message, some t, none⟩) (Snippet.render text t.line t.col)
  | lexical {e : LexicalError} {offset : ℕ} :
      e.ShownAt text offset → PointedAt text (.lexical e) (Snippet.render text e.line e.col)

/-- **The far end of an error is pointed at**, whatever text is checked. -/
theorem pointedAt_of_checkText {text sourceName : String} {r : Raised}
    (h : (checkText text Sink.recorder sourceName).1 = .error r) :
    r.isSyntactic = true ∧ ∃ snippet, r.innermost.PointedAt text snippet := by
  have htracks : ∀ {l}, Lexer.Reached (Lexer.ofText text) l → l.Tracks Place.first text.toList :=
    fun hl => (Lexer.tracks_startingAt text 1 1).of_reached hl
  have hlexical : ∀ {l l' e}, Lexer.Reached (Lexer.ofText text) l → l.next = (.error e, l') →
      ∃ snippet, (Fault.lexical e).PointedAt text snippet := by
    intro l l' e hl hnext
    have hanswer := (htracks hl).answers_next.1
    rw [hnext] at hanswer
    exact ⟨_, .lexical (LexicalError.shownAt_of_answers hanswer)⟩
  rw [checkText, checkSupply_of_calm _ Sink.calm_recorder, Analyser.start] at h
  rcases hpull : Supply.pull (Lexer.ofText text) with ⟨e | t, l⟩
  · rw [hpull] at h
    cases h
    obtain ⟨e, rfl, hnext⟩ := Lexer.pull_eq_error_iff.1 hpull
    exact ⟨rfl, hlexical .start hnext⟩
  · rw [hpull] at h
    obtain ⟨ns, -, horigin⟩ := Call.program.origin_of_error h
    cases horigin with
    | @mismatch ts u s message hyields htokens hsyn hinner =>
      have hmem : u ∈ t :: ts := by
        rw [show t :: ts = _ from htokens]
        exact List.mem_append_right _ (List.mem_singleton_self u)
      obtain ⟨m, m', hm, hnext⟩ := (Lexer.Reached.start.of_yields (.cons hpull hyields)).2 u hmem
      have hanswer := (htracks hm).answers_next.1
      rw [hnext] at hanswer
      obtain ⟨offset, -, hshown⟩ := Token.shownAt_of_answers hanswer
      rw [hinner]
      exact ⟨hsyn, _, .token message hshown⟩
    | @supply ts r' s s' hyields htokens hpull' hsyntactic hother =>
      obtain ⟨e, rfl, hnext⟩ := Lexer.pull_eq_error_iff.1 hpull'
      obtain ⟨hsyn, hinner⟩ := hsyntactic rfl
      rw [hinner]
      exact ⟨hsyn, hlexical (Lexer.Reached.start.of_yields (.cons hpull hyields)).1 hnext⟩

/-! ## The reports -/

namespace CommandLine

/-- The report on an error, with a snippet. -/
def culpritReport (style : ReportStyle) (r : Raised) (snippet : String) : Transcript :=
  .reportLine "[SYNTAX ERROR]" ++ .reportLine (formatChain r.chain style.innermostFirst)
    ++ .reportLine snippet

theorem syntaxReport_eq {text snippet : String} {r : Raised}
    (h : r.innermost.PointedAt text snippet) (style : ReportStyle) :
    syntaxReport text style r = culpritReport style r snippet := by
  have hsnippet : snippet? text r.innermost = some snippet := by
    generalize r.innermost = root at h ⊢
    cases h <;> rfl
  rw [syntaxReport, hsnippet]
  rfl

end CommandLine

open CommandLine in
/-- **The caret points at the culprit.** Let a lexer over a text be in any state that
it can be brought to. Line and column of the token that it delivers or tells next
show the line of the text that holds the offset where the lexer has found the
token, with a caret below the first character of it; and if it raises an error
instead, the same is true of the error. If the text is the text of a file that is
wrong, the report on it ends with what is shown for the fault at the far end of
the error. -/
theorem caret_points_at_culprit (text : String) :
    (∀ l l' t, Lexer.Reached (Lexer.ofText text) l →
      l.next = (.ok t, l') ∨ l.peek = (.ok t, l') →
        ∃ offset, offset + t.text.length = l'.cursor.index ∧ t.ShownAt text offset)
    ∧ (∀ l l' e, Lexer.Reached (Lexer.ofText text) l →
      l.next = (.error e, l') ∨ l.peek = (.error e, l') → e.ShownAt text l'.cursor.index)
    ∧ ∀ (read : Reader) (style : ReportStyle) (path : String) (r : Raised),
      SourceText.load read path = .ok text →
      (checkText text Sink.recorder path).1 = .error r →
        ∃ snippet, r.innermost.PointedAt text snippet
          ∧ checkPath read style path
            = (.ok statusFailed, loadedReport style path text ++ culpritReport style r snippet)
          ∧ ∃ written detail, tracePath read style path
            = (.ok statusFailed, loadedReport style path text ++ (⟨written, ""⟩
              ++ (culpritReport style r snippet ++ debugReport style path detail))) := by
  have htracks : ∀ {l}, Lexer.Reached (Lexer.ofText text) l → l.Tracks Place.first text.toList :=
    fun hl => (Lexer.tracks_startingAt text 1 1).of_reached hl
  have hanswers : ∀ {l l' o}, Lexer.Reached (Lexer.ofText text) l →
      l.next = (o, l') ∨ l.peek = (o, l') → Answers Place.first text.toList l'.cursor.index o := by
    intro l l' o hl h
    rcases h with h | h
    · have hanswer := (htracks hl).answers_next.1
      rwa [h] at hanswer
    · have hanswer := (htracks hl).answers_peek.1
      rwa [h] at hanswer
  refine ⟨fun l l' t hl h => Token.shownAt_of_answers (hanswers hl h),
    fun l l' e hl h => LexicalError.shownAt_of_answers (hanswers hl h), ?_⟩
  intro read style path r hload h
  obtain ⟨hsyn, snippet, hpointed⟩ := pointedAt_of_checkText h
  refine ⟨snippet, hpointed, ?_, ?_⟩
  · unfold checkPath withText
    rw [hload]
    dsimp only
    rw [h, checkReport, if_pos hsyn, syntaxReport_eq hpointed]
  · -- a trace is written beside the record, and has no part in the outcome
    have htrace : (checkText text (Sink.tee [Sink.tracer Trace.customaryIndent, Sink.recorder])
        path).1 = .error r :=
      (checkSupply_fst_eq_of_calm _ (Sink.calm_tee_tracer _) Sink.calm_recorder path).trans h
    unfold tracePath withText
    rw [hload]
    dsimp only
    rw [htrace, traceReport, if_pos hsyn, syntaxReport_eq hpointed]
    exact ⟨_, _, rfl⟩

open CommandLine in
/-- A word that begins no program, and a character on the next line that begins no
token. -/
theorem caret_points_at_culprit_two_lines :
    let text := "x\n?"
    let read : Reader := fun _ => .ok [120, 10, 63]
    let style : ReportStyle := ⟨false, false⟩
    (∃ t l', (Lexer.ofText text).next = (.ok t, l')
      ∧ (∃ offset, offset + t.text.length = l'.cursor.index ∧ t.ShownAt text offset)
      ∧ ∃ e l'', l'.peek = (.error e, l'') ∧ e.ShownAt text l''.cursor.index)
    ∧ ∃ r, SourceText.load read "p" = .ok text ∧ (checkText text Sink.recorder "p").1 = .error r
      ∧ ∃ snippet, r.innermost.PointedAt text snippet
        ∧ checkPath read style "p"
          = (.ok statusFailed, loadedReport style "p" text ++ culpritReport style r snippet)
        ∧ ∃ written detail, tracePath read style "p"
          = (.ok statusFailed, loadedReport style "p" text ++ (⟨written, ""⟩
            ++ (culpritReport style r snippet ++ debugReport style "p" detail))) := by
  intro text read style
  obtain ⟨htoken, herror, hreport⟩ := caret_points_at_culprit text
  have hnext : (Lexer.ofText "x\n?").next
      = (.ok ⟨.identifier, "x", 1, 1⟩, ⟨⟨['\n', '?'], 1, 1, 2⟩, none⟩) := rfl
  have hpeek : (⟨⟨['\n', '?'], 1, 1, 2⟩, none⟩ : Lexer).peek
      = (.error ⟨"Unexpected character '?'", 2, 1, "?"⟩, ⟨⟨['?'], 2, 2, 1⟩, none⟩) := rfl
  have hreached := (Lexer.Reached.start : Lexer.Reached (Lexer.ofText "x\n?") _).next
  rw [hnext] at hreached
  have hload : SourceText.load read "p" = .ok text := rfl
  obtain ⟨r, hr⟩ : ∃ r, (checkText "x\n?" Sink.recorder "p").1 = .error r := ⟨_, rfl⟩
  exact ⟨⟨_, _, hnext, htoken _ _ _ .start (.inl hnext), _, _, hpeek,
    herror _ _ _ hreached (.inr hpeek)⟩, r, hload, hr, hreport read style "p" r hload hr⟩

end SyntaxChecker
