import SyntaxChecker.Proofs.Analyser.Tee
import SyntaxChecker.Proofs.CommandLine.Written

/-!
# What a trace says

A trace keeps a number, its depth: one more below the entry for the beginning of a rule, one
less above the entry for its end. Nothing in the trace says that this is the number of rules
that are open, or that it comes back to where it was. That it does so is due to the analyser,
which leaves what it enters on every way out (`Call.balanced`).

So the text of a trace can be read off what its sink was told, without the counter
(`Call.trace_is_faithful`). There is one entry for each notice, in order, and each stands as
far in as there are rules around it. The notices, in turn, are the recorded events of the
calls, each call's behind those of the one before; with a word about the lookahead where it
did not fit, and nowhere else; and with a word about success behind a program that was
checked to its end (`Call.Told`).
-/

namespace SyntaxChecker

open Listener

/-! ## Rules that are open -/

/-- The labels of the rules that are open after a bracket, innermost first. -/
def Bracket.nest (stack : List String) : Bracket → List String
  | opening label => label :: stack
  | closing _ => stack.tail

namespace Balanced

variable {w : List Bracket}

/-- Behind matching brackets the same rules are open as before. -/
theorem foldl_nest (h : Balanced w) (stack : List String) : w.foldl Bracket.nest stack = stack := by
  induction h generalizing stack with
  | nil => rfl
  | nest label _ _ ihv ihw =>
    rw [List.foldl_cons, List.foldl_append, ihv, List.foldl_cons]
    exact ihw stack

/-- **What is closed was opened**, and what is in between matches. -/
theorem exists_opening (h : Balanced w) {u v : List Bracket} {label : String}
    (hw : w = u ++ .closing label :: v) :
    ∃ outer inside, u = outer ++ .opening label :: inside ∧ Balanced inside := by
  induction h generalizing u v with
  | nil => cases u <;> cases hw
  | @nest first x y hx _ ihx ihy =>
    cases u with
    | nil => cases hw
    | cons b u =>
      obtain ⟨rfl, htail⟩ := List.cons.inj hw
      -- the closing bracket is the one of the first pair, or else inside the pair or behind it
      rcases List.append_eq_append_iff.1 htail with ⟨as, rfl, hrest⟩ | ⟨as, rfl, hrest⟩
      · cases as with
        | nil =>
          obtain ⟨hlabel, -⟩ := List.cons.inj hrest
          cases hlabel
          exact ⟨[], x, by rw [List.append_nil]; rfl, hx⟩
        | cons b as =>
          obtain ⟨-, hy⟩ := List.cons.inj hrest
          obtain ⟨outer, inside, rfl, hinside⟩ := ihy hy
          refine ⟨.opening first :: (x ++ b :: outer), inside, ?_, hinside⟩
          simp only [List.cons_append, List.append_assoc]
      · cases as with
        | nil =>
          obtain ⟨hlabel, -⟩ := List.cons.inj hrest
          cases hlabel
          exact ⟨[], u, rfl, by simpa using hx⟩
        | cons b as =>
          obtain ⟨rfl, -⟩ := List.cons.inj hrest
          obtain ⟨outer, inside, rfl, hinside⟩ := ihx rfl
          exact ⟨.opening first :: outer, inside, rfl, hinside⟩

end Balanced

/-- The brackets of notices that are answered as is due. -/
theorem brackets_answered (ns : List Notice) :
    brackets (answered ns) = ns.filterMap fun n => bracket? (n, n.answer) := List.filterMap_map ..

theorem eq_enter_of_bracket? {n : Notice} {label : String}
    (h : bracket? (n, n.answer) = some (.opening label)) : n = .event (.enter label) := by
  cases n with
  | mismatch | success => cases h
  | event e =>
    cases e with
    | exit | terminal => cases h
    | enter => cases h; rfl

/-- Which rules are open is told by the brackets. -/
theorem opened_eq_foldl (stack : List String) (ns : List Notice) :
    opened stack ns = (brackets (answered ns)).foldl Bracket.nest stack := by
  induction ns generalizing stack with
  | nil => rfl
  | cons n ns ih =>
    rw [opened_cons, ih]
    cases n with
    | event e => cases e <;> rfl
    | mismatch | success => rfl

section Balanced

variable {ns : List Notice} (h : Balanced (brackets (answered ns)))

include h

/-- Where the brackets match, no rule is left open. -/
theorem opened_of_balanced (stack : List String) : opened stack ns = stack := by
  rw [opened_eq_foldl, h.foldl_nest]

/-- **A rule that is left was entered**, and all that was entered inside was left. -/
theorem exists_enter_of_balanced {before after : List Notice} {label : String}
    (hns : ns = before ++ .event (.exit label) :: after) :
    ∃ outer inside, before = outer ++ .event (.enter label) :: inside
      ∧ Balanced (brackets (answered inside)) := by
  have hsplit : brackets (answered ns)
      = brackets (answered before) ++ .closing label :: brackets (answered after) := by
    rw [hns, brackets_answered, brackets_answered, brackets_answered, List.filterMap_append]
    rfl
  obtain ⟨u, inside, hbefore, hinside⟩ := h.exists_opening hsplit
  rw [brackets_answered, List.filterMap_eq_append_iff] at hbefore
  obtain ⟨first, second, rfl, -, hsecond⟩ := hbefore
  obtain ⟨between, n, last, rfl, -, hn, hlast⟩ := List.filterMap_eq_cons_iff.1 hsecond
  obtain rfl := eq_enter_of_bracket? hn
  refine ⟨first ++ between, last, (List.append_assoc ..).symm, ?_⟩
  rwa [brackets_answered, hlast]

/-- What is open where a rule is left: the rule, and what was open where it was entered. -/
theorem exists_opened_of_balanced {before after : List Notice} {label : String}
    (hns : ns = before ++ .event (.exit label) :: after) :
    ∃ outer inside, before = outer ++ .event (.enter label) :: inside
      ∧ Balanced (brackets (answered inside))
      ∧ ∀ stack, opened stack before = label :: opened stack outer := by
  obtain ⟨outer, inside, rfl, hinside⟩ := exists_enter_of_balanced h hns
  refine ⟨outer, inside, rfl, hinside, fun stack => ?_⟩
  rw [opened_append, opened_cons, opened_of_balanced hinside]
  rfl

end Balanced

/-! ## The entries of a trace -/

namespace Trace

/-- How far in the entry for a notice stands, where the rules in `stack` are open. The beginning
and the end of a rule stand outside the rule. -/
def margin (indent : String) (stack : List String) (n : Notice) : String :=
  String.join (List.replicate (n.enclosing stack).length indent)

/-- The entries for some notices, where the rules in `stack` are open before. -/
def entries (indent : String) : List String → List Notice → List String
  | _, [] => []
  | stack, n :: ns =>
    (margin indent stack n ++ wording n ++ "\n") :: entries indent (n.nest stack) ns

/-- One more notice is one more entry, and the depth is the number of open rules as before. -/
theorem hear_eq (text indent : String) {stack : List String} {n : Notice}
    (hn : ∀ label, n = .event (.exit label) → stack ≠ []) :
    hear ⟨text, stack.length, indent⟩ n
      = ⟨text ++ (margin indent stack n ++ wording n ++ "\n"), (n.nest stack).length, indent⟩ := by
  have hwrite (depth : ℕ) (line : String) : write ⟨text, depth, indent⟩ line
      = ⟨text ++ (String.join (List.replicate depth indent) ++ line ++ "\n"), depth, indent⟩ := by
    simp only [write, Int.toNat_natCast, String.append_assoc]
  cases n with
  | mismatch | success => exact hwrite ..
  | event e =>
    cases e with
    | terminal => exact hwrite ..
    | enter label =>
      show (fun t : Trace => { t with depth := t.depth + 1 })
        (write ⟨text, stack.length, indent⟩ ("begin " ++ label)) = _
      rw [hwrite]
      rfl
    | exit label =>
      obtain ⟨first, rest, rfl⟩ := List.exists_cons_of_ne_nil (hn label rfl)
      have hdepth : ((first :: rest).length : ℤ) - 1 = rest.length := by simp
      unfold hear
      dsimp only
      rw [hdepth]
      exact hwrite ..

/-- **The text of a trace**, if no rule is left but where one is open. -/
theorem foldl_hear (text indent : String) {stack : List String} {ns : List Notice}
    (hns : ∀ before label after, ns = before ++ .event (.exit label) :: after →
      opened stack before ≠ []) :
    ns.foldl hear ⟨text, stack.length, indent⟩
      = ⟨text ++ String.join (entries indent stack ns), (opened stack ns).length, indent⟩ := by
  induction ns generalizing text stack with
  | nil => rw [entries, String.join_nil, String.append_empty]; rfl
  | cons n ns ih =>
    have hfirst : ∀ label, n = .event (.exit label) → stack ≠ [] := fun label hn =>
      hns [] label ns (congrArg (· :: ns) hn)
    have hrest : ∀ before label after, ns = before ++ .event (.exit label) :: after →
        opened (n.nest stack) before ≠ [] := fun before label after h =>
      hns (n :: before) label after (congrArg (n :: ·) h)
    rw [List.foldl_cons, hear_eq text indent hfirst, ih _ hrest, String.append_assoc, entries,
      String.join_cons, opened_cons]

/-- **The text of a trace at any moment** of what comes to match in the end. -/
theorem foldl_hear_of_balanced (indent : String) {heard rest : List Notice}
    (h : Balanced (brackets (answered (heard ++ rest)))) :
    heard.foldl hear (empty indent)
      = ⟨String.join (entries indent [] heard), (opened [] heard).length, indent⟩ := by
  have hheard : ∀ before label after, heard = before ++ .event (.exit label) :: after →
      opened [] before ≠ [] := fun before label after hsplit => by
    have hall : heard ++ rest = before ++ .event (.exit label) :: (after ++ rest) := by
      rw [hsplit, List.append_assoc]
      rfl
    obtain ⟨outer, -, -, -, hopen⟩ := exists_opened_of_balanced h hall
    rw [hopen]
    exact List.cons_ne_nil _ _
  have hfold := foldl_hear "" indent hheard
  rwa [String.empty_append] at hfold

end Trace

/-! ## The record beside it -/

/-- A trace and a record that are told the same stay side by side. -/
theorem sendAll_tee_trace (ns : List Notice) (t : Trace) (r : Recording) :
    sendAll ns (Sink.tee [.trace t, .recording r])
      = .tee [.trace (ns.foldl Trace.hear t), .recording (ns.foldl Recording.hear r)] := by
  induction ns generalizing t r with
  | nil => rfl
  | cons n ns ih =>
    have hsend : (send n (Sink.tee [.trace t, .recording r])).2
        = .tee [.trace (t.hear n), .recording (r.hear n)] := by
      cases n <;> rfl
    show sendAll ns (send n (Sink.tee [.trace t, .recording r])).2 = _
    rw [hsend]
    exact ih (t.hear n) (r.hear n)

/-! ## What the sink is told in several calls -/

/-- A journal writes down what it is told. -/
theorem sendAll_journal (ns : List Notice) (j : Journal) : sendAll ns j = j.write ns := by
  induction ns generalizing j with
  | nil => exact j.write_nil.symm
  | cons n ns ih =>
    have hsend : (send n j).2 = j.write [n] := by
      cases n <;> rfl
    show sendAll ns (send n j).2 = _
    rw [hsend, ih, Journal.write_write]
    rfl

theorem Journal.calm (j : Journal) : Calm j := by
  refine calm_of_invariant (I := fun _ => True) trivial fun _ n _ => ⟨?_, trivial⟩
  cases n <;> rfl

theorem Listener.Calm.sendAll {τ : Type} [Listener τ] {s : τ} (h : Calm s) (ns : List Notice) :
    Calm (sendAll ns s) := fun ms n => by
  rw [← sendAll_append]
  exact h _ n

namespace Call

section Calls

variable {σ τ : Type} [Supply σ] [Listener τ]

/-- What a sink hears in several calls. -/
def noticesAll (cs : List Call) (a : Analyser σ τ) : List Notice :=
  (runAll cs a.journaled).2.sink.notices

/-- A calm sink ends as if it had heard just that. -/
theorem sink_runAll (cs : List Call) {a : Analyser σ τ} (hs : Calm a.sink) :
    (runAll cs a).2.sink = sendAll (noticesAll cs a) a.sink := by
  rw [runAll_eq_replay cs a hs]
  rfl

theorem runAll_append (cs cs' : List Call) (a : Analyser σ τ) :
    (runAll (cs ++ cs') a).2 = (runAll cs' (runAll cs a).2).2 := by
  induction cs generalizing a with
  | nil => rfl
  | cons c cs ih => exact ih _

/-- **One more call.** What it says comes behind what was said before. -/
theorem noticesAll_concat (cs : List Call) (c : Call) {a : Analyser σ τ} (hs : Calm a.sink) :
    noticesAll (cs ++ [c]) a = noticesAll cs a ++ c.notices (runAll cs a).2 := by
  have hstate : (runAll cs a).2.journaled = (runAll cs a.journaled).2.journaled := by
    rw [runAll_eq_replay cs a hs]
    rfl
  rw [noticesAll, runAll_append, notices, hstate]
  show (c.run (runAll cs a.journaled).2).2.sink.notices = _
  rw [c.run_eq_replay _ (Journal.calm _)]
  exact congrArg Journal.notices (sendAll_journal ..)

/-- **The brackets match in several calls**, since they do in each. -/
theorem balanced_noticesAll (cs : List Call) {a : Analyser σ τ} (hs : Calm a.sink) :
    Balanced (brackets (answered (noticesAll cs a))) := by
  induction cs using List.reverseRecOn with
  | nil => exact .nil
  | append_singleton cs c ih =>
    have hcalm : Calm (runAll cs a).2.sink := sink_runAll cs hs ▸ hs.sendAll _
    rw [noticesAll_concat cs c hs, answered_append, brackets_append, ← c.calls_eq_answered hcalm]
    exact ih.append (c.balanced _)

/-- **How the sink is told of a call** that has left the analyser `a` as `b`. The events of the
call come first. -/
inductive Told (c : Call) (a b : Analyser σ τ) : Outcome → List Notice → Prop
  /-- The call ends well, and for a program that is said. -/
  | ok (events : List Event) : Told c a b (.ok ()) (events.map .event ++ c.closing (.ok ()))
  /-- Every token that was asked for came, and they were accepted up to the lookahead, which does
  not fit. That is said at once, and then the rules that were open there are left. -/
  | mismatch {events : List Event} {ts : List Token} {rules : List Rule} {e : Raised}
      (expected : String) :
      Supply.Yields a.supply ts b.supply →
        a.lookahead :: ts = events.filterMap Event.token? ++ [b.lookahead] →
        opened [] (events.map .event) = (rules.map Rule.label).reverse →
        e.innermost = .grammar ⟨b.message expected b.lookahead, some b.lookahead, none⟩ →
          Told c a b (.error e) (events.map .event
            ++ .mismatch b.lookahead (b.message expected b.lookahead) :: exits rules)
  /-- The supply raises a fault. That is not said; the rules that were open are left. -/
  | supply {events : List Event} {ts : List Token} {rules : List Rule} {s : σ}
      {e origin : Raised} :
      Supply.Yields a.supply ts s → Supply.pull s = (.error origin, b.supply) →
        a.lookahead :: ts = events.filterMap Event.token? →
        opened [] (events.map .event) = (rules.map Rule.label).reverse →
        e.innermost = origin.innermost →
          Told c a b (.error e) (events.map .event ++ exits rules)
  /-- The supply does not come to an end as it promised. That is not said, either. -/
  | tooDeep {events : List Event} {rules : List Rule} {e : Raised} :
      ¬ LawfulSupply σ → opened [] (events.map .event) = (rules.map Rule.label).reverse →
        e.innermost = .tooDeep → Told c a b (.error e) (events.map .event ++ exits rules)

end Calls

end Call

namespace Analyser

/-- A course is told in events. -/
theorem Course.exists_events {σ : Type} [Supply σ] {j k : Analyser σ Journal} {ns : List Notice}
    (h : Course j ns k) : ∃ events : List Event, ns = events.map .event := by
  induction h with
  | here => exact ⟨[], rfl⟩
  | event e _ _ ih =>
    obtain ⟨events, rfl⟩ := ih
    exact ⟨e :: events, rfl⟩
  | @terminal j _ _ _ _ _ _ ih =>
    obtain ⟨events, rfl⟩ := ih
    exact ⟨.terminal j.lookahead :: events, rfl⟩

/-- To leave a rule does not touch the far end of an error. -/
theorem innermost_wrapped {σ τ : Type} (a : Analyser σ τ) (rules : List Rule) (origin : Raised) :
    (a.wrapped rules origin).innermost = origin.innermost := by
  cases hsyn : origin.isSyntactic with
  | true => exact (a.wrapped_of_isSyntactic rules hsyn).2.1
  | false => rw [a.wrapped_of_not_isSyntactic rules hsyn]

end Analyser

theorem filterMap_token?_map_event (events : List Event) :
    (events.map Notice.event).filterMap Notice.token? = events.filterMap Event.token? :=
  List.filterMap_map ..

namespace Call

variable {σ τ : Type} [Supply σ] [Listener τ]

/-- **Every call is told like this** to a calm sink. -/
theorem told (c : Call) {a : Analyser σ τ} (hs : Calm a.sink) :
    c.Told a (c.run a).2 (c.run a).1 (c.notices a) := by
  have hruns := c.runs_check a.journaled
  rw [c.run_eq_replay a hs, notices, c.run_eq_check]
  generalize c.check a.journaled = result at hruns
  cases hruns with
  | @ok trees k _ hcourse =>
    have hnotices : (k.wrote (c.closing (.ok ()))).sink.notices
        = (Tree.eventsAll trees).map .event ++ c.closing (.ok ()) := by
      show k.sink.notices ++ _ = _
      rw [hcourse.sink_eq]
      rfl
    rw [hnotices]
    exact .ok (Tree.eventsAll trees)
  | @error e m hfails =>
    rw [closing_error, Analyser.wrote_nil]
    cases hfails with
    | @intro ns stop k l origin rules hcourse hopen hhalts =>
      obtain ⟨events, rfl⟩ := hcourse.exists_events
      obtain ⟨ts, hyields, htokens⟩ := hcourse.yields
      have hnotices : (l.wrote (exits rules)).sink.notices
          = events.map .event ++ (stop ++ exits rules) := by
        rw [hhalts.sink_wrote_exits hcourse, ← List.append_assoc]
        rfl
      have hopen' := (hopen []).trans (List.append_nil _)
      rw [filterMap_token?_map_event] at htokens
      rw [hnotices]
      cases hhalts with
      | mismatch expected =>
        exact .mismatch expected hyields htokens.symm hopen' (Analyser.innermost_wrapped ..)
      | supply hpull =>
        -- the sink has heard of one more token, behind which none came
        have hevents : events.map Notice.event ++ ([.event (.terminal k.lookahead)] ++ exits rules)
            = (events ++ [Event.terminal k.lookahead]).map .event ++ exits rules := by
          rw [List.map_append, List.append_assoc]
          rfl
        rw [hevents]
        refine .supply hyields hpull ?_ ?_ (Analyser.innermost_wrapped ..)
        · rw [List.filterMap_append]
          exact htokens.symm
        · rw [List.map_append, opened_append]
          exact hopen'
      | tooDeep hlaw => exact .tooDeep hlaw hopen' (Analyser.innermost_wrapped ..)

/-! ## The trace and the record -/

/-- **A trace is faithful.** Let an analyser report to a new trace and a new record, let the
supply do what it will, and let any calls be made, whether they fail or not. A logbook between
the analyser and the two shows what they are told, and they agree with it at every moment: the
text of the trace has one entry for each notice, as far in as there are rules around it; its
depth is the number of rules that are open; and the record has the events.

No rule is open after a call. Where a rule is left, it is the innermost that was entered and
is open still, and the entry for its end stands as far in as that for its beginning. What a
call adds is its events, with a notice of the lookahead exactly where it did not fit, and of
success exactly behind a program. -/
theorem trace_is_faithful {a : Analyser σ Sink} {indent : String}
    (ha : a.sink = .tee [.tracer indent, .recorder]) (cs : List Call) :
    let ns := noticesAll cs a
    (runAll cs a.logged).2.sink = ⟨(runAll cs a).2.sink, answered ns⟩
      ∧ (runAll cs a).2.sink = sendAll ns a.sink
      ∧ (∀ heard rest, ns = heard ++ rest → ∃ r, r.events.toList = heard.filterMap Notice.event?
        ∧ sendAll heard a.sink = .tee [.trace ⟨String.join (Trace.entries indent [] heard),
          (opened [] heard).length, indent⟩, .recording r])
      ∧ opened [] ns = []
      ∧ (∀ before label after, ns = before ++ .event (.exit label) :: after →
        ∃ outer inside, before = outer ++ .event (.enter label) :: inside
          ∧ Balanced (brackets (answered inside))
          ∧ Trace.margin indent (opened [] before) (.event (.exit label))
            = Trace.margin indent (opened [] outer) (.event (.enter label)))
      ∧ ∀ c, let b := (runAll cs a).2
        noticesAll (cs ++ [c]) a = ns ++ c.notices b
          ∧ c.Told b (c.run b).2 (c.run b).1 (c.notices b) := by
  intro ns
  have hcalm : Calm a.sink := ha ▸ Sink.calm_tee_tracer indent
  have hbalanced : Balanced (brackets (answered ns)) := balanced_noticesAll cs hcalm
  have hsink : (runAll cs a).2.sink = sendAll ns a.sink := sink_runAll cs hcalm
  refine ⟨?_, hsink, ?_, opened_of_balanced hbalanced [], ?_, ?_⟩
  · rw [sink_runAll cs (a := a.logged) (Logbook.calm hcalm), hsink]
    exact Logbook.sendAll_of_calm hcalm ns
  · intro heard rest hns
    rw [ha, Sink.tracer, Sink.recorder, sendAll_tee_trace,
      Trace.foldl_hear_of_balanced indent (hns ▸ hbalanced)]
    exact ⟨_, Recording.events_foldl_hear heard .empty, rfl⟩
  · intro before label after hns
    obtain ⟨outer, inside, hbefore, hinside, hopen⟩ := exists_opened_of_balanced hbalanced hns
    refine ⟨outer, inside, hbefore, hinside, ?_⟩
    rw [hopen]
    rfl
  · intro c b
    exact ⟨noticesAll_concat cs c hcalm, c.told (sink_runAll cs hcalm ▸ hcalm.sendAll _)⟩

/-- An assignment is given up for want of `:=`. Behind the expression that is looked for then,
the supply fails. The identifier is still there for a third call. -/
theorem trace_is_faithful_assignment :
    let x : Token := ⟨.identifier, "x", 1, 1⟩
    let y : Token := ⟨.identifier, "y", 1, 3⟩
    let e := Raised.fresh (.system "the disk is gone")
    let a : Analyser Script Sink :=
      ⟨⟨[.ok y, .error e]⟩, .tee [.tracer "  ", .recorder], x, "p"⟩
    let cs : List Call := [.rule .assignmentStatement, .rule .expression]
    let c := Call.terminal .identifier
    let b := (runAll cs a).2
    a.sink = .tee [.tracer "  ", .recorder]
      ∧ b.sink.written? = some ("begin <assignment statement>\n"
        ++ "  IDENTIFIER 'x' on line 1\n"
        ++ "  syntax error: Syntax error at line 1 in p: expected ':=' but found 'y'.\n"
        ++ "end <assignment statement>\n"
        ++ "begin <expression>\n  begin <term>\n    begin <factor>\n"
        ++ "      IDENTIFIER 'y' on line 1\n"
        ++ "    end <factor>\n  end <term>\nend <expression>\n")
      ∧ b.sink = sendAll (noticesAll cs a) a.sink ∧ opened [] (noticesAll cs a) = []
      ∧ (∃ r, r.events.toList = (noticesAll cs a).filterMap Notice.event?
        ∧ sendAll (noticesAll cs a) a.sink
          = .tee [.trace ⟨String.join (Trace.entries "  " [] (noticesAll cs a)),
            (opened [] (noticesAll cs a)).length, "  "⟩, .recording r])
      ∧ noticesAll (cs ++ [c]) a = noticesAll cs a ++ c.notices b
      ∧ c.Told b (c.run b).2 (c.run b).1 (c.notices b) := by
  intro x y e a cs c b
  have ha : a.sink = .tee [.tracer "  ", .recorder] := rfl
  obtain ⟨-, hsink, hmoment, hopen, -, hnext⟩ := trace_is_faithful ha cs
  exact ⟨ha, by decide +kernel, hsink, hopen, hmoment _ [] (List.append_nil _).symm, hnext c⟩

end Call

end SyntaxChecker
