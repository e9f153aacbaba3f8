import SyntaxChecker.Proofs.Analyser.Journal

/-!
# Every rule that is entered is left

The supply may fail at any token and the sink at any notice, also while a check
is already on its way out, and a sink may let a mismatch pass. Whatever happens,
the notices that rules are entered and left match like brackets: each rule that
the sink has let in is left once, behind all rules that were entered inside it
(`Call.balanced_calls`).

To see all notices of an arbitrary sink, together with its answers, the sink is
put into a `Logbook`. The logbook passes everything on to the sink and adds
nothing of its own, so a call with the logbook is the call with the sink
(`Analyser.simulation_unlogged`). The balance is a property of what an action
writes into the logbook (`Action.Balances`), which its parts pass on to it.
-/

namespace SyntaxChecker

open Listener

/-! ## Brackets -/

/-- A rule is entered or left, in terms of its label. -/
inductive Bracket where
  | opening (label : String)
  | closing (label : String)
  deriving DecidableEq, Repr

/-- **Matching brackets**: every opening one has its closing one with the same
label, behind whatever was opened inside. -/
inductive Balanced : List Bracket → Prop
  | nil : Balanced []
  | nest (label : String) {v w : List Bracket} :
      Balanced v → Balanced w → Balanced (.opening label :: (v ++ .closing label :: w))

theorem Balanced.append {v w : List Bracket} (hv : Balanced v) (hw : Balanced w) :
    Balanced (v ++ w) := by
  induction hv with
  | nil => exact hw
  | @nest label u v hu _ _ ih =>
    rw [List.cons_append, List.append_assoc, List.cons_append]
    exact .nest label hu ih

/-! ## Calls of a sink -/

/-- The bracket that a call of the sink stands for. A rule that the sink refused
to enter was not opened; one that is left is closed, whatever the sink
answers. -/
def bracket? : Notice × Outcome → Option Bracket
  | (.event (.enter label), .ok ()) => some (.opening label)
  | (.event (.exit label), _) => some (.closing label)
  | _ => none

/-- The brackets that some calls of the sink stand for. -/
def brackets (calls : List (Notice × Outcome)) : List Bracket := calls.filterMap bracket?

@[simp] theorem brackets_append (cs cs' : List (Notice × Outcome)) :
    brackets (cs ++ cs') = brackets cs ++ brackets cs' := List.filterMap_append

/-- The tokens that were accepted in some calls of the sink. -/
def acceptedTokens (calls : List (Notice × Outcome)) : List Token :=
  calls.filterMap fun c => c.1.token?

theorem acceptedTokens_append (cs cs' : List (Notice × Outcome)) :
    acceptedTokens (cs ++ cs') = acceptedTokens cs ++ acceptedTokens cs' := List.filterMap_append

/-- A sink, and all that it was told so far with how it answered. -/
structure Logbook (τ : Type) where
  sink : τ
  calls : List (Notice × Outcome)
  deriving Repr

namespace Logbook

variable {τ : Type}

/-- Write down a call of the sink that has left it as `s`. -/
def record (b : Logbook τ) (n : Notice) (answer : Outcome) (s : τ) : Logbook τ :=
  ⟨s, b.calls ++ [(n, answer)]⟩

instance [Listener τ] : Listener (Logbook τ) where
  notify n b :=
    match notify n b.sink with
    | (answer, s) => (answer, b.record n answer s)
  report t message b :=
    match report t message b.sink with
    | (answer, s) => (answer, b.record (.mismatch t message) answer s)
  title b := title b.sink

end Logbook

/-- What a mismatch ends in, given how the sink of that title answers the report:
the error that it raises, or an error about the sink if it raises none. -/
def Raised.ofReport (title : String) : Outcome → Raised
  | .error e => e
  | .ok () => Raised.fresh (.unreported title)

namespace Analyser

variable {σ τ : Type}

/-- The same analyser with its sink in a new logbook. -/
def logged (a : Analyser σ τ) : Analyser σ (Logbook τ) :=
  ⟨a.supply, ⟨a.sink, []⟩, a.lookahead, a.sourceName⟩

/-- The same analyser without the logbook. -/
def unlogged (j : Analyser σ (Logbook τ)) : Analyser σ τ :=
  ⟨j.supply, j.sink.sink, j.lookahead, j.sourceName⟩

/-- The same analyser after one more call of its sink. -/
def recorded (j : Analyser σ (Logbook τ)) (n : Notice) (answer : Outcome) (s : τ) :
    Analyser σ (Logbook τ) := { j with sink := j.sink.record n answer s }

variable [Listener τ]

/-- The sink answers, and the call is written down. -/
theorem notify_logged {j : Analyser σ (Logbook τ)} {n : Notice} {answer : Outcome} {s : τ}
    (h : Listener.notify n j.sink.sink = (answer, s)) :
    notify n j = (answer, j.recorded n answer s) := by
  refine notify_of_eq ?_
  show (match Listener.notify n j.sink.sink with
    | (answer, s) => (answer, j.sink.record n answer s)) = _
  rw [h]

/-- A mismatch ends a check with what the sink answers. -/
theorem mismatch_of_report {a : Analyser σ τ} {expected : String} {answer : Outcome} {s : τ}
    (h : Listener.report a.lookahead (a.message expected a.lookahead) a.sink = (answer, s)) :
    mismatch expected a = (.error (Raised.ofReport (Listener.title s) answer),
      { a with sink := s }) := by
  unfold mismatch
  rw [h]
  cases answer <;> rfl

/-- The sink answers the report, and the call is written down. -/
theorem report_logged {j : Analyser σ (Logbook τ)} {t : Token} {message : String}
    {answer : Outcome} {s : τ} (h : Listener.report t message j.sink.sink = (answer, s)) :
    Listener.report t message j.sink = (answer, j.sink.record (.mismatch t message) answer s) := by
  show (match Listener.report t message j.sink.sink with
    | (answer, s) => (answer, j.sink.record (.mismatch t message) answer s)) = _
  rw [h]

/-- **What comes of a rule**: the sink refuses to let it in, or its body is run, and then the
sink is told that the rule is left, whatever came of the body and whatever the sink answers.
There is success only if the body succeeds. -/
theorem bracket_logged (r : Rule) (x : Action σ (Logbook τ)) (j : Analyser σ (Logbook τ)) :
    (∃ e s, bracket r x j = (.error e, j.recorded (.event (.enter r.label)) (.error e) s))
      ∨ ∃ s o k, x (j.recorded (.event (.enter r.label)) (.ok ()) s) = (o, k)
        ∧ ∃ answer s' o', bracket r x j = (o', k.recorded (.event (.exit r.label)) answer s')
          ∧ (o' = .ok () → o = .ok ()) := by
  unfold bracket
  rcases hentry : Listener.notify (.event (.enter r.label)) j.sink.sink with ⟨e | _, s⟩
  all_goals rw [notify_logged hentry]
  · exact .inl ⟨e, s, rfl⟩
  · dsimp only
    rcases hbody : x (j.recorded (.event (.enter r.label)) (.ok ()) s) with ⟨o, k⟩
    refine .inr ⟨s, o, k, hbody, ?_⟩
    dsimp only
    rcases hexit : Listener.notify (.event (.exit r.label)) k.sink.sink with ⟨e | _, s'⟩
    all_goals rw [notify_logged hexit]
    · exact ⟨.error e, s', .error e, rfl, nofun⟩
    · refine ⟨.ok (), s', _, rfl, fun ho => ?_⟩
      cases o with
      | ok => rfl
      | error => cases ho

end Analyser

/-- The calls of the sink in a call of the analyser. -/
def Call.calls {σ τ : Type} [Supply σ] [Listener τ] (c : Call) (a : Analyser σ τ) :
    List (Notice × Outcome) := (c.run a.logged).2.sink.calls

/-! ## The logbook makes no difference -/

namespace Analyser

variable {σ τ : Type} [Listener τ]

theorem notify_unlogged (n : Notice) (j : Analyser σ (Logbook τ)) :
    notify n j.unlogged = ((notify n j).1, (notify n j).2.unlogged) := by
  rcases h : Listener.notify n j.sink.sink with ⟨answer, s⟩
  rw [notify_logged h]
  exact notify_of_eq h

theorem simulation_unlogged [Supply σ] : Simulation (unlogged (σ := σ) (τ := τ)) where
  lookahead _ := rfl
  sourceName _ := rfl
  pending _ := rfl
  event e := notify_unlogged (.event e)
  success := notify_unlogged .success
  mismatch expected j := by
    rcases h : Listener.report j.lookahead (j.message expected j.lookahead) j.sink.sink with
      ⟨answer, s⟩
    rw [mismatch_of_report (report_logged h), mismatch_of_report (a := j.unlogged) h]
    rfl
  advance := .advance Logbook.sink

end Analyser

/-! ## What is entered is left -/

/-- The brackets match in what an action adds to a logbook. -/
def Action.Balances {σ τ : Type} (x : Action σ (Logbook τ)) : Prop :=
  ∀ j, ∃ calls, (x j).2.sink.calls = j.sink.calls ++ calls ∧ Balanced (brackets calls)

namespace Action.Balances

section Sequence

variable {σ τ : Type} {x x' : Action σ (Logbook τ)}

theorem done : Balances (σ := σ) (τ := τ) Action.done :=
  fun _ => ⟨[], (List.append_nil _).symm, .nil⟩

theorem raise (r : Raised) : Balances (σ := σ) (τ := τ) (Action.raise r) :=
  fun _ => ⟨[], (List.append_nil _).symm, .nil⟩

theorem andThen (h : Balances x) (h' : Balances x') : Balances (Action.andThen x x') := by
  intro j
  obtain ⟨calls, hcalls, hbalanced⟩ := h j
  unfold Action.andThen
  rcases hx : x j with ⟨_ | _, k⟩
  all_goals rw [hx] at hcalls
  · exact ⟨calls, hcalls, hbalanced⟩
  · obtain ⟨calls', hcalls', hbalanced'⟩ := h' k
    refine ⟨calls ++ calls', ?_, ?_⟩
    · rw [← List.append_assoc, ← hcalls]
      exact hcalls'
    · rw [brackets_append]
      exact hbalanced.append hbalanced'

theorem ifNext (symbols : List Symbol) (h : Balances x) (h' : Balances x') :
    Balances (Action.ifNext symbols x x') := by
  intro j
  unfold Action.ifNext
  split
  · exact h j
  · exact h' j

variable [Listener τ]

/-- A notice that neither enters nor leaves a rule. -/
theorem notify {n : Notice} (hn : ∀ answer, bracket? (n, answer) = none) :
    Balances (σ := σ) (τ := τ) (Analyser.notify n) := by
  intro j
  rcases h : Listener.notify n j.sink.sink with ⟨answer, s⟩
  rw [Analyser.notify_logged h]
  refine ⟨[(n, answer)], rfl, ?_⟩
  rw [brackets, List.filterMap_cons_none (hn answer)]
  exact .nil

theorem mismatch (expected : String) :
    Balances (σ := σ) (τ := τ) (Analyser.mismatch expected) := by
  intro j
  rcases h : Listener.report j.lookahead (j.message expected j.lookahead) j.sink.sink with
    ⟨answer, s⟩
  rw [Analyser.mismatch_of_report (Analyser.report_logged h)]
  exact ⟨[(.mismatch j.lookahead (j.message expected j.lookahead), answer)], rfl, .nil⟩

/-- **A rule is left if it was entered**, on every way out of its body. -/
theorem bracket (r : Rule) (h : Balances x) : Balances (Analyser.bracket r x) := by
  intro j
  rcases Analyser.bracket_logged r x j with
    ⟨e, s, hrefused⟩ | ⟨s, o, k, hbody, answer, s', o', hleft, -⟩
  · rw [hrefused]
    exact ⟨[(.event (.enter r.label), .error e)], rfl, .nil⟩
  · rw [hleft]
    obtain ⟨calls, hcalls, hbalanced⟩ := h (j.recorded (.event (.enter r.label)) (.ok ()) s)
    rw [hbody] at hcalls
    refine ⟨(.event (.enter r.label), .ok ())
      :: (calls ++ [(.event (.exit r.label), answer)]), ?_, ?_⟩
    · show k.sink.calls ++ _ = _
      rw [hcalls]
      show j.sink.calls ++ [_] ++ calls ++ [_] = _
      simp only [List.append_assoc, List.cons_append, List.nil_append]
    · rw [brackets, List.filterMap_cons_some (show bracket? _ = some (.opening r.label) from rfl),
        List.filterMap_append]
      exact .nest r.label hbalanced .nil

end Sequence

variable {σ τ : Type} [Supply σ]

theorem advance : Balances (σ := σ) (τ := τ) Analyser.advance := by
  intro j
  refine ⟨[], ?_, .nil⟩
  rw [List.append_nil]
  rcases hpull : Supply.pull j.supply with ⟨_ | _, _⟩
  · rw [Analyser.advance_of_fault hpull]
  · rw [Analyser.advance_of_pull hpull]

variable [Listener τ]

theorem accept (s : Symbol) : Balances (σ := σ) (τ := τ) (Analyser.accept s) := by
  intro j
  by_cases hj : j.lookahead.symbol = s
  · rw [Analyser.accept_of_eq hj]
    exact (notify fun _ => rfl).andThen advance j
  · rw [Analyser.accept_of_ne hj]
    exact mismatch _ j

theorem lockstep :
    Lockstep (fun _ x _ => Balances x :
      Phrase → Action σ (Logbook τ) → Action σ (Logbook τ) → Prop) where
  tooDeep _ := raise _
  empty := done
  unmet expected := mismatch expected
  terminal s := accept s
  rule h := bracket _ h
  seq h h' := h.andThen h'
  alt h h' := ifNext _ h h'
  star h h' := ifNext _ (h.andThen h') done

theorem checkRule (r : Rule) : Balances (σ := σ) (τ := τ) (Analyser.checkRule r) :=
  fun j => lockstep.follow _ (.rule r) j

theorem run (c : Call) : Balances (σ := σ) (τ := τ) c.run := by
  cases c with
  | program => exact (checkRule _).andThen ((accept _).andThen (notify fun _ => rfl))
  | rule r => exact checkRule r
  | terminal s => exact accept s

end Action.Balances

/-- **The second action does to a sink what the first does to it in a logbook**,
and its brackets match. -/
def Action.Watches {σ τ : Type} (x : Action σ (Logbook τ)) (y : Action σ τ) : Prop :=
  ∀ j, y j.unlogged = ((x j).1, (x j).2.unlogged)
    ∧ ∃ calls, (x j).2.sink.calls = j.sink.calls ++ calls ∧ Balanced (brackets calls)

theorem Action.Watches.run {σ τ : Type} [Supply σ] [Listener τ] (c : Call) :
    Watches (σ := σ) (τ := τ) c.run c.run :=
  fun j => ⟨Analyser.simulation_unlogged.run c j, Action.Balances.run c j⟩

namespace Call

variable {σ τ : Type} [Supply σ] [Listener τ]

/-- To write down the calls of the sink changes nothing. -/
theorem run_eq_unlogged (c : Call) (a : Analyser σ τ) :
    c.run a = ((c.run a.logged).1, (c.run a.logged).2.unlogged) :=
  (Action.Watches.run c a.logged).1

/-- The calls of the sink match like brackets. -/
theorem balanced (c : Call) (a : Analyser σ τ) : Balanced (brackets (c.calls a)) := by
  obtain ⟨-, calls, hcalls, hbalanced⟩ := Action.Watches.run c a.logged
  rw [Call.calls, hcalls]
  exact hbalanced

/-- **Every rule that is entered is left.** Let the supply fail and the sink
answer as they may. The calls of the sink can be written down without any effect;
and of these calls, those that enter a rule and are not refused, and those that
leave a rule, match like brackets. -/
theorem balanced_calls (c : Call) (a : Analyser σ τ) :
    c.run a = ((c.run a.logged).1, (c.run a.logged).2.unlogged)
      ∧ Balanced (brackets (c.calls a)) :=
  ⟨c.run_eq_unlogged a, c.balanced a⟩

end Call

end SyntaxChecker
