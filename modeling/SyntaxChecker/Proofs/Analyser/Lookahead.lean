import Mathlib.Data.Set.List
import SyntaxChecker.Proofs.Analyser.Balance
import SyntaxChecker.Proofs.Analyser.CalmSinks

/-!
# One token ahead

An analyser may be called again and again, also after a call has failed. A fault of the
supply is over once it was raised, and the next call goes on with what the supply has to
say then. Through all of that the analyser is exactly one token ahead of what it has told
the sink (`Call.one_token_ahead`). It takes a token from the supply once it was made, and
then once for each token that it has told the sink was accepted. The lookahead is always
the last token that it got; and each accepted token is the last that it had got by then.

If the supply raises a fault, the analyser keeps its lookahead, although the sink was told
that it was accepted. So after a fault of the supply the same token may be accepted twice.
Without one, the tokens that were accepted and the lookahead are the tokens of the supply
in their order.

To speak of what was taken from the supply and of what the sink was told, the supply is
put behind a `Meter` and the sink into a `Logbook`. Neither makes a difference to the
calls.
-/

namespace SyntaxChecker

open Listener

/-! ## Several calls -/

/-- Make one call after the other, whether or not they fail. -/
def Call.runAll {σ τ : Type} [Supply σ] [Listener τ] :
    List Call → Analyser σ τ → List Outcome × Analyser σ τ
  | [], a => ([], a)
  | c :: cs, a => ((c.run a).1 :: (runAll cs (c.run a).2).1, (runAll cs (c.run a).2).2)

/-- What makes no difference to a call makes none to several calls. -/
theorem Simulation.runAll {σ τ σ' τ' : Type} [Supply σ] [Listener τ] [Supply σ'] [Listener τ']
    {f : Analyser σ τ → Analyser σ' τ'} (hf : Simulation f) (cs : List Call) (a : Analyser σ τ) :
    Call.runAll cs (f a) = ((Call.runAll cs a).1, f (Call.runAll cs a).2) := by
  induction cs generalizing a with
  | nil => rfl
  | cons c cs ih =>
    rw [Call.runAll, hf.run c a, ih]
    rfl

/-! ## What steps keep, calls keep -/

section Keeps

variable {σ τ : Type}

/-- Whatever comes of an action, the analyser stays in a set of states. -/
def Action.Keeps (I : Analyser σ τ → Prop) (x : Action σ τ) : Prop := ∀ a, I a → I (x a).2

variable [Supply σ] [Listener τ] {I : Analyser σ τ → Prop}

/-- **Steps that stay in a set of states**: to tell the sink of anything but a terminal, to
report a mismatch, and to accept a terminal or fail to. -/
structure StepsKeep (I : Analyser σ τ → Prop) : Prop where
  notify (n : Notice) : n.token? = none → n.hook ≠ .mismatch → Action.Keeps I (Analyser.notify n)
  mismatch (expected : String) : Action.Keeps I (Analyser.mismatch expected)
  accept (s : Symbol) : Action.Keeps I (Analyser.accept s)

namespace StepsKeep

variable {x y : Action σ τ}

omit [Supply σ] [Listener τ] in
theorem andThen (hx : Action.Keeps I x) (hy : Action.Keeps I y) :
    Action.Keeps I (Action.andThen x y) := by
  intro a ha
  have hxa := hx a ha
  unfold Action.andThen
  rcases h : x a with ⟨_ | _, b⟩
  all_goals rw [h] at hxa
  · exact hxa
  · exact hy b hxa

omit [Supply σ] [Listener τ] in
theorem ifNext (symbols : List Symbol) (hx : Action.Keeps I x) (hy : Action.Keeps I y) :
    Action.Keeps I (Action.ifNext symbols x y) := by
  intro a ha
  unfold Action.ifNext
  split
  · exact hx a ha
  · exact hy a ha

theorem bracket (h : StepsKeep I) (r : Rule) (hx : Action.Keeps I x) :
    Action.Keeps I (Analyser.bracket r x) := by
  intro a ha
  have hentry := h.notify (.event (.enter r.label)) rfl nofun a ha
  unfold Analyser.bracket
  generalize Analyser.notify (.event (.enter r.label)) a = entry at hentry
  obtain ⟨_ | _, b⟩ := entry
  · exact hentry
  · have hexit := h.notify (.event (.exit r.label)) rfl nofun _ (hx b hentry)
    dsimp only
    generalize Analyser.notify (.event (.exit r.label)) (x b).2 = exit at hexit
    obtain ⟨_ | _, d⟩ := exit <;> exact hexit

theorem lockstep (h : StepsKeep I) : Lockstep
    (fun _ x _ => Action.Keeps I x : Phrase → Action σ τ → Action σ τ → Prop) where
  tooDeep _ _ ha := ha
  empty _ ha := ha
  unmet expected := h.mismatch expected
  terminal s := h.accept s
  rule hx := h.bracket _ hx
  seq hx hy := andThen hx hy
  alt hx hy := ifNext _ hx hy
  star hx hy := ifNext _ (andThen hx hy) fun _ ha => ha

theorem checkRule (h : StepsKeep I) (r : Rule) : Action.Keeps I (Analyser.checkRule r) :=
  fun a => h.lockstep.follow _ (.rule r) a

theorem run (h : StepsKeep I) (c : Call) : Action.Keeps I c.run := by
  cases c with
  | program =>
    exact andThen (h.checkRule _) (andThen (h.accept _) (h.notify .success rfl nofun))
  | rule r => exact h.checkRule r
  | terminal s => exact h.accept s

/-- **What every step keeps, any calls keep.** -/
theorem runAll (h : StepsKeep I) (cs : List Call) {a : Analyser σ τ} (ha : I a) :
    I (Call.runAll cs a).2 := by
  induction cs generalizing a with
  | nil => exact ha
  | cons c cs ih => exact ih (h.run c a ha)

end StepsKeep

end Keeps

/-! ## The meter -/

/-- A supply, and all that was taken from it so far. A fault counts as well. -/
structure Meter (σ : Type) where
  supply : σ
  pulls : List (Except Raised Token)

instance {σ : Type} [Supply σ] : Supply (Meter σ) where
  pull m :=
    match Supply.pull m.supply with
    | (outcome, s) => (outcome, ⟨s, m.pulls ++ [outcome]⟩)
  pending m := Supply.pending m.supply

theorem Meter.pull_eq {σ : Type} [Supply σ] {m : Meter σ} {outcome : Except Raised Token} {s : σ}
    (h : Supply.pull m.supply = (outcome, s)) :
    Supply.pull m = (outcome, ⟨s, m.pulls ++ [outcome]⟩) := by
  show (match Supply.pull m.supply with
    | (outcome, s) => (outcome, Meter.mk s (m.pulls ++ [outcome]))) = _
  rw [h]

/-- The last token among some outcomes. -/
def latest (pulls : List (Except Raised Token)) : Option Token :=
  (pulls.filterMap Except.toOption).getLast?

/-- Of tokens only the latest is the last. -/
theorem latest_ok (ts : List Token) : latest (ts.map .ok) = ts.getLast? := by
  unfold latest
  rw [List.filterMap_map]
  exact congrArg _ (List.filterMap_some ..)

theorem latest_concat_ok (pulls : List (Except Raised Token)) (t : Token) :
    latest (pulls ++ [.ok t]) = some t := by
  unfold latest
  rw [List.filterMap_append]
  exact List.getLast?_concat

theorem latest_concat_error (pulls : List (Except Raised Token)) (e : Raised) :
    latest (pulls ++ [.error e]) = latest pulls := by
  unfold latest
  rw [List.filterMap_append]
  exact congrArg _ (List.append_nil _)

namespace Analyser

variable {σ τ : Type}

/-- The same analyser without the meter. -/
def unmetered (m : Analyser (Meter σ) τ) : Analyser σ τ :=
  ⟨m.supply.supply, m.sink, m.lookahead, m.sourceName⟩

variable [Supply σ] [Listener τ]

theorem simulation_unmetered : Simulation (unmetered (σ := σ) (τ := τ)) where
  lookahead _ := rfl
  sourceName _ := rfl
  pending _ := rfl
  event _ _ := rfl
  success _ := rfl
  mismatch expected m := by
    rcases h : Listener.report m.lookahead (m.message expected m.lookahead) m.sink with
      ⟨answer, s⟩
    rw [mismatch_of_report h, mismatch_of_report (a := m.unmetered) h]
    rfl
  advance m := by
    rcases hpull : Supply.pull m.supply.supply with ⟨_ | _, _⟩
    · rw [advance_of_fault (Meter.pull_eq hpull), advance_of_fault (a := m.unmetered) hpull]
      rfl
    · rw [advance_of_pull (Meter.pull_eq hpull), advance_of_pull (a := m.unmetered) hpull]
      rfl

/-- The same analyser with a meter at its supply, at which its lookahead was taken, and its
sink in a new logbook. -/
def watched (a : Analyser σ τ) : Analyser (Meter σ) (Logbook τ) :=
  ⟨⟨a.supply, [.ok a.lookahead]⟩, ⟨a.sink, []⟩, a.lookahead, a.sourceName⟩

/-- The same analyser without the meter and without the logbook. -/
def bare (m : Analyser (Meter σ) (Logbook τ)) : Analyser σ τ := (unmetered ∘ unlogged) m

theorem simulation_bare : Simulation (bare (σ := σ) (τ := τ)) :=
  simulation_unmetered.comp simulation_unlogged

end Analyser

/-! ## The discipline -/

/-- **A sink that lets every terminal pass**, whatever it has heard before. -/
def Listener.PassesTerminals {τ : Type} [Listener τ] (s : τ) : Prop :=
  ∀ ns t, (notify (.event (.terminal t)) (sendAll ns s)).1 = .ok ()

namespace Analyser

variable {σ τ : Type} [Listener τ]

/-- **One token ahead.** The analyser reports to a sink that has begun in the state `s₀`. -/
structure Ahead (s₀ : τ) (m : Analyser (Meter σ) (Logbook τ)) : Prop where
  sink_eq : m.sink.sink = sendAll (m.sink.calls.map Prod.fst) s₀
  count : m.supply.pulls.length = 1 + (acceptedTokens m.sink.calls).length
  lookahead : latest m.supply.pulls = some m.lookahead
  accepted : ∀ i t, (acceptedTokens m.sink.calls)[i]? = some t →
    latest (m.supply.pulls.take (i + 1)) = some t

namespace Ahead

variable {s₀ : τ} {m : Analyser (Meter σ) (Logbook τ)}

theorem watched (a : Analyser σ τ) : Ahead a.sink a.watched := ⟨rfl, rfl, rfl, nofun⟩

/-- The sink has heard what is written down. -/
theorem sink_recorded (h : m.Ahead s₀) {n : Notice} {answer : Outcome} {s : τ}
    (hsend : send n m.sink.sink = (answer, s)) :
    s = sendAll ((m.sink.calls ++ [(n, answer)]).map Prod.fst) s₀ := by
  rw [List.map_append, sendAll_append, ← h.sink_eq]
  exact (congrArg Prod.snd hsend).symm

/-- To tell the sink of anything but a terminal makes no difference. -/
theorem recorded (h : m.Ahead s₀) {n : Notice} {answer : Outcome} {s : τ}
    (hn : n.token? = none) (hsend : send n m.sink.sink = (answer, s)) :
    (m.recorded n answer s).Ahead s₀ := by
  have htokens : acceptedTokens (m.sink.calls ++ [(n, answer)])
      = acceptedTokens m.sink.calls := by
    rw [acceptedTokens_append, show acceptedTokens [(n, answer)] = [] from
      List.filterMap_cons_none hn, List.append_nil]
  refine ⟨h.sink_recorded hsend, ?_, h.lookahead, ?_⟩
  · show _ = 1 + (acceptedTokens (m.sink.calls ++ [(n, answer)])).length
    rw [htokens]
    exact h.count
  · show ∀ i t, (acceptedTokens (m.sink.calls ++ [(n, answer)]))[i]? = some t → _
    rw [htokens]
    exact h.accepted

/-- **A terminal that is accepted.** The lookahead, which is the last token that came, is
told to the sink, and the supply is asked for one more. -/
theorem taken (h : m.Ahead s₀) {outcome : Except Raised Token} {t : Token} {u : τ} (v : σ)
    (hsend : send (.event (.terminal m.lookahead)) m.sink.sink = (.ok (), u))
    (ht : latest (m.supply.pulls ++ [outcome]) = some t) :
    Ahead s₀ ⟨⟨v, m.supply.pulls ++ [outcome]⟩,
      m.sink.record (.event (.terminal m.lookahead)) (.ok ()) u, t, m.sourceName⟩ := by
  have htokens : acceptedTokens (m.sink.calls ++ [(.event (.terminal m.lookahead), .ok ())])
      = acceptedTokens m.sink.calls ++ [m.lookahead] := acceptedTokens_append ..
  refine ⟨h.sink_recorded hsend, ?_, ht, ?_⟩
  · show (m.supply.pulls ++ [outcome]).length
      = 1 + (acceptedTokens (m.sink.calls ++ [(.event (.terminal m.lookahead), .ok ())])).length
    rw [htokens, List.length_append, List.length_append, h.count]
    rfl
  · show ∀ i t, (acceptedTokens
        (m.sink.calls ++ [(.event (.terminal m.lookahead), .ok ())]))[i]? = some t →
      latest ((m.supply.pulls ++ [outcome]).take (i + 1)) = some t
    rw [htokens]
    intro i t hi
    have hcount := h.count
    have hlt := (List.getElem?_eq_some_iff.1 hi).1
    rw [List.length_append, List.length_singleton] at hlt
    rw [List.take_append_of_le_length (by omega)]
    by_cases hi' : i < (acceptedTokens m.sink.calls).length
    · rw [List.getElem?_append_left hi'] at hi
      exact h.accepted i t hi
    · obtain rfl : i = (acceptedTokens m.sink.calls).length := by omega
      rw [List.getElem?_concat_length] at hi
      rw [List.take_of_length_le (by omega), h.lookahead, hi]

theorem notify (h : m.Ahead s₀) {n : Notice} (hn : n.token? = none) (hhook : n.hook ≠ .mismatch) :
    (Analyser.notify n m).2.Ahead s₀ := by
  rcases hanswer : Listener.notify n m.sink.sink with ⟨answer, s⟩
  rw [notify_logged hanswer]
  refine h.recorded hn ?_
  cases n with
  | mismatch => exact absurd rfl hhook
  | event | success => exact hanswer

theorem mismatch (h : m.Ahead s₀) (expected : String) :
    (Analyser.mismatch expected m).2.Ahead s₀ := by
  rcases hanswer : Listener.report m.lookahead (m.message expected m.lookahead) m.sink.sink with
    ⟨answer, s⟩
  rw [mismatch_of_report (report_logged hanswer)]
  exact h.recorded rfl hanswer

theorem accept [Supply σ] (hs₀ : PassesTerminals s₀) (h : m.Ahead s₀) (s : Symbol) :
    (Analyser.accept s m).2.Ahead s₀ := by
  by_cases hs : m.lookahead.symbol = s
  · have hpasses := hs₀ (m.sink.calls.map Prod.fst) m.lookahead
    rw [← h.sink_eq] at hpasses
    rcases hanswer : Listener.notify (.event (.terminal m.lookahead)) m.sink.sink with ⟨answer, u⟩
    rw [hanswer] at hpasses
    obtain rfl : answer = .ok () := hpasses
    rw [accept_of_eq hs]
    unfold Action.andThen
    rw [notify_logged hanswer]
    dsimp only
    generalize hn : m.recorded (.event (.terminal m.lookahead)) (.ok ()) u = n
    have hsupply : n.supply = m.supply := hn ▸ rfl
    rcases hpull : Supply.pull m.supply.supply with ⟨e | t, v⟩
    all_goals have hmeter := hsupply ▸ Meter.pull_eq hpull
    · -- the lookahead is still the last token that came
      rw [advance_of_fault hmeter, ← hn]
      exact h.taken v hanswer ((latest_concat_error _ e).trans h.lookahead)
    · rw [advance_of_pull hmeter, ← hn]
      exact h.taken v hanswer (latest_concat_ok _ t)
  · rw [accept_of_ne hs]
    exact h.mismatch _

theorem stepsKeep [Supply σ] (hs₀ : PassesTerminals s₀) :
    StepsKeep (Ahead s₀ : Analyser (Meter σ) (Logbook τ) → Prop) where
  notify _ hn hhook _ h := h.notify hn hhook
  mismatch expected _ h := h.mismatch expected
  accept s _ h := h.accept hs₀ s

/-- **Nothing is lost, skipped or doubled** unless the supply raises a fault. -/
theorem pulls_eq (h : m.Ahead s₀) (hpulls : ∀ o ∈ m.supply.pulls, ∃ t, o = .ok t) :
    m.supply.pulls = (acceptedTokens m.sink.calls ++ [m.lookahead]).map .ok := by
  have hrange : m.supply.pulls ∈ Set.range (List.map Except.ok) := by
    rw [Set.range_list_map]
    exact fun o ho => (hpulls o ho).imp fun _ => Eq.symm
  obtain ⟨ts, hts⟩ := hrange
  obtain ⟨-, hcount, hlookahead, haccepted⟩ := h
  simp only [← hts, List.length_map, ← List.map_take, latest_ok] at hcount hlookahead haccepted ⊢
  obtain ⟨taken, rfl⟩ := List.getLast?_eq_some_iff.1 hlookahead
  rw [List.length_append, List.length_singleton] at hcount
  congr 2
  refine List.ext_getElem (by omega) fun i hi hi' => ?_
  have hlast := haccepted i _ (List.getElem?_eq_getElem hi')
  rw [List.getLast?_take, if_neg i.succ_ne_zero, Nat.add_sub_cancel,
    List.getElem?_append_left hi, List.getElem?_eq_getElem hi, Option.some_or] at hlast
  exact Option.some.inj hlast

end Ahead

end Analyser

namespace Call

variable {σ τ : Type} [Supply σ] [Listener τ]

/-- **One token ahead.** Let an analyser be made over any supply, with a sink that lets
terminals pass, and let any calls be made, whether they fail or not. The supply is asked
for a token once and then once for each terminal that the sink is told of. The lookahead is
the last token that came, and each terminal is the last token that had come when the supply
was asked as often as that. So if the supply has raised no fault, the terminals and then the
lookahead are the tokens that came, in their order. Meter and logbook, by which this is
told, are there from the beginning and make no difference. -/
theorem one_token_ahead {supply : σ} {sink : τ} {sourceName : String} {a : Analyser σ τ}
    (hsink : PassesTerminals sink) (ha : Analyser.start supply sink sourceName = .ok a) :
    Analyser.start (Meter.mk supply []) (Logbook.mk sink []) sourceName = .ok a.watched
      ∧ ∀ cs, runAll cs a = ((runAll cs a.watched).1, (runAll cs a.watched).2.bare)
        ∧ let m := (runAll cs a.watched).2
          let terminals := acceptedTokens m.sink.calls
          m.supply.pulls.length = 1 + terminals.length
            ∧ latest m.supply.pulls = some m.lookahead
            ∧ (∀ i t, terminals[i]? = some t → latest (m.supply.pulls.take (i + 1)) = some t)
            ∧ ((∀ o ∈ m.supply.pulls, ∃ t, o = .ok t) →
              m.supply.pulls = (terminals ++ [m.lookahead]).map .ok) := by
  unfold Analyser.start at ha ⊢
  rcases hpull : Supply.pull supply with ⟨e | t, s⟩
  all_goals rw [hpull] at ha
  · cases ha
  · obtain rfl := Except.ok.inj ha
    rw [Meter.pull_eq hpull]
    refine ⟨rfl, fun cs => ⟨Analyser.simulation_bare.runAll cs
      (Analyser.watched ⟨s, sink, t, sourceName⟩), ?_⟩⟩
    have hahead := (Analyser.Ahead.stepsKeep hsink).runAll cs
      (Analyser.Ahead.watched ⟨s, sink, t, sourceName⟩)
    exact ⟨hahead.count, hahead.lookahead, hahead.accepted, hahead.pulls_eq⟩

/-- Behind `x :=` the supply fails once. The assignment is given up, `:=` is accepted a
second time, and the number behind it does not fit. If the assignment is not begun, but an
identifier is asked for twice, the fault does not come up. -/
theorem one_token_ahead_after_fault :
    let x : Token := ⟨.identifier, "x", 1, 1⟩
    let becomes : Token := ⟨.becomes, ":=", 1, 3⟩
    let one : Token := ⟨.numberConstant, "1", 2, 1⟩
    let e := Raised.fresh (.system "the disk is gone")
    let supply : Script := ⟨[.ok x, .ok becomes, .error e, .ok one]⟩
    let a : Analyser Script Sink := ⟨⟨supply.items.tail⟩, Sink.recorder, x, "p"⟩
    let unfit : List Call := [.terminal .identifier, .terminal .identifier]
    let failing : List Call :=
      [.rule .assignmentStatement, .terminal .becomes, .terminal .identifier]
    let m := (runAll failing a.watched).2
    let n := (runAll unfit a.watched).2
    PassesTerminals Sink.recorder ∧ Analyser.start supply Sink.recorder "p" = .ok a
      ∧ Analyser.start (Meter.mk supply []) (Logbook.mk Sink.recorder []) "p" = .ok a.watched
      ∧ (runAll failing a).1 = (runAll failing a.watched).1
      ∧ m.supply.pulls = [.ok x, .ok becomes, .error e, .ok one]
      ∧ acceptedTokens m.sink.calls = [x, becomes, becomes]
      ∧ m.supply.pulls.length = 1 + (acceptedTokens m.sink.calls).length
      ∧ latest m.supply.pulls = some m.lookahead
      ∧ latest (m.supply.pulls.take 3) = some becomes
      ∧ n.supply.pulls = [x, becomes].map .ok
      ∧ n.supply.pulls = (acceptedTokens n.sink.calls ++ [n.lookahead]).map .ok := by
  intro x becomes one e supply a unfit failing m n
  have hsink : PassesTerminals Sink.recorder := fun ns t =>
    Sink.calm_recorder ns (.event (.terminal t))
  have hstart : Analyser.start supply Sink.recorder "p" = .ok a := rfl
  obtain ⟨hwatched, hruns⟩ := one_token_ahead hsink hstart
  obtain ⟨hrun, hcount, hlookahead, haccepted, -⟩ := hruns failing
  obtain ⟨-, -, -, -, hinOrder⟩ := hruns unfit
  have hpulls : n.supply.pulls = [x, becomes].map .ok := rfl
  refine ⟨hsink, hstart, hwatched, congrArg Prod.fst hrun, rfl, rfl, hcount, hlookahead,
    haccepted 2 becomes rfl, hpulls, hinOrder fun o ho => ?_⟩
  obtain ⟨t, -, rfl⟩ := List.mem_map.1 (hpulls ▸ ho)
  exact ⟨t, rfl⟩

end Call

end SyntaxChecker
