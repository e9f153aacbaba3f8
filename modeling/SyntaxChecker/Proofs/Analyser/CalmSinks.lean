import SyntaxChecker.Check
import SyntaxChecker.Proofs.Analyser.Journal

/-!
# Calm sinks

Nearly all sinks are calm: those that keep nothing, record or trace, and every tee
of such sinks, however it is nested (`Sink.calm_of_discreet`). What is left are the
sinks that serve to try the checker, the silent one and the traps.

A check with a calm sink is a check with a journal that is then read to the sink
(`checkSupply_of_calm`). A sink that records keeps of it, among other things, the
accepted tokens (`Recording.terminals_foldl_hear`).
-/

namespace SyntaxChecker

open Listener

namespace Sink

/-- Whether a sink is made of sinks that keep nothing, record or trace. -/
def discreet (s : Sink) : Bool :=
  s.leaves.all fun
    | silent _ | trap _ => false
    | _ => true

theorem discreet_tee_cons {s : Sink} {rest : List Sink} :
    (tee (s :: rest)).discreet = true ↔ s.discreet = true ∧ (tee rest).discreet = true := by
  unfold discreet
  rw [leaves, leavesAll, List.all_append, Bool.and_eq_true]
  rfl

mutual

/-- **A discreet sink raises nothing** and stays discreet. -/
theorem notify_of_discreet (n : Notice) : (s : Sink) → s.discreet = true →
    (s.notify n).1 = .ok () ∧ (s.notify n).2.discreet = true
  | quiet, _ | recording _, _ | trace _, _ => ⟨rfl, rfl⟩
  | silent _, h | trap _, h => nomatch h
  | tee sinks, h => by
    obtain ⟨hok, hstays⟩ := notifyAll_of_discreet n sinks h
    exact ⟨hok, hstays⟩

theorem notifyAll_of_discreet (n : Notice) : (sinks : List Sink) → (tee sinks).discreet = true →
    (notifyAll n sinks).1 = .ok () ∧ (tee (notifyAll n sinks).2).discreet = true
  | [], _ => ⟨rfl, rfl⟩
  | s :: rest, h => by
    obtain ⟨hs, hrest⟩ := discreet_tee_cons.1 h
    obtain ⟨hok, hstays⟩ := notify_of_discreet n s hs
    obtain ⟨hok', hstays'⟩ := notifyAll_of_discreet n rest hrest
    rw [notifyAll]
    rcases hnotify : s.notify n with ⟨_ | _, s'⟩
    all_goals rw [hnotify] at hok hstays
    · cases hok
    · exact ⟨hok', discreet_tee_cons.2 ⟨hstays, hstays'⟩⟩

end

/-- A discreet sink raises the error that it is asked to raise. -/
theorem report_of_discreet {s : Sink} (h : s.discreet = true) (t : Token) (message : String) :
    s.report t message
      = (.error (mismatchError t message), (s.notify (.mismatch t message)).2) := by
  have hok := (notify_of_discreet (.mismatch t message) s h).1
  unfold report
  rcases hnotify : s.notify (.mismatch t message) with ⟨_ | _, s'⟩
  all_goals rw [hnotify] at hok
  · cases hok
  · cases s with
    | silent => cases h
    | quiet | recording | trace | trap | tee => rfl

/-- **Discreet sinks are calm.** -/
theorem calm_of_discreet {s : Sink} (h : s.discreet = true) : Calm s := by
  refine calm_of_invariant (I := fun s => s.discreet = true) h fun s n hs => ?_
  cases n with
  | event e => exact notify_of_discreet (.event e) s hs
  | success => exact notify_of_discreet .success s hs
  | mismatch t message =>
    show (s.report t message).1 = _ ∧ (s.report t message).2.discreet = true
    rw [report_of_discreet hs]
    exact ⟨rfl, (notify_of_discreet _ s hs).2⟩

theorem calm_recorder : Calm recorder := calm_of_discreet rfl

/-- The sink that the command for traces reports to. -/
theorem calm_tee_tracer (indent : String) : Calm (tee [tracer indent, recorder]) :=
  calm_of_discreet rfl

end Sink

/-! ## What is recorded and written -/

/-- A sink that records does so with every notice. -/
theorem sendAll_recording (ns : List Notice) (r : Recording) :
    sendAll ns (Sink.recording r) = Sink.recording (ns.foldl Recording.hear r) := by
  induction ns generalizing r with
  | nil => rfl
  | cons n ns ih =>
    have hsend : (send n (Sink.recording r)).2 = Sink.recording (r.hear n) := by
      cases n <;> rfl
    show sendAll ns (send n (Sink.recording r)).2 = _
    rw [hsend]
    exact ih (r.hear n)

/-- A sink that traces does so with every notice. -/
theorem sendAll_trace (ns : List Notice) (t : Trace) :
    sendAll ns (Sink.trace t) = Sink.trace (ns.foldl Trace.hear t) := by
  induction ns generalizing t with
  | nil => rfl
  | cons n ns ih =>
    have hsend : (send n (Sink.trace t)).2 = Sink.trace (t.hear n) := by
      cases n <;> rfl
    show sendAll ns (send n (Sink.trace t)).2 = _
    rw [hsend]
    exact ih (t.hear n)

/-- The event that a notice tells, if it tells one. -/
def Notice.event? : Notice → Option Event
  | .event e => some e
  | .mismatch _ _ | .success => none

/-- The recorded events are those that the sink was told. -/
theorem Recording.events_foldl_hear (ns : List Notice) (r : Recording) :
    (ns.foldl hear r).events.toList = r.events.toList ++ ns.filterMap Notice.event? := by
  induction ns generalizing r with
  | nil => exact (List.append_nil _).symm
  | cons n ns ih =>
    have hhear : (r.hear n).events.toList = r.events.toList ++ [n].filterMap Notice.event? := by
      cases n with
      | event e => exact Array.toList_push
      | mismatch | success => exact (List.append_nil _).symm
    rw [List.foldl_cons, ih, hhear, List.append_assoc, ← List.filterMap_append]
    rfl

/-- The recorded terminals are the tokens that the sink was told to be accepted. -/
theorem Recording.terminals_foldl_hear (ns : List Notice) (r : Recording) :
    (ns.foldl hear r).terminals = r.terminals ++ ns.filterMap Notice.token? := by
  have htoken : (fun n : Notice => n.event?.bind Event.token?) = Notice.token? := by
    funext n
    cases n <;> rfl
  rw [terminals, events_foldl_hear, List.filterMap_append, List.filterMap_filterMap, htoken]
  rfl

/-! ## Checks with calm sinks -/

/-- **A check with a calm sink.** If the first token can be taken, the sink hears
what the journal holds after the check. -/
theorem checkSupply_of_calm {σ τ : Type} [Supply σ] [Listener τ] (supply : σ) {sink : τ}
    (h : Calm sink) (sourceName : String) :
    checkSupply supply sink sourceName
      = match Analyser.start supply Journal.empty sourceName with
        | .error e => (.error e, sink)
        | .ok j => ((Call.program.run j).1, sendAll (Call.program.run j).2.sink.notices sink) := by
  unfold checkSupply Analyser.start
  rcases Supply.pull supply with ⟨e | t, s⟩
  · rfl
  · show ((Call.program.run _).1, (Call.program.run _).2.sink) = _
    rw [Call.program.run_eq_replay _ h]
    rfl

/-- Calm sinks have no part in the outcome of a check. -/
theorem checkSupply_fst_eq_of_calm {σ τ τ' : Type} [Supply σ] [Listener τ] [Listener τ']
    (supply : σ) {sink : τ} {sink' : τ'} (h : Calm sink) (h' : Calm sink') (sourceName : String) :
    (checkSupply supply sink sourceName).1 = (checkSupply supply sink' sourceName).1 := by
  rw [checkSupply_of_calm supply h, checkSupply_of_calm supply h']
  cases Analyser.start supply Journal.empty sourceName <;> rfl

end SyntaxChecker
