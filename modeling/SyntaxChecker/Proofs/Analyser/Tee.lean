import SyntaxChecker.Proofs.Analyser.Expectation
import SyntaxChecker.Proofs.Analyser.Lookahead

/-!
# Tees

A tee hears what the analyser tells it and passes it on. Told of a token that does not fit,
it does not report to its sinks, which would have each of them raise an error of its own. It
has them hear of the token like of anything else, and raises the one error itself. So a tee
and a sink that is not a tee come to the error in different ways.

It makes no difference to anyone (`Call.sinks_have_no_influence`). Any two sinks that
are made of those that keep nothing, record or trace lead through the same calls, whatever
the supply does and however often the calls fail. And each leaf of a tee, however deep it
lies, ends up as if it had been the only sink.
-/

namespace SyntaxChecker

open Listener

/-! ## What the leaves hear -/

namespace Sink

mutual

/-- A leaf has no other leaf than itself. -/
theorem leaves_of_mem_leaves {leaf : Sink} : (s : Sink) → leaf ∈ s.leaves → leaf.leaves = [leaf]
  | quiet, h | recording _, h | trace _, h | silent _, h | trap _, h => by
    rw [List.mem_singleton.1 h]
    rfl
  | tee sinks, h => leaves_of_mem_leavesAll sinks h

theorem leaves_of_mem_leavesAll {leaf : Sink} :
    (sinks : List Sink) → leaf ∈ leavesAll sinks → leaf.leaves = [leaf]
  | [], h => nomatch h
  | s :: rest, h =>
    (List.mem_append.1 h).elim (leaves_of_mem_leaves s) (leaves_of_mem_leavesAll rest)

end

/-- The leaves of a discreet sink are discreet. -/
theorem discreet_of_mem_leaves {s leaf : Sink} (hs : s.discreet = true) (h : leaf ∈ s.leaves) :
    leaf.discreet = true := by
  have hleaf := List.all_eq_true.1 hs leaf h
  unfold discreet
  rw [leaves_of_mem_leaves s h, List.all_cons, List.all_nil, Bool.and_true]
  exact hleaf

mutual

/-- **Each leaf hears what the tee hears.** -/
theorem leaves_notify (n : Notice) : (s : Sink) → s.discreet = true →
    (s.notify n).2.leaves = s.leaves.map fun leaf => (leaf.notify n).2
  | quiet, _ | recording _, _ | trace _, _ => rfl
  | silent _, h | trap _, h => nomatch h
  | tee sinks, h => leavesAll_notifyAll n sinks h

theorem leavesAll_notifyAll (n : Notice) : (sinks : List Sink) → (tee sinks).discreet = true →
    leavesAll (notifyAll n sinks).2 = (leavesAll sinks).map fun leaf => (leaf.notify n).2
  | [], _ => rfl
  | s :: rest, h => by
    obtain ⟨hs, hrest⟩ := discreet_tee_cons.1 h
    have hok := (notify_of_discreet n s hs).1
    have hleaves := leaves_notify n s hs
    rw [notifyAll]
    rcases hnotify : s.notify n with ⟨_ | _, s'⟩
    all_goals rw [hnotify] at hok hleaves
    · cases hok
    · show s'.leaves ++ leavesAll (notifyAll n rest).2 = (s.leaves ++ leavesAll rest).map _
      rw [List.map_append, ← hleaves, leavesAll_notifyAll n rest hrest]

end

/-- However a notice is brought to a discreet sink, it is the same to the sink. -/
theorem send_of_discreet {s : Sink} (hs : s.discreet = true) (n : Notice) :
    send n s = (n.answer, (s.notify n).2) := by
  cases n with
  | mismatch t message => exact report_of_discreet hs t message
  | event e => exact Prod.ext (notify_of_discreet (.event e) s hs).1 rfl
  | success => exact Prod.ext (notify_of_discreet .success s hs).1 rfl

/-- **Each leaf ends as if it had been the only sink.** -/
theorem leaves_sendAll (ns : List Notice) {s : Sink} (hs : s.discreet = true) :
    (sendAll ns s).leaves = s.leaves.map (sendAll ns) := by
  induction ns generalizing s with
  | nil => exact (List.map_id _).symm
  | cons n ns ih =>
    have hfirst : ∀ {s : Sink}, s.discreet = true →
        sendAll (n :: ns) s = sendAll ns (s.notify n).2 := fun {s} hs => by
      show sendAll ns (send n s).2 = _
      rw [send_of_discreet hs]
    rw [hfirst hs, ih (notify_of_discreet n s hs).2, leaves_notify n s hs, List.map_map]
    exact List.map_congr_left fun leaf hleaf => (hfirst (discreet_of_mem_leaves hs hleaf)).symm

theorem discreet_sendAll (ns : List Notice) {s : Sink} (hs : s.discreet = true) :
    (sendAll ns s).discreet = true := by
  induction ns generalizing s with
  | nil => exact hs
  | cons n ns ih =>
    refine ih (s := (send n s).2) ?_
    rw [send_of_discreet hs]
    exact (notify_of_discreet n s hs).2

/-! ## One error for each mismatch -/

/-- The fault that an outcome is, if it is one. -/
def fault? : Outcome → Option Raised
  | .error e => some e
  | .ok () => none

/-- The errors that are raised when a sink has to report a token that does not fit: by its
leaves when they hear of it, and then by itself. -/
def errorsOfReport (t : Token) (message : String) (s : Sink) : List Raised :=
  (s.leaves.map (fun leaf => (leaf.notify (.mismatch t message)).1)
    ++ [(s.report t message).1]).filterMap fault?

/-- **One error is raised**, however many leaves there are. -/
theorem errorsOfReport_of_discreet {s : Sink} (hs : s.discreet = true) (t : Token)
    (message : String) : s.errorsOfReport t message = [mismatchError t message] := by
  have hleaves : (s.leaves.map fun leaf => (leaf.notify (.mismatch t message)).1).filterMap fault?
      = [] := by
    rw [List.filterMap_map, List.filterMap_eq_nil_iff]
    intro leaf hleaf
    exact congrArg fault? (notify_of_discreet _ leaf (discreet_of_mem_leaves hs hleaf)).1
  unfold errorsOfReport
  rw [List.filterMap_append, hleaves, report_of_discreet hs]
  rfl

end Sink

/-! ## Calls -/

/-- The same analyser with another sink. -/
def Analyser.reportingTo {σ τ τ' : Type} (a : Analyser σ τ) (s : τ') : Analyser σ τ' :=
  ⟨a.supply, s, a.lookahead, a.sourceName⟩

namespace Call

variable {σ τ : Type} [Supply σ] [Listener τ]

/-- **A calm sink hears what the journal holds** in several calls. -/
theorem runAll_eq_replay (cs : List Call) (a : Analyser σ τ) (hs : Calm a.sink) :
    runAll cs a = ((runAll cs a.journaled).1, (runAll cs a.journaled).2.replay a.sink) :=
  (Analyser.simulation_replay hs).runAll cs a.journaled

/-- **A calm sink under watch.** Nothing but what is in its logbook depends on the sink. -/
theorem runAll_watched_of_calm (cs : List Call) (a : Analyser σ τ) (hs : Calm a.sink) :
    let j := (runAll cs a.watched.journaled).2
    runAll cs a.watched = ((runAll cs a.watched.journaled).1,
      ⟨j.supply, ⟨sendAll j.sink.notices a.sink, answered j.sink.notices⟩, j.lookahead,
        j.sourceName⟩) := by
  intro j
  rw [runAll_eq_replay cs a.watched (Logbook.calm hs)]
  show (_, Analyser.mk _ (sendAll j.sink.notices (Logbook.mk a.sink [])) _ _) = _
  rw [Logbook.sendAll_of_calm hs]
  rfl

/-- **Sinks have no influence, and tees are transparent.** Let two sinks be made of sinks
that keep nothing, record or trace, and let the same calls be made to analysers that differ
in nothing but them. From the first token on, the calls end in the same way, with the same
lookahead, and have taken the same from the supply; and both sinks were told the same and
have given the same answers. For each mismatch these are one error, which no leaf has a part
in. In the end each leaf of the sink is what it would be as the only sink.

Meter and logbook, by which this is told, make no difference to the calls. -/
theorem sinks_have_no_influence {a : Analyser σ Sink} {s : Sink} (ha : a.sink.discreet = true)
    (hs : s.discreet = true) :
    (∀ (supply : σ) (sourceName : String), Analyser.start supply s sourceName
        = (Analyser.start supply a.sink sourceName).map (Analyser.reportingTo · s))
      ∧ ∀ cs : List Call,
        let b := a.reportingTo s
        let m := (runAll cs a.watched).2
        let m' := (runAll cs b.watched).2
        (runAll cs a).2 = m.bare ∧ (runAll cs b).2 = m'.bare
          ∧ (runAll cs b).1 = (runAll cs a).1
          ∧ m'.lookahead = m.lookahead ∧ m'.supply = m.supply ∧ m'.sink.calls = m.sink.calls
          ∧ (∀ call ∈ m.sink.calls, call.2 = call.1.answer)
          ∧ (∀ before t message answer after,
            m.sink.calls = before ++ (.mismatch t message, answer) :: after →
              (sendAll (before.map Prod.fst) a.sink).errorsOfReport t message
                = [mismatchError t message])
          ∧ (runAll cs a).2.sink.leaves
            = a.sink.leaves.map fun leaf => (runAll cs (a.reportingTo leaf)).2.sink := by
  constructor
  · intro supply sourceName
    unfold Analyser.start
    rcases Supply.pull supply with ⟨_ | _, _⟩ <;> rfl
  intro cs b m m'
  have hcalm := Sink.calm_of_discreet ha
  have hcalm' := Sink.calm_of_discreet hs
  have hm : m = _ := congrArg Prod.snd (runAll_watched_of_calm cs a hcalm)
  have hm' : m' = _ := congrArg Prod.snd (runAll_watched_of_calm cs b hcalm')
  refine ⟨?_, ?_, ?_, ?_, ?_, ?_, ?_, ?_, ?_⟩
  · exact congrArg Prod.snd (Analyser.simulation_bare.runAll cs a.watched)
  · exact congrArg Prod.snd (Analyser.simulation_bare.runAll cs b.watched)
  · rw [runAll_eq_replay cs a hcalm, runAll_eq_replay cs b hcalm']
    rfl
  · rw [hm, hm']
    rfl
  · rw [hm, hm']
    rfl
  · rw [hm, hm']
    rfl
  · rw [hm]
    intro call hcall
    obtain ⟨n, -, rfl⟩ := List.mem_map.1 hcall
    rfl
  · intro before t message answer after _
    exact Sink.errorsOfReport_of_discreet (Sink.discreet_sendAll _ ha) t message
  · rw [runAll_eq_replay cs a hcalm]
    show (sendAll _ a.sink).leaves = _
    rw [Sink.leaves_sendAll _ ha]
    refine List.map_congr_left fun leaf hleaf => ?_
    rw [runAll_eq_replay cs (a.reportingTo leaf)
      (Sink.calm_of_discreet (Sink.discreet_of_mem_leaves ha hleaf))]
    rfl

/-- Of `x y` no assignment can be made, and behind it the supply fails. A tee with a tee in
it, and another that is empty, fares like the sink that keeps nothing. -/
theorem sinks_have_no_influence_nested_tee :
    let x : Token := ⟨.identifier, "x", 1, 1⟩
    let y : Token := ⟨.identifier, "y", 1, 3⟩
    let e := Raised.fresh (.system "the disk is gone")
    let nested := Sink.tee [.tee [], .tracer "  ", .tee [.recorder, .quiet]]
    let a : Analyser Script Sink := ⟨⟨[.ok y, .error e]⟩, nested, x, "p"⟩
    let cs : List Call := [.rule .assignmentStatement, .terminal .identifier]
    let b := a.reportingTo Sink.quiet
    let m := (runAll cs a.watched).2
    let m' := (runAll cs b.watched).2
    let message := errorMessage "p" 1 "':='" "'y'"
    let before := answered [.event (.enter "<assignment statement>"), .event (.terminal x)]
    nested.discreet = true ∧ Sink.quiet.discreet = true
      ∧ Analyser.start (Script.mk [.ok x]) Sink.quiet "p"
        = (Analyser.start (Script.mk [.ok x]) nested "p").map (Analyser.reportingTo · .quiet)
      ∧ (runAll cs b).1 = (runAll cs a).1 ∧ (runAll cs a).1.getLast? = some (.error e)
      ∧ m'.lookahead = m.lookahead ∧ m'.supply = m.supply
      ∧ m.supply.pulls = [.ok x, .ok y, .error e]
      ∧ (sendAll (before.map Prod.fst) nested).errorsOfReport y message
        = [mismatchError y message]
      ∧ (runAll cs a).2.sink.leaves
        = [.tracer "  ", .recorder, .quiet].map fun leaf =>
          (runAll cs (a.reportingTo leaf)).2.sink := by
  intro x y e nested a cs b m m' message before
  obtain ⟨hstart, hcalls⟩ := sinks_have_no_influence (a := a) (s := .quiet) rfl rfl
  obtain ⟨-, -, houtcomes, hlookahead, hsupply, -, -, herrors, hleaves⟩ := hcalls cs
  exact ⟨rfl, rfl, hstart _ _, houtcomes, rfl, hlookahead, hsupply, rfl,
    herrors before y message (.error (mismatchError y message)) _ rfl, hleaves⟩

end Call

end SyntaxChecker
