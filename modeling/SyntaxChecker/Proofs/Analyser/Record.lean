import SyntaxChecker.Proofs.Analyser.Growth

/-!
# The record tells the truth

A record of the check of a program says whether it succeeded, and if not, which token did not
fit and what was said about it. These are notes that were taken while the check went on. The
outcome of the check comes about otherwise, by an error that is raised at one place and then
goes through all open rules, and what the supply did is in neither of them. They agree for
every supply and at whatever point it fails (`Call.record_tells_the_truth`).

The one thing that could be mistaken is an error of the supply. It may be any error, also one
that looks exactly like that for a token that does not fit. But only the sink raises the latter,
so the record has a token to accuse exactly if every pull has delivered a token and the check
has failed all the same.
-/

namespace SyntaxChecker

open Listener SyntaxChecker.Tree

/-! ## What is noted of events -/

/-- Events are recorded, and have no influence on the other notes. -/
theorem Recording.foldl_hear_events (events : List Event) (r : Recording) :
    ((events.map Notice.event).foldl hear r).succeeded = r.succeeded
      ∧ ((events.map Notice.event).foldl hear r).error = r.error := by
  induction events generalizing r with
  | nil => exact ⟨rfl, rfl⟩
  | cons e events ih => exact ih _

/-- Of events alone a new record keeps no other notes. -/
theorem Recording.notes_events (events : List Event) :
    let r := (events.map Notice.event).foldl hear .empty
    r.succeeded = false ∧ r.error = none :=
  foldl_hear_events events .empty

theorem Recording.notes_success (events : List Event) :
    let r := (events.map Notice.event ++ [Notice.success]).foldl hear .empty
    r.succeeded = true ∧ r.error = none := by
  intro r
  have hr : r = ((events.map Notice.event).foldl hear .empty).hear .success := List.foldl_append
  rw [hr]
  exact ⟨rfl, (notes_events events).2⟩

/-- The notices that some rules are left, as events. -/
theorem exists_events_exits (rules : List Rule) :
    ∃ events : List Event, exits rules = events.map .event :=
  ⟨rules.reverse.map fun r => .exit r.label, by rw [exits, List.map_map]; rfl⟩

/-- A mismatch is noted, and that rules are left behind it does not touch the note. -/
theorem Recording.notes_mismatch (events : List Event) (t : Token) (message : String)
    (rules : List Rule) :
    let r := (events.map Notice.event ++ .mismatch t message :: exits rules).foldl hear .empty
    r.succeeded = false ∧ r.error = some (t, message) := by
  intro r
  obtain ⟨left, hleft⟩ := exists_events_exits rules
  have hr : r = (left.map Notice.event).foldl hear
      (((events.map Notice.event).foldl hear .empty).hear (.mismatch t message)) := by
    rw [← hleft]
    exact List.foldl_append
  obtain ⟨hsucceeded, herror⟩ := foldl_hear_events left
    (((events.map Notice.event).foldl hear .empty).hear (.mismatch t message))
  rw [hr]
  exact ⟨hsucceeded.trans (notes_events events).1, herror⟩

/-! ## What a meter shows -/

section Meter

variable {σ : Type} [Supply σ] {m m' : Meter σ}

theorem Meter.of_pull {outcome : Except Raised Token} (h : Supply.pull m = (outcome, m')) :
    Supply.pull m.supply = (outcome, m'.supply) ∧ m'.pulls = m.pulls ++ [outcome] := by
  rcases hpull : Supply.pull m.supply with ⟨answer, s⟩
  rw [Meter.pull_eq hpull] at h
  obtain ⟨rfl, rfl⟩ := Prod.mk.inj h
  exact ⟨rfl, rfl⟩

/-- **What a metered supply yields**, the supply yields, and it is what the meter shows. -/
theorem Meter.of_yields {ts : List Token} (h : Supply.Yields m ts m') :
    Supply.Yields m.supply ts m'.supply ∧ m'.pulls = m.pulls ++ ts.map .ok := by
  induction h with
  | nil => exact ⟨.nil _, (List.append_nil _).symm⟩
  | cons hpull _ ih =>
    obtain ⟨hpull', hpulls⟩ := Meter.of_pull hpull
    obtain ⟨hyields, hrest⟩ := ih
    refine ⟨.cons hpull' hyields, ?_⟩
    rw [hrest, hpulls, List.append_assoc]
    rfl

end Meter

/-! ## How a check ends -/

/-- **How the check of a program ends**, in terms of its outcome, its last lookahead, all that
was taken from the supply, and all that the sink was told. -/
inductive Call.Concludes (D : Prop) (lookahead : Token) :
    Outcome → List (Except Raised Token) → List Notice → Prop
  /-- The last terminal is the end of the input, and success is told behind it. -/
  | success {events : List Event} {ts : List Token} {t : Token} :
      t.isEof = true → opened [] ((events ++ [Event.terminal t]).map .event) = [] →
        Concludes D lookahead (.ok ()) (ts.map .ok)
          ((events ++ [Event.terminal t]).map .event ++ [.success])
  /-- The lookahead does not fit. -/
  | mismatch {events : List Event} {ts : List Token} {rules : List Rule} {e : Raised}
      (message : String) :
      opened [] (events.map .event) = (rules.map Rule.label).reverse →
        e.innermost = .grammar ⟨message, some lookahead, none⟩ →
          Concludes D lookahead (.error e) (ts.map .ok)
            (events.map .event ++ .mismatch lookahead message :: exits rules)
  /-- The supply raises a fault at the last pull. -/
  | supply {events : List Event} {ts : List Token} {e origin : Raised} :
      e.innermost = origin.innermost → (origin.isSyntactic = false → e = origin) →
        Concludes D lookahead (.error e) (ts.map .ok ++ [.error origin]) (events.map .event)
  /-- The interpreter is at its greatest depth. -/
  | tooDeep {events : List Event} {ts : List Token} :
      D → Concludes D lookahead (.error (Raised.fresh .tooDeep)) (ts.map .ok)
        (events.map .event)

namespace Call

variable {σ : Type} [Supply σ]

section Concludes

variable {τ : Type} [Listener τ] {supply : σ} {a : Analyser σ τ}

/-- The greatest depth is reached only if the supply breaks its promise. -/
theorem runs_check_program {j : Analyser σ Journal}
    (hpull : Supply.pull supply = (.ok j.lookahead, j.supply)) :
    Analyser.Runs (¬ Supply.EndsWithin (Supply.pending j.supply + 1) supply) program.phrase j
      (program.check j) := by
  by_cases hpromise : Supply.EndsWithin (Supply.pending j.supply + 1) supply
  · rw [show (¬ Supply.EndsWithin _ supply) = False from eq_false (not_not_intro hpromise)]
    have hwithin : j.Within (Supply.pending j.supply + 1) := fun ts u hyields hts =>
      hpromise (j.lookahead :: ts) u (.cons hpull hyields) hts
    exact .seq (Analyser.runs_checkRule_of_within .statementPart hwithin)
      fun _ _ _ _ => .accept .eof
  · rw [show (¬ Supply.EndsWithin _ supply) = True from eq_true hpromise]
    exact .seq (Analyser.Runs.lockstep.follow _ (.rule .statementPart) j)
      fun _ _ _ _ => .accept .eof

/-- **Every check of a program with a calm sink ends like this.** -/
theorem concludes (hcalm : Calm a.sink)
    (hpull : Supply.pull supply = (.ok a.lookahead, a.supply)) :
    let result := program.run a.watched
    Concludes (¬ Supply.EndsWithin (Supply.pending a.supply + 1) supply) result.2.lookahead
      result.1 result.2.supply.pulls (program.notices a.watched) := by
  have hmetered : Supply.pull (Meter.mk supply []) = (.ok a.lookahead, a.watched.supply) :=
    Meter.pull_eq hpull
  have hruns := runs_check_program (j := a.watched.journaled) hmetered
  rw [program.run_eq_replay a.watched (Logbook.calm hcalm), notices, program.run_eq_check]
  generalize program.check a.watched.journaled = result at hruns
  cases hruns with
  | @ok trees k hbuilds hcourse =>
    obtain ⟨ts, hyields, -⟩ := hcourse.yields
    have hpulls : k.supply.pulls = (a.lookahead :: ts).map .ok := (Meter.of_yields hyields).2
    cases hbuilds with
    | @seq _ _ xs ys _ hend =>
      cases hend with
      | @terminal _ t ht =>
        have hevents : eventsAll (xs ++ [.leaf t]) = eventsAll xs ++ [.terminal t] :=
          eventsAll_append ..
        have hopen := opened_eventsAll [] (xs ++ [.leaf t])
        have hnotices : (k.wrote (program.closing (.ok ()))).sink.notices
            = (eventsAll xs ++ [Event.terminal t]).map .event ++ [.success] := by
          rw [← hevents]
          show k.sink.notices ++ _ = _
          rw [hcourse.sink_eq]
          rfl
        rw [hevents] at hopen
        show Concludes _ k.lookahead (.ok ()) k.supply.pulls (k.wrote _).sink.notices
        rw [hnotices, hpulls]
        exact .success (beq_iff_eq.2 ht) hopen
  | error hfails =>
    cases hfails with
    | @intro ns stop k l origin rules hcourse hopen hhalts =>
      obtain ⟨events, rfl⟩ := hcourse.exists_events
      obtain ⟨left, hleft⟩ := exists_events_exits rules
      obtain ⟨ts, hyields, -⟩ := hcourse.yields
      have hpulls : k.supply.pulls = (a.lookahead :: ts).map .ok := (Meter.of_yields hyields).2
      have hnotices : (l.wrote (exits rules)).sink.notices
          = events.map .event ++ (stop ++ exits rules) := by
        rw [hhalts.sink_wrote_exits hcourse, ← List.append_assoc]
        rfl
      dsimp only
      rw [closing_error, Analyser.wrote_nil, hnotices]
      show Concludes _ l.lookahead _ l.supply.pulls _
      cases hhalts with
      | mismatch expected =>
        show Concludes _ k.lookahead _ k.supply.pulls _
        rw [hpulls]
        exact .mismatch _ ((hopen []).trans (List.append_nil _)) (Analyser.innermost_wrapped ..)
      | @supply origin s hfault =>
        have hlast : s.pulls = (a.lookahead :: ts).map .ok ++ [.error origin] := by
          rw [(Meter.of_pull hfault).2, hpulls]
        have hevents : events.map Notice.event ++ ([.event (.terminal k.lookahead)] ++ exits rules)
            = (events ++ .terminal k.lookahead :: left).map .event := by
          rw [hleft, List.map_append]
          rfl
        show Concludes _ k.lookahead _ s.pulls _
        rw [hevents, hlast]
        exact .supply (Analyser.innermost_wrapped ..) fun hother =>
          Analyser.wrapped_of_not_isSyntactic _ rules hother
      | tooDeep hpromise =>
        have hevents : events.map Notice.event ++ ([] ++ exits rules)
            = (events ++ left).map .event := by
          rw [hleft, List.map_append]
          rfl
        rw [hevents, hpulls, Analyser.wrapped_of_not_isSyntactic _ rules rfl]
        exact .tooDeep fun h => hpromise fun ts u hyields hts =>
          h ts _ (Meter.of_yields hyields).1 hts

end Concludes

/-! ## What the notes come to -/

namespace Concludes

variable {D : Prop} {lookahead : Token} {o : Outcome} {pulls : List (Except Raised Token)}
  {ns : List Notice}

/-- Success is noted exactly if the check has succeeded. -/
theorem succeeded_iff (h : Concludes D lookahead o pulls ns) :
    (ns.foldl Recording.hear .empty).succeeded = true ↔ o = .ok () := by
  cases h with
  | success => exact iff_of_true (Recording.notes_success _).1 rfl
  | mismatch message =>
    exact iff_of_false (Bool.eq_false_iff.1 (Recording.notes_mismatch _ _ message _).1) nofun
  | supply | tooDeep => exact iff_of_false (Bool.eq_false_iff.1 (Recording.notes_events _).1) nofun

/-- A token is noted exactly if the sink was told that one does not fit. -/
theorem error_iff (h : Concludes D lookahead o pulls ns) :
    (ns.foldl Recording.hear .empty).error.isSome = true
      ↔ ∃ t message, .mismatch t message ∈ ns := by
  have hevent : ∀ {events : List Event} {t : Token} {message : String},
      Notice.mismatch t message ∉ events.map Notice.event := fun hmem => by
    obtain ⟨e, -, he⟩ := List.mem_map.1 hmem
    cases he
  cases h with
  | success =>
    rw [(Recording.notes_success _).2]
    refine iff_of_false nofun ?_
    rintro ⟨t, message, hmem⟩
    rcases List.mem_append.1 hmem with hmem | hmem
    · exact hevent hmem
    · cases List.mem_singleton.1 hmem
  | mismatch message =>
    rw [(Recording.notes_mismatch _ _ message _).2]
    exact iff_of_true rfl ⟨_, message, List.mem_append_right _ List.mem_cons_self⟩
  | supply | tooDeep =>
    rw [(Recording.notes_events _).2]
    exact iff_of_false nofun fun ⟨_, _, hmem⟩ => hevent hmem

/-- **The token that is noted** is the last lookahead, and the error is about it. -/
theorem accused (h : Concludes D lookahead o pulls ns) {t : Token} {message : String}
    (herror : (ns.foldl Recording.hear .empty).error = some (t, message)) :
    t = lookahead ∧ (∃ e, o = .error e ∧ e.innermost = .grammar ⟨message, some t, none⟩)
      ∧ (∃ ts : List Token, pulls = ts.map .ok)
      ∧ ∃ before rules, ns = before ++ .mismatch t message :: exits rules
        ∧ opened [] before = (rules.map Rule.label).reverse := by
  cases h with
  | success =>
    rw [(Recording.notes_success _).2] at herror
    cases herror
  | mismatch message' hopen hinner =>
    rw [(Recording.notes_mismatch _ _ message' _).2] at herror
    obtain ⟨rfl, rfl⟩ := Prod.mk.inj (Option.some.inj herror)
    exact ⟨rfl, ⟨_, rfl, hinner⟩, ⟨_, rfl⟩, _, _, rfl, hopen⟩
  | supply | tooDeep =>
    rw [(Recording.notes_events _).2] at herror
    cases herror

/-- A fault of the supply is what the check has ended by, and it is not noted. -/
theorem of_fault (h : Concludes D lookahead o pulls ns) {origin : Raised}
    (hfault : .error origin ∈ pulls) :
    pulls.getLast? = some (.error origin)
      ∧ (ns.foldl Recording.hear .empty).succeeded = false
      ∧ (ns.foldl Recording.hear .empty).error = none
      ∧ ∃ e, o = .error e ∧ e.innermost = origin.innermost
        ∧ (origin.isSyntactic = false → e = origin) := by
  have htoken : ∀ {ts : List Token}, .error origin ∉ ts.map Except.ok := fun hmem => by
    obtain ⟨t, -, ht⟩ := List.mem_map.1 hmem
    cases ht
  cases h with
  | success | mismatch | tooDeep => exact (htoken hfault).elim
  | supply hinner hother =>
    rcases List.mem_append.1 hfault with hmem | hmem
    · exact (htoken hmem).elim
    · obtain rfl := Except.error.inj (List.mem_singleton.1 hmem)
      obtain ⟨hsucceeded, herror⟩ := Recording.notes_events (by assumption)
      exact ⟨List.getLast?_concat, hsucceeded, herror, _, rfl, hinner, hother⟩

/-- Every failure is due to a token that is noted, a fault of the supply, or the depth. -/
theorem of_error (h : Concludes D lookahead o pulls ns) {e : Raised} (he : o = .error e) :
    (ns.foldl Recording.hear .empty).error.isSome = true ∨ (∃ origin, .error origin ∈ pulls)
      ∨ e = Raised.fresh .tooDeep ∧ D := by
  cases h with
  | success => cases he
  | mismatch message =>
    rw [(Recording.notes_mismatch _ _ message _).2]
    exact .inl rfl
  | supply => exact .inr (.inl ⟨_, List.mem_append_right _ (List.mem_singleton_self _)⟩)
  | tooDeep hdeep => exact .inr (.inr ⟨(Except.error.inj he).symm, hdeep⟩)

/-- **After success** the end of the input was accepted last, and no rule is open. -/
theorem of_success (h : Concludes D lookahead o pulls ns) (ho : o = .ok ()) :
    ∃ events t, ns.filterMap Notice.event? = events ++ [.terminal t] ∧ t.isEof = true
      ∧ opened [] ((events ++ [Event.terminal t]).map .event) = [] := by
  cases h with
  | @success events ts t ht hopen =>
    refine ⟨events, t, ?_, ht, hopen⟩
    rw [List.filterMap_append, List.filterMap_map]
    exact (List.append_nil _).trans List.filterMap_some
  | mismatch | supply | tooDeep => cases ho

end Concludes

/-! ## The record -/

/-- **A record that tells the truth** about the check of a program that the analyser was asked
for. -/
structure Truthful (supply : σ) (a : Analyser σ Sink) (r : Recording) : Prop where
  /-- What was taken from the supply is seen at a meter, which makes no difference. -/
  watched : program.run a = ((program.run a.watched).1, (program.run a.watched).2.bare)
  recorded : (program.run a).2.sink = .recording r
  /-- The events are those that the sink was told. -/
  events : r.events.toList = (program.calls a).filterMap fun call => call.1.event?
  succeeded : r.succeeded = true ↔ (program.run a).1 = .ok ()
  /-- A token is noted exactly if the sink was told that one does not fit. -/
  error : r.error.isSome = true
    ↔ ∃ t message answer, (.mismatch t message, answer) ∈ program.calls a
  /-- It is the last lookahead, and it came like all others before. The far end of the error
  names it with the same message. Behind the notice of it the sink was told nothing but that
  the rules are left that were open. -/
  accused (t : Token) (message : String) : r.error = some (t, message) →
    t = (program.run a).2.lookahead
      ∧ (∃ e, (program.run a).1 = .error e ∧ e.innermost = .grammar ⟨message, some t, none⟩)
      ∧ (∃ ts : List Token, (program.run a.watched).2.supply.pulls = ts.map .ok)
      ∧ ∃ before rules, program.calls a = answered (before ++ .mismatch t message :: exits rules)
        ∧ opened [] before = (rules.map Rule.label).reverse
  /-- A fault of the supply, whatever it looks like, is not taken for such a token. It ends the
  check, and is at the far end of its error or is itself the error. -/
  fault (origin : Raised) : .error origin ∈ (program.run a.watched).2.supply.pulls →
    (program.run a.watched).2.supply.pulls.getLast? = some (.error origin)
      ∧ r.succeeded = false ∧ r.error = none
      ∧ ∃ e, (program.run a).1 = .error e ∧ e.innermost = origin.innermost
        ∧ (origin.isSyntactic = false → e = origin)
  /-- There is no third way to fail, if the supply keeps its promise to come to an end. -/
  failed (e : Raised) : (program.run a).1 = .error e →
    r.error.isSome = true ∨ (∃ origin, .error origin ∈ (program.run a.watched).2.supply.pulls)
      ∨ e = Raised.fresh .tooDeep
        ∧ ¬ Supply.EndsWithin (Supply.pending a.supply + 1) supply
  /-- After success the last event is that the end of the input was accepted. -/
  complete : r.succeeded = true → ∃ before t, r.events.toList = before ++ [.terminal t]
    ∧ t.isEof = true ∧ opened [] (r.events.toList.map .event) = []

/-- **The record tells the truth.** Let an analyser be made over any supply, with a new record,
and let it check a program, whatever tokens the supply delivers and whatever faults it raises,
syntactic errors of any shape among them. Success is on record exactly if the check succeeds,
and then the end of the input was accepted last and no rule is open. A token is on record
exactly if the check has ended because it does not fit. If the check has ended by a fault of
the supply, nothing is on record but the events. -/
theorem record_tells_the_truth {supply : σ} {sourceName : String} {a : Analyser σ Sink}
    (ha : Analyser.start supply Sink.recorder sourceName = .ok a) :
    ∃ r, Truthful supply a r := by
  obtain ⟨hpull, hsink⟩ := Analyser.pull_of_start ha
  have hcalm : Calm a.sink := hsink ▸ Sink.calm_recorder
  have hwatched : program.run a = ((program.run a.watched).1, (program.run a.watched).2.bare) :=
    Analyser.simulation_bare.run program a.watched
  have hconcludes := concludes hcalm hpull
  rw [program.notices_watched a] at hconcludes
  dsimp only at hconcludes
  rw [show (program.run a.watched).1 = (program.run a).1 from (congrArg Prod.fst hwatched).symm,
    show (program.run a.watched).2.lookahead = (program.run a).2.lookahead from
      (congrArg (fun result => result.2.lookahead) hwatched).symm] at hconcludes
  have hcalls := program.calls_eq_answered hcalm
  have hrecorded : (program.run a).2.sink
      = .recording ((program.notices a).foldl Recording.hear .empty) := by
    rw [program.run_eq_replay a hcalm]
    show sendAll (program.notices a) a.sink = _
    rw [hsink, Sink.recorder, sendAll_recording]
  have hevents : ((program.notices a).foldl Recording.hear .empty).events.toList
      = (program.notices a).filterMap Notice.event? := Recording.events_foldl_hear ..
  refine ⟨_, hwatched, hrecorded, ?_, hconcludes.succeeded_iff, ?_, fun t message herror => ?_,
    fun origin => hconcludes.of_fault, fun e => hconcludes.of_error, fun hsucceeded => ?_⟩
  · rw [hevents, hcalls, answered, List.filterMap_map]
    rfl
  · rw [hconcludes.error_iff, hcalls]
    refine exists_congr fun t => exists_congr fun message => ?_
    constructor
    · exact fun hmem => ⟨_, List.mem_map.2 ⟨_, hmem, rfl⟩⟩
    · rintro ⟨_, hmem⟩
      obtain ⟨n, hn, heq⟩ := List.mem_map.1 hmem
      exact (Prod.mk.inj heq).1 ▸ hn
  · obtain ⟨hlookahead, herror, hpulls, before, rules, hnotices, hopen⟩ :=
      hconcludes.accused herror
    exact ⟨hlookahead, herror, hpulls, before, rules, by rw [hcalls, hnotices], hopen⟩
  · obtain ⟨before, t, hnotices, ht, hopen⟩ :=
      hconcludes.of_success (hconcludes.succeeded_iff.1 hsucceeded)
    rw [hevents, hnotices]
    exact ⟨before, t, rfl, ht, hopen⟩

/-- Behind `begin` there is no statement. One supply delivers the token that does not fit, and
another one raises the very error that the sink raises for that token. Both checks fail with
the same fault at the far end, but only the first record accuses the token. -/
theorem record_tells_the_truth_same_fault :
    let first : Token := ⟨.kwBegin, "begin", 1, 1⟩
    let t : Token := ⟨.kwEnd, "end", 1, 7⟩
    let message := errorMessage "p" 1 "<assignment>, <if>, <while>, <procedure>, <until>, or <for>"
      "'end'"
    let refused : Script := ⟨[.ok first, .ok t]⟩
    let broken : Script := ⟨[.ok first, .error (mismatchError t message)]⟩
    let a : Analyser Script Sink := ⟨⟨refused.items.tail⟩, .recorder, first, "p"⟩
    let b : Analyser Script Sink := ⟨⟨broken.items.tail⟩, .recorder, first, "p"⟩
    Analyser.start refused Sink.recorder "p" = .ok a
      ∧ Analyser.start broken Sink.recorder "p" = .ok b
      ∧ (∃ r e, Truthful refused a r ∧ r.error = some (t, message)
        ∧ (program.run a).1 = .error e ∧ e.innermost = .grammar ⟨message, some t, none⟩)
      ∧ ∃ r e, Truthful broken b r ∧ r.error = none ∧ r.succeeded = false
        ∧ (program.run b).1 = .error e ∧ e.innermost = .grammar ⟨message, some t, none⟩ := by
  intro first t message refused broken a b
  have ha : Analyser.start refused Sink.recorder "p" = .ok a := rfl
  have hb : Analyser.start broken Sink.recorder "p" = .ok b := rfl
  obtain ⟨r, hr⟩ := record_tells_the_truth ha
  obtain ⟨r', hr'⟩ := record_tells_the_truth hb
  have hmismatch : ((program.run a).2.sink.record?.map Recording.error)
      = some (some (t, message)) := by
    decide +kernel
  rw [hr.recorded] at hmismatch
  have herror : r.error = some (t, message) := Option.some.inj hmismatch
  obtain ⟨-, ⟨e, he, hinner⟩, -⟩ := hr.accused t message herror
  have hpulls : .error (mismatchError t message) ∈ (program.run b.watched).2.supply.pulls := by
    decide +kernel
  obtain ⟨-, hsucceeded, hnone, e', he', hinner', -⟩ := hr'.fault _ hpulls
  exact ⟨ha, hb, ⟨r, e, hr, herror, he, hinner⟩, r', e', hr', hnone, hsucceeded, he', hinner'⟩

end Call

end SyntaxChecker
