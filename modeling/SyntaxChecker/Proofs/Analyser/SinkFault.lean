import SyntaxChecker.Proofs.Analyser.Balance
import SyntaxChecker.Proofs.Analyser.ErrorChain
import SyntaxChecker.Proofs.Analyser.Prediction

/-!
# A sink that fails once

A trap is a sink that answers as is due, but for one call, at which it raises a
fault of its own. Until then the check does not know that the sink is a trap.
From then on there is nothing left to do but to leave the rules that are open,
and each of them treats the fault as it treats any other: if it is syntactic, the
rule puts its own error in front (`Call.run_trapped`).

Which rules these are depends on the call at which the trap springs
(`Notice.enclosing`). A rule that the sink refuses to enter is not open yet, and a
rule that is being left is not open any more, so neither wraps the fault. The
latter holds also if the rule is being left because of an error: the fault
then takes the place of that error, of which nothing remains.

`Fares` says this of an action. The proof follows a trap through the parts of a
phrase, where it is either still `Trap.Armed` or has sprung; in the second case
it is as good as no trap at all.
-/

namespace SyntaxChecker

open Listener

/-! ## Traps that hear something -/

namespace Trap

variable {t : Trap} {n : Notice} {ns : List Notice}

/-- How many of some notices are of the kind that a trap waits for. -/
def count (t : Trap) (ns : List Notice) : ℕ := ns.countP fun n => n.hook = t.hook

/-- A trap that has heard some more notices. -/
def after (t : Trap) (ns : List Notice) : Trap := { t with heard := t.heard + t.count ns }

/-- A trap whose turn is yet to come. -/
def Armed (t : Trap) : Prop := t.heard < t.turn

/-- The notice is the one that a trap waits for. -/
def Springs (t : Trap) (n : Notice) : Prop := n.hook = t.hook ∧ t.heard + 1 = t.turn

instance (t : Trap) : Decidable t.Armed := inferInstanceAs (Decidable (_ < _))

instance (t : Trap) (n : Notice) : Decidable (t.Springs n) := inferInstanceAs (Decidable (_ ∧ _))

theorem after_nil (t : Trap) : t.after [] = t := rfl

theorem after_append (t : Trap) (ns ns' : List Notice) :
    t.after (ns ++ ns') = (t.after ns).after ns' := by
  unfold after count
  rw [List.countP_append, Nat.add_assoc]

theorem count_singleton (t : Trap) (n : Notice) :
    t.count [n] = if n.hook = t.hook then 1 else 0 := by
  unfold count
  rw [List.countP_singleton]
  simp only [decide_eq_true_eq]

theorem hear_eq (t : Trap) (n : Notice) :
    t.hear n = (if t.Springs n then .error t.raises else .ok (), t.after [n]) := by
  unfold hear after Springs
  rw [count_singleton]
  by_cases hhook : n.hook = t.hook
  · by_cases hturn : t.heard + 1 = t.turn
    · simp [hhook, hturn]
    · simp [hhook, hturn]
  · simp [hhook]

/-- A trap that lets a notice of its kind pass is still armed. -/
theorem Armed.after (h : t.Armed) (hn : ¬ t.Springs n) : (t.after [n]).Armed := by
  show t.heard + t.count [n] < t.turn
  rw [count_singleton]
  split
  · next hhook => exact Nat.lt_of_le_of_ne h fun hturn => hn ⟨hhook, hturn⟩
  · exact h

/-- A trap springs once. -/
theorem not_springs_of_springs (h : t.Springs n) (ns : List Notice) (n' : Notice) :
    ¬ (t.after (n :: ns)).Springs n' := by
  rintro ⟨-, hturn⟩
  have hcount : 1 ≤ t.count (n :: ns) := List.countP_pos_iff.2
    ⟨n, List.mem_cons_self, decide_eq_true h.1⟩
  have hfirst := h.2
  change t.heard + t.count (n :: ns) + 1 = t.turn at hturn
  omega

end Trap

/-- How a trap answers a notice that is brought to it in the way that is due. -/
def Trap.answer (t : Trap) (n : Notice) : Outcome :=
  if t.Springs n then .error t.raises else n.answer

theorem Trap.answer_of_springs {t : Trap} {n : Notice} (h : t.Springs n) :
    t.answer n = .error t.raises := if_pos h

theorem Trap.answer_of_not_springs {t : Trap} {n : Notice} (h : ¬ t.Springs n) :
    t.answer n = n.answer := if_neg h

theorem Sink.send_trap (t : Trap) (n : Notice) :
    send n (Sink.trap t) = (t.answer n, Sink.trap (t.after [n])) := by
  have hnotify : Sink.notify n (Sink.trap t)
      = (if t.Springs n then .error t.raises else .ok (), Sink.trap (t.after [n])) := by
    rw [Sink.notify, Trap.hear_eq]
  cases n with
  | event | success => exact hnotify
  | mismatch tok message =>
    show Sink.report tok message (Sink.trap t) = _
    unfold Sink.report Trap.answer
    rw [hnotify]
    by_cases h : t.Springs (.mismatch tok message)
    · rw [if_pos h, if_pos h]
    · rw [if_neg h, if_neg h]
      rfl

/-! ## Calls before and after the fault -/

/-- Calls of a sink that answers as is due. -/
def answered (ns : List Notice) : List (Notice × Outcome) := ns.map fun n => (n, n.answer)

theorem answered_append (ns ns' : List Notice) :
    answered (ns ++ ns') = answered ns ++ answered ns' := List.map_append

/-- The labels of the rules whose body a call of the sink belongs to, if those
in `stack` are open. To enter a rule belongs to the body of the rule around it,
and so does to leave it. -/
def Notice.enclosing (stack : List String) : Notice → List String
  | .event (.exit _) => stack.tail
  | _ => stack

/-- How messages call the end of the input, where it is expected. -/
def endExpectation : String := "'" ++ Symbol.eof.displayName ++ "'"

/-- Whether a notice is about the end of a program: that the end of the input was
accepted, or was expected in vain, or that all is well. -/
def Notice.AtEnd (sourceName : String) : Notice → Prop
  | .event (.terminal t) => t.isEof = true
  | .event _ => False
  | .mismatch t message => message = errorMessage sourceName t.line endExpectation t.found
  | .success => True

/-! ## Phrases that do not expect the end -/

/-- Whether the end of the input is accepted in a phrase, or said to be expected.
Other rules are looked into separately. -/
def Phrase.expectsEnd : Phrase → Bool
  | empty => false
  | unmet expected => expected == endExpectation
  | terminal s => s == .eof
  | rule _ => false
  | seq p q => p.expectsEnd || q.expectsEnd
  | alt p q => p.expectsEnd || q.expectsEnd
  | star p => p.expectsEnd

theorem Rule.expectsEnd_production (r : Rule) : r.production.expectsEnd = false := by
  cases r <;> decide

theorem Symbol.eq_eof_of_displayName {s : Symbol}
    (h : "'" ++ s.displayName ++ "'" = endExpectation) : s = .eof := by
  revert h
  cases s <;> decide

/-- Messages about the same token differ in what they expected. -/
theorem errorMessage_injective {sourceName expected expected' found : String} {line : Int}
    (h : errorMessage sourceName line expected found
      = errorMessage sourceName line expected' found) : expected = expected' := by
  unfold errorMessage at h
  simpa using h

/-! ## How a trap springs -/

namespace Analyser

variable {σ : Type} [Supply σ]

/-- The analyser after the first `m` of the tokens that it faces, with a trap for
its sink and some more calls written down. -/
def caught (j : Analyser σ (Logbook Sink)) (f : Stream' Token) (m : ℕ) (t : Trap)
    (calls : List (Notice × Outcome)) : Analyser σ (Logbook Sink) :=
  ⟨Supply.after m j.supply, ⟨.trap t, j.sink.calls ++ calls⟩, f.get m, j.sourceName⟩

/-- The analyser faces a stream and reports to a trap. -/
structure Baited (j : Analyser σ (Logbook Sink)) (f : Stream' Token) (t : Trap) : Prop where
  faces : j.Faces f
  sink : j.sink.sink = .trap t

variable {j : Analyser σ (Logbook Sink)} {f : Stream' Token} {t : Trap}

theorem Baited.caught (h : j.Baited f t) (m : ℕ) (t' : Trap)
    (calls : List (Notice × Outcome)) : (j.caught f m t' calls).Baited (f.drop m) t' := by
  refine ⟨⟨(Stream'.head_drop f m).symm, ?_⟩, rfl⟩
  rw [Stream'.tail_drop]
  exact h.faces.supply.drop m

theorem caught_caught (m n : ℕ) (t t' : Trap) (cs cs' : List (Notice × Outcome)) :
    (j.caught f m t cs).caught (f.drop m) n t' cs' = j.caught f (m + n) t' (cs ++ cs') := by
  unfold Analyser.caught
  dsimp only
  rw [Supply.after_add, Stream'.get_drop, List.append_assoc]

/-- At first a call of the sink, and then some more. -/
theorem caught_zero_caught (n : ℕ) (t t' : Trap) (cs cs' : List (Notice × Outcome)) :
    (j.caught f 0 t cs).caught f n t' cs' = j.caught f n t' (cs ++ cs') := by
  have hcaught := caught_caught (j := j) (f := f) 0 n t t' cs cs'
  rwa [Nat.zero_add] at hcaught

/-- To call the sink is all that happens. -/
theorem Baited.recorded_eq (h : j.Baited f t) (t' : Trap) (n : Notice) (answer : Outcome) :
    j.recorded n answer (.trap t') = j.caught f 0 t' [(n, answer)] := by
  unfold recorded Analyser.caught
  rw [Supply.after, ← Stream'.head, ← h.faces.lookahead]
  rfl

/-- A notice is heard by the trap. -/
theorem Baited.notify_eq (h : j.Baited f t) {n : Notice}
    (hn : ∀ tok message, n ≠ .mismatch tok message) :
    notify n j = (t.answer n, j.caught f 0 (t.after [n]) [(n, t.answer n)]) := by
  have hsend : Listener.notify n j.sink.sink = (t.answer n, Sink.trap (t.after [n])) := by
    rw [h.sink, ← Sink.send_trap]
    cases n with
    | event | success => rfl
    | mismatch tok message => exact absurd rfl (hn tok message)
  rw [notify_logged hsend, h.recorded_eq]

/-- So is a mismatch. -/
theorem Baited.mismatch_eq (h : j.Baited f t) {expected : String} {n : Notice}
    (hn : n = .mismatch j.lookahead (j.message expected j.lookahead)) :
    mismatch expected j
      = (.error (Raised.ofReport "TrapSink" (t.answer n)),
        j.caught f 0 (t.after [n]) [(n, t.answer n)]) := by
  have hsend : Listener.report j.lookahead (j.message expected j.lookahead) j.sink.sink
      = (t.answer n, Sink.trap (t.after [n])) := by
    rw [h.sink, ← Sink.send_trap, hn]
    rfl
  rw [mismatch_of_report (report_logged hsend), ← h.recorded_eq, hn]
  rfl

/-- Nothing has happened yet. -/
theorem Baited.caught_zero (h : j.Baited f t) : j.caught f 0 t [] = j := by
  unfold Analyser.caught
  rw [Supply.after, ← Stream'.head, ← h.faces.lookahead, ← h.sink, List.append_nil]

/-- Leave a rule whose body has ended like this. -/
def leave {τ : Type} [Listener τ] (r : Rule) (o : Outcome) : Action σ τ := fun a =>
  match notify (.event (.exit r.label)) a with
  | (.error e, b) => (.error e, b)
  | (.ok (), b) => (b.settle r.expectation o, b)

omit [Supply σ] in
/-- A rule is entered, its body runs, and the rule is left. -/
theorem bracket_eq {τ : Type} [Listener τ] (r : Rule) (x : Action σ τ) (a : Analyser σ τ) :
    bracket r x a = match notify (.event (.enter r.label)) a with
      | (.error e, b) => (.error e, b)
      | (.ok (), b) => leave r (x b).1 (x b).2 := rfl

/-- **How an action fares with a trap** for its sink. Either the trap is still
armed, and the rules that were entered have been left; or it has sprung at a call
with the property `E`, and thereupon the rules around that call were left. -/
inductive Fares (E : Notice → List Rule → Prop) (f : Stream' Token) (t : Trap)
    (j : Analyser σ (Logbook Sink)) : Outcome × Analyser σ (Logbook Sink) → Prop
  | held {o : Outcome} (m : ℕ) (ns : List Notice) :
      (∀ stack, opened stack ns = stack) → ns.filterMap Notice.token? = f.take m →
        (t.after ns).Armed → Fares E f t j (o, j.caught f m (t.after ns) (answered ns))
  | sprung {n : Notice} (m : ℕ) (before : List Notice) (rules : List Rule) :
      E n rules → (t.after before).Springs n →
        (∀ stack, n.enclosing (opened stack before) = (rules.map Rule.label).reverse ++ stack) →
          before.filterMap Notice.token? = f.take m →
            (∀ tok, n = .event (.terminal tok) → tok = f.get m) →
              Fares E f t j
                (.error ((j.caught f m t []).wrapped rules t.raises),
                  j.caught f m (t.after (before ++ n :: exits rules))
                    (answered before ++ (n, .error t.raises) :: answered (exits rules)))

namespace Fares

variable {E : Notice → List Rule → Prop} {n : Notice} {x y : Action σ (Logbook Sink)}

theorem mono {E' : Notice → List Rule → Prop} {result : Outcome × Analyser σ (Logbook Sink)}
    (h : Fares E f t j result) (hE : ∀ n rules, E n rules → E' n rules) :
    Fares E' f t j result := by
  cases h with
  | held m ns hopen htokens harmed => exact .held m ns hopen htokens harmed
  | sprung m before rules hn hspring hopen htokens htok =>
    exact .sprung m before rules (hE _ _ hn) hspring hopen htokens htok

/-- The trap springs at the first call. -/
theorem at_once (hE : E n []) (hspring : t.Springs n) (hopen : ∀ stack, n.enclosing stack = stack)
    (htok : ∀ tok, n = .event (.terminal tok) → tok = f.head) :
    Fares E f t j (.error t.raises, j.caught f 0 (t.after [n]) [(n, .error t.raises)]) :=
  .sprung 0 [] [] hE hspring hopen rfl htok

/-- The action makes no call. -/
theorem silent (hj : j.Baited f t) (ht : t.Armed) (o : Outcome) : Fares E f t j (o, j) := by
  have hheld := held (E := E) (f := f) (t := t) (j := j) (o := o) 0 [] (fun _ => rfl) rfl ht
  rwa [Trap.after_nil, show answered [] = [] from rfl, hj.caught_zero] at hheld

theorem mismatch (hj : j.Baited f t) (ht : t.Armed) (expected : String)
    (hE : E (.mismatch j.lookahead (j.message expected j.lookahead)) []) :
    Fares E f t j (Analyser.mismatch expected j) := by
  rw [hj.mismatch_eq rfl]
  by_cases hspring : t.Springs (.mismatch j.lookahead (j.message expected j.lookahead))
  · rw [Trap.answer_of_springs hspring]
    exact at_once hE hspring (fun _ => rfl) nofun
  · rw [Trap.answer_of_not_springs hspring]
    exact held 0 _ (fun _ => rfl) rfl (ht.after hspring)

theorem accept (hj : j.Baited f t) (ht : t.Armed) (s : Symbol)
    (hE : j.lookahead.symbol = s → E (.event (.terminal j.lookahead)) [])
    (hE' : E (.mismatch j.lookahead (j.message ("'" ++ s.displayName ++ "'") j.lookahead)) []) :
    Fares E f t j (Analyser.accept s j) := by
  by_cases hs : j.lookahead.symbol = s
  · rw [Analyser.accept_of_eq hs]
    unfold Action.andThen
    rw [hj.notify_eq (n := .event (.terminal j.lookahead)) nofun]
    by_cases hspring : t.Springs (.event (.terminal j.lookahead))
    · rw [Trap.answer_of_springs hspring]
      refine at_once (hE hs) hspring (fun _ => rfl) fun tok htok => ?_
      cases htok
      exact hj.faces.lookahead
    · rw [Trap.answer_of_not_springs hspring]
      show Fares E f t j (Analyser.advance (j.caught f 0 _ _))
      rw [Analyser.advance_of_pull (a := j.caught f 0 _ _) hj.faces.supply.pull_eq]
      refine held 1 [.event (.terminal j.lookahead)] (fun _ => rfl) ?_ (ht.after hspring)
      rw [hj.faces.lookahead]
      rfl
  · rw [Analyser.accept_of_ne hs]
    exact mismatch hj ht _ hE'

/-- **A sequence.** The second action meets the trap as the first has left it. -/
theorem andThen (hx : Fares E f t j (x j))
    (hy : ∀ m ns, (t.after ns).Armed →
      Fares E (f.drop m) (t.after ns) (j.caught f m (t.after ns) (answered ns))
        (y (j.caught f m (t.after ns) (answered ns)))) :
    Fares E f t j (Action.andThen x y j) := by
  unfold Action.andThen
  generalize x j = result at hx
  cases hx with
  | sprung m before rules hn hspring hopen htokens htok =>
    exact .sprung m before rules hn hspring hopen htokens htok
  | @held o m ns hopen htokens harmed =>
    cases o with
    | error e => exact .held m ns hopen htokens harmed
    | ok =>
      have hy := hy m ns harmed
      dsimp only
      generalize y (j.caught f m (t.after ns) (answered ns)) = result at hy
      cases hy with
      | @held o' m' ns' hopen' htokens' harmed' =>
        rw [caught_caught, ← answered_append, ← Trap.after_append]
        rw [← Trap.after_append] at harmed'
        refine .held _ _ (fun stack => ?_) ?_ harmed'
        · rw [opened_append, hopen, hopen']
        · rw [List.filterMap_append, htokens, htokens', ← Stream'.take_add]
      | @sprung n m' before rules hn hspring hopen' htokens' htok =>
        rw [caught_caught, caught_caught, ← List.append_assoc, ← answered_append,
          ← Trap.after_append, ← List.append_assoc]
        rw [← Trap.after_append] at hspring
        refine .sprung (m + m') _ rules hn hspring (fun stack => ?_) ?_ fun tok htok' => ?_
        · rw [opened_append, hopen, hopen']
        · rw [List.filterMap_append, htokens, htokens', ← Stream'.take_add]
        · rw [htok tok htok', Stream'.get_drop]

theorem ifNext (symbols : List Symbol) (hx : Fares E f t j (x j)) (hy : Fares E f t j (y j)) :
    Fares E f t j (Action.ifNext symbols x y j) := by
  unfold Action.ifNext
  split
  · exact hx
  · exact hy

/-- When a rule is left, the trap may spring. -/
theorem leave_held {r : Rule} {m : ℕ} (ns : List Notice) (hj : j.Baited f t)
    (hexit : E (.event (.exit r.label)) []) (hopen : ∀ stack, opened stack ns = r.label :: stack)
    (htokens : ns.filterMap Notice.token? = f.take m) (harmed : (t.after ns).Armed) (o : Outcome) :
    Fares E f t j (leave r o (j.caught f m (t.after ns) (answered ns))) := by
  unfold leave
  rw [(hj.caught m _ _).notify_eq (n := .event (.exit r.label)) nofun, caught_caught,
    ← Trap.after_append]
  by_cases hspring : (t.after ns).Springs (.event (.exit r.label))
  · rw [Trap.answer_of_springs hspring]
    refine .sprung m ns [] hexit hspring (fun stack => ?_) htokens nofun
    exact congrArg List.tail (hopen stack)
  · rw [Trap.answer_of_not_springs hspring]
    have hclosed : ∀ stack, opened stack (ns ++ [Notice.event (.exit r.label)]) = stack :=
      fun stack => by
        rw [opened_append, hopen]
        rfl
    have htokens' : (ns ++ [Notice.event (.exit r.label)]).filterMap Notice.token? = f.take m := by
      rw [List.filterMap_append, htokens]
      exact List.append_nil _
    have harmed' := harmed.after hspring
    rw [← Trap.after_append] at harmed'
    have hheld := held (E := E) (j := j) (o := (j.caught f m t []).settle r.expectation o)
      m _ hclosed htokens' harmed'
    rwa [answered_append] at hheld

/-- When a rule is left after the trap has sprung, the rule answers for the fault. -/
theorem leave_sprung {r : Rule} {m : ℕ} (before : List Notice) {rules : List Rule}
    (hj : j.Baited f t) (hn : E n (r :: rules)) (hspring : (t.after before).Springs n)
    (hopen : ∀ stack, n.enclosing (opened stack before)
      = (rules.map Rule.label).reverse ++ r.label :: stack)
    (htokens : before.filterMap Notice.token? = f.take m)
    (htok : ∀ tok, n = .event (.terminal tok) → tok = f.get m) :
    Fares E f t j (leave r (.error ((j.caught f m t []).wrapped rules t.raises))
      (j.caught f m (t.after (before ++ n :: exits rules))
        (answered before ++ (n, .error t.raises) :: answered (exits rules)))) := by
  have hlate : ¬ (t.after (before ++ n :: exits rules)).Springs (.event (.exit r.label)) := by
    rw [Trap.after_append]
    exact Trap.not_springs_of_springs hspring _ _
  unfold leave
  rw [(hj.caught m _ _).notify_eq (n := .event (.exit r.label)) nofun,
    Trap.answer_of_not_springs hlate, caught_caught, ← Trap.after_append]
  have hopen' : ∀ stack, n.enclosing (opened stack before)
      = ((r :: rules).map Rule.label).reverse ++ stack := fun stack => by
    rw [hopen, List.map_cons, List.reverse_cons, List.append_assoc]
    rfl
  have hsprung := sprung (E := E) (j := j) m before (r :: rules) hn hspring hopen' htokens htok
  rw [exits_cons, answered_append] at hsprung
  simp only [List.append_assoc, List.cons_append] at hsprung ⊢
  exact hsprung

/-- **A rule.** If the trap springs when the rule is entered or left, that is
outside its body. If it springs in between, the rule is left and answers for the
fault. -/
theorem bracket {r : Rule} (hj : j.Baited f t) (ht : t.Armed)
    (hE : ∀ n rules, E n rules → E n (r :: rules)) (hentry : E (.event (.enter r.label)) [])
    (hexit : E (.event (.exit r.label)) [])
    (hx : ∀ t' k, k.Baited f t' → t'.Armed → k.sourceName = j.sourceName →
      Fares E f t' k (x k)) :
    Fares E f t j (Analyser.bracket r x j) := by
  rw [bracket_eq, hj.notify_eq (n := .event (.enter r.label)) nofun]
  by_cases hspring : t.Springs (.event (.enter r.label))
  · rw [Trap.answer_of_springs hspring]
    exact at_once hentry hspring (fun _ => rfl) nofun
  · rw [Trap.answer_of_not_springs hspring]
    dsimp only [Notice.answer]
    have hbody := hx _ _ (hj.caught 0 (t.after [.event (.enter r.label)])
      [(.event (.enter r.label), .ok ())]) (ht.after hspring) rfl
    generalize x (j.caught f 0 _ _) = result at hbody ⊢
    cases hbody with
    | @held o m ns hopen htokens harmed =>
      rw [← Trap.after_append] at harmed ⊢
      rw [caught_zero_caught]
      exact leave_held (.event (.enter r.label) :: ns) hj hexit (fun stack => hopen _)
        htokens harmed o
    | @sprung n m before rules hn hspring' hopen htokens htok =>
      rw [← Trap.after_append] at hspring' ⊢
      rw [caught_zero_caught]
      dsimp only
      rw [caught_zero_caught]
      exact leave_sprung (.event (.enter r.label) :: before) hj (hE n rules hn) hspring'
        (fun stack => hopen _) htokens htok

/-- A phrase that does not expect the end fares like this. -/
theorem lockstep : Lockstep
    (fun p x _ => p.expectsEnd = false → ∀ f t j, Baited j f t → t.Armed →
      Fares (fun n _ => ¬ n.AtEnd j.sourceName) f t j (x j) :
        Phrase → Action σ (Logbook Sink) → Action σ (Logbook Sink) → Prop) where
  tooDeep _ _ _ _ _ hj ht := silent hj ht _
  empty _ _ _ _ hj ht := silent hj ht _
  unmet expected hend _ _ j hj ht := by
    refine mismatch hj ht expected fun hat => ?_
    rw [Phrase.expectsEnd, errorMessage_injective hat, beq_self_eq_true] at hend
    cases hend
  terminal s hend _ _ j hj ht := by
    have hs : s ≠ .eof := ne_of_beq_false hend
    refine accept hj ht s (fun hsymbol hat => hs ?_) fun hat => hs ?_
    · rw [← hsymbol]
      exact eq_of_beq hat
    · exact Symbol.eq_eof_of_displayName (errorMessage_injective hat)
  rule {r _ _} h _ f t j hj ht := by
    refine bracket hj ht (fun _ _ => id) id id fun t' k hk ht' hname => ?_
    rw [← hname]
    exact h r.expectsEnd_production f t' k hk ht'
  seq h h' hend _ _ _ hj ht := by
    rw [Phrase.expectsEnd, Bool.or_eq_false_iff] at hend
    exact andThen (h hend.1 _ _ _ hj ht) fun m ns => h' hend.2 _ _ _ (hj.caught m _ _)
  alt h h' hend _ _ _ hj ht := by
    rw [Phrase.expectsEnd, Bool.or_eq_false_iff] at hend
    exact ifNext _ (h hend.1 _ _ _ hj ht) (h' hend.2 _ _ _ hj ht)
  star h h' hend _ _ _ hj ht :=
    ifNext _ (andThen (h hend _ _ _ hj ht) fun m _ => h' hend _ _ _ (hj.caught m _ _))
      (silent hj ht _)

theorem checkRule (r : Rule) (hj : j.Baited f t) (ht : t.Armed) :
    Fares (fun n _ => ¬ n.AtEnd j.sourceName) f t j (Analyser.checkRule r j) :=
  lockstep.follow _ (.rule r) rfl f t j hj ht

theorem success (hj : j.Baited f t) (ht : t.Armed) (hE : E .success []) :
    Fares E f t j (Analyser.notify .success j) := by
  rw [hj.notify_eq (n := .success) nofun]
  by_cases hspring : t.Springs .success
  · rw [Trap.answer_of_springs hspring]
    exact at_once hE hspring (fun _ => rfl) nofun
  · rw [Trap.answer_of_not_springs hspring]
    exact held 0 [.success] (fun _ => rfl) rfl (ht.after hspring)

/-- **Every call fares like this**, and if the trap springs at the end of a
program, no rule is open. -/
theorem run (c : Call) (hj : j.Baited f t) (ht : t.Armed) :
    Fares (fun n rules => n.AtEnd j.sourceName → rules = []) f t j (c.run j) := by
  cases c with
  | program =>
    have hpart : Fares (fun n rules => n.AtEnd j.sourceName → rules = []) f t j
        (Analyser.checkRule .statementPart j) :=
      (checkRule .statementPart hj ht).mono fun n rules hn hat => absurd hat hn
    refine andThen hpart fun m ns harmed => ?_
    have hk := hj.caught m (t.after ns) (answered ns)
    refine andThen (accept hk harmed .eof (fun _ _ => rfl) fun _ => rfl) fun m' ns' harmed' => ?_
    exact success (hk.caught m' _ _) harmed' fun _ => rfl
  | rule r => exact (checkRule r hj ht).mono fun n rules hn hat => absurd hat hn
  | terminal s => exact accept hj ht s (fun _ _ => rfl) fun _ => rfl

end Fares

end Analyser

/-! ## Calls with a trap -/

namespace Call

variable {σ : Type} [Supply σ]

theorem map_fst_answered (ns : List Notice) : (answered ns).map Prod.fst = ns := by
  unfold answered
  rw [List.map_map]
  exact List.map_id ns

/-- **A call in which a trap has sprung** at the notice `n`, after the sink had
heard the notices `before` and the first `m` tokens of the stream were accepted.
Given outermost first, `rules` are the rules that this call of the sink lies
inside. -/
structure SprungAt (c : Call) (a : Analyser σ Sink) (f : Stream' Token) (t : Trap) (m : ℕ)
    (before : List Notice) (n : Notice) (rules : List Rule) : Prop where
  /-- The sink answers as is due, until its fault; and then these rules are left. -/
  calls_eq : c.calls a = answered before ++ (n, .error t.raises) :: answered (exits rules)
  springs : (t.after before).Springs n
  enclosing : n.enclosing (opened [] before) = (rules.map Rule.label).reverse
  /-- All in all, every rule that was entered is left. -/
  balanced : Balanced (brackets (c.calls a))
  /-- No rule is open at the end of a program. -/
  atEnd : n.AtEnd a.sourceName → rules = []
  accepted : before.filterMap Notice.token? = f.take m
  /-- Nothing else was taken from the supply. -/
  supply : (c.run a).2.supply = Supply.after m a.supply
  lookahead : (c.run a).2.lookahead = f.get m
  /-- The token that the sink refused is still to be accepted. -/
  refused : ∀ tok, n = .event (.terminal tok) → (c.run a).2.lookahead = tok
  /-- A syntactic fault is wrapped by each of the rules. -/
  syntactic : t.raises.isSyntactic = true → ∃ e, (c.run a).1 = .error e ∧ e.chain
    = rules.map ((t.raises.innermost.blame (c.run a).2.lookahead).link a.sourceName)
      ++ t.raises.chain
  /-- Any other fault passes the rules as it is. -/
  other : t.raises.isSyntactic = false → (c.run a).1 = .error t.raises

/-- **A sink that fails once.** Let an analyser face a stream of tokens and report
to a trap, and let the sink be called so often that the trap springs. Up to then
the sink has answered as is due. Behind that call it only hears that the rules
around the call are left, and the chain of the error holds one link for each of
these rules and then the fault, if that is syntactic; if not, the fault escapes
as it is. -/
theorem run_trapped (c : Call) (a : Analyser σ Sink) (f : Stream' Token) (t : Trap)
    (ha : a.Faces f) (hsink : a.sink = .trap t) (harmed : t.Armed)
    (hcalls : t.turn ≤ t.heard + t.count ((c.calls a).map Prod.fst)) :
    ∃ m before n rules, c.SprungAt a f t m before n rules := by
  have hfares :=
    Analyser.Fares.run c (j := a.logged) (f := f) ⟨⟨ha.lookahead, ha.supply⟩, hsink⟩ harmed
  generalize hresult : c.run a.logged = result at hfares
  have hrun : c.run a = (result.1, result.2.unlogged) := by
    rw [c.run_eq_unlogged a, hresult]
  have hlog : c.calls a = result.2.sink.calls := by
    rw [Call.calls, hresult]
  cases hfares with
  | @held o m ns _ _ hheld =>
    -- then the sink was not called so often
    rw [hlog, show (Analyser.caught a.logged f m (t.after ns) (answered ns)).sink.calls
      = answered ns from List.nil_append _, map_fst_answered] at hcalls
    exact absurd hcalls (Nat.not_le_of_lt hheld)
  | @sprung n m before rules hn hspring hopen htokens htok =>
    refine ⟨m, before, n, rules, hlog, hspring, ?_, c.balanced a, hn, htokens, ?_, ?_, ?_, ?_, ?_⟩
    · rw [hopen, List.append_nil]
    all_goals rw [hrun]
    · rfl
    · rfl
    · exact fun tok h => (htok tok h).symm
    · exact fun hsyn => ⟨_, rfl, (Analyser.wrapped_of_isSyntactic _ rules hsyn).2.2⟩
    · exact fun hsyn => congrArg _ (Analyser.wrapped_of_not_isSyntactic _ rules hsyn)

/-- Of `x := end`, the sink raises a fault while the term is being left because of
the mismatch. -/
theorem run_trapped_assignment :
    let s := TokenList.ofList
      [⟨.identifier, "x", 1, 1⟩, ⟨.becomes, ":=", 1, 3⟩, ⟨.kwEnd, "end", 1, 6⟩]
    let t := Trap.set .exit 2 (.fresh (.malformed "out of space"))
    let a : Analyser TokenList Sink := ⟨Supply.after 1 s, .trap t, s.stream.head, "p"⟩
    let c := Call.rule .assignmentStatement
    a.Faces s.stream ∧ a.sink = .trap t ∧ t.Armed
      ∧ t.turn ≤ t.heard + t.count ((c.calls a).map Prod.fst)
      ∧ ∃ m before n rules, c.SprungAt a s.stream t m before n rules := by
  intro s t a c
  have ha : a.Faces s.stream := Analyser.faces_start s.delivers_stream _ _
  have harmed : t.Armed := by decide
  have hcalls : t.turn ≤ t.heard + t.count ((c.calls a).map Prod.fst) := by decide
  exact ⟨ha, rfl, harmed, hcalls, run_trapped c a s.stream t ha rfl harmed hcalls⟩

end Call

end SyntaxChecker
