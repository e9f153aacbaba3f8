import SyntaxChecker.Proofs.Analyser.ErrorChain

/-!
# Where an error begins

What is at the far end of an error, and which tokens were accepted before it came
about, are one question. If the grammar is to blame, the far end names a token,
which is the first that the supply has delivered and the check has not accepted.
If the supply is to blame, the check has accepted all that was delivered, and the
far end is the fault of the supply (`Call.origin_of_error`). In both cases the
accepted tokens are an initial part of what the supply delivers, in its order.
-/

namespace SyntaxChecker

open Listener SyntaxChecker.Tree

/-- The tokens of the notices that some rules are left. -/
theorem filterMap_exits (rules : List Rule) : (exits rules).filterMap Notice.token? = [] := by
  unfold exits
  rw [List.filterMap_map, List.filterMap_eq_nil_iff]
  exact fun _ _ => rfl

variable {σ : Type} [Supply σ]

/-- **Where the error of a check begins**, after some tokens were accepted. -/
inductive Origin (j : Analyser σ Journal) (accepted : List Token) (e : Raised) : Prop
  /-- The next token does not fit. -/
  | mismatch {ts : List Token} {t : Token} {s : σ} (message : String) :
      Supply.Yields j.supply ts s → j.lookahead :: ts = accepted ++ [t] →
        e.isSyntactic = true → e.innermost = .grammar ⟨message, some t, none⟩ →
          Origin j accepted e
  /-- There is no next token, since the supply raises a fault. -/
  | supply {ts : List Token} {r : Raised} {s s' : σ} :
      Supply.Yields j.supply ts s → j.lookahead :: ts = accepted →
        Supply.pull s = (.error r, s') →
          (r.isSyntactic = true → e.isSyntactic = true ∧ e.innermost = r.innermost) →
            (r.isSyntactic = false → e = r) → Origin j accepted e

namespace Analyser

variable {j k : Analyser σ Journal}

/-- What the sink hears of a failure, all in all. -/
theorem Halts.sink_wrote_exits {D : Prop} {ns stop : List Notice} {l : Analyser σ Journal}
    {origin : Raised} (hcourse : Course j ns k) (h : Halts D k stop origin l)
    (rules : List Rule) :
    (l.wrote (exits rules)).sink = j.sink.write (ns ++ stop ++ exits rules) := by
  show l.sink.write (exits rules) = _
  rw [h.sink_eq, hcourse.sink_eq, Journal.write_write, Journal.write_write, List.append_assoc]

theorem Fails.origin [LawfulSupply σ] {e : Raised} (h : Fails (¬ LawfulSupply σ) j e k) :
    ∃ ns, k.sink = j.sink.write ns ∧ Origin j (ns.filterMap Notice.token?) e := by
  cases h with
  | @intro ns stop k l origin rules hcourse hopen hhalts =>
    obtain ⟨ts, hyields, htokens⟩ := hcourse.yields
    -- what leaves the rules has the same far end as what they were left by
    have hsyntactic : origin.isSyntactic = true → (l.wrapped rules origin).isSyntactic = true
        ∧ (l.wrapped rules origin).innermost = origin.innermost := fun h =>
      (l.wrapped_of_isSyntactic rules h).imp_right And.left
    have hother : origin.isSyntactic = false → l.wrapped rules origin = origin :=
      l.wrapped_of_not_isSyntactic rules
    refine ⟨_, hhalts.sink_wrote_exits hcourse rules, ?_⟩
    rw [List.filterMap_append, filterMap_exits, List.append_nil, List.filterMap_append]
    cases hhalts with
    | mismatch expected =>
      obtain ⟨hsyn, hinner⟩ := hsyntactic rfl
      refine .mismatch _ hyields ?_ hsyn hinner
      rw [← htokens]
      exact congrArg (· ++ [k.lookahead]) (List.append_nil _).symm
    | supply hpull =>
      exact .supply hyields htokens.symm hpull hsyntactic hother
    | tooDeep hlaw => exact absurd ‹LawfulSupply σ› hlaw

end Analyser

/-- A check that ends well has accepted all that was delivered but the last token. -/
theorem Call.yields_of_ok (c : Call) {j : Analyser σ Journal} (h : (c.run j).1 = .ok ()) :
    ∃ ns ts, (c.run j).2.sink = j.sink.write ns
      ∧ Supply.Yields j.supply ts (c.run j).2.supply
      ∧ ns.filterMap Notice.token? ++ [(c.run j).2.lookahead] = j.lookahead :: ts := by
  have hruns := c.runs_check j
  rw [c.run_eq_check] at h ⊢
  generalize c.check j = result at hruns h ⊢
  cases hruns with
  | error => cases h
  | @ok trees k _ hcourse =>
    obtain ⟨ts, hyields, htokens⟩ := hcourse.yields
    refine ⟨(eventsAll trees).map .event ++ c.closing (.ok ()), ts, ?_, hyields, ?_⟩
    · show k.sink.write _ = _
      rw [hcourse.sink_eq, Journal.write_write]
    · have hclosing : (c.closing (.ok ())).filterMap Notice.token? = [] := by
        cases c <;> rfl
      rw [List.filterMap_append, hclosing, List.append_nil]
      exact htokens

/-- **Every error begins with the supply or with a token that it delivered.** -/
theorem Call.origin_of_error [LawfulSupply σ] (c : Call) {j : Analyser σ Journal} {e : Raised}
    (h : (c.run j).1 = .error e) :
    ∃ ns, (c.run j).2.sink = j.sink.write ns ∧ Origin j (ns.filterMap Notice.token?) e := by
  have hruns := c.runs_check j
  rw [c.run_eq_check] at h ⊢
  generalize c.check j = result at hruns h ⊢
  cases hruns with
  | ok => cases h
  | @error e' k hfails =>
    obtain rfl : e' = e := Except.error.inj h
    rw [closing_error, Analyser.wrote_nil]
    exact hfails.origin

end SyntaxChecker
