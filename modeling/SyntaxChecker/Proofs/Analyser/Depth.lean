import SyntaxChecker.Proofs.Analyser.Course

/-!
# The depth does not matter

The interpreter is given a depth that it cannot reach. How much deeper it might go
has no influence then (`Analyser.follow_eq_of_le`). So two checks can be compared
although their supplies promise to end after different numbers of tokens, and they
are therefore given different depths.
-/

namespace SyntaxChecker.Analyser

variable {σ : Type} [Supply σ]

/-- One level of the interpreter. If two ways to interpret what is referred to are
the same where there is enough depth, they make no difference here. -/
theorem followWith_congr {call call' : Phrase → Action σ Journal} {n : Nat}
    (hcall : ∀ (p : Phrase) (j : Analyser σ Journal) (b : Nat), p.Predictive →
      p.mentionsEnd = false → j.Within b → 8 * b + p.height < n →
        call p j = call' p j ∧ Runs False p j (call p j))
    (p : Phrase) (j : Analyser σ Journal) {b : Nat} (hp : p.Predictive)
    (hend : p.mentionsEnd = false) (hb : j.Within b) (hn : 8 * b + p.height < n + 1) :
    followWith call p j = followWith call' p j := by
  have hruns (q : Phrase) (k : Analyser σ Journal) {c : Nat} :=
    runs_followWith (b := c) (fun q k c hq hq' hc hk => (hcall q k c hq hq' hc hk).2) q k
  induction p generalizing j b with
  | empty | unmet | terminal => rfl
  | rule r =>
    have hlt := r.height_production_lt
    rw [Phrase.height] at hn
    have hbody := (hcall _ (j.wrote [.event (.enter r.label)]) b r.predictive_production
      r.mentionsEnd_production hb (by omega)).1
    show bracket r _ j = bracket r _ j
    unfold bracket
    rw [notify_wrote]
    dsimp only
    rw [hbody]
  | seq p q ihp ihq =>
    rw [Phrase.mentionsEnd, Bool.or_eq_false_iff] at hend
    have hfirst : 8 * b + p.height < n + 1 := by
      rw [Phrase.height] at hn
      split at hn <;> omega
    have hrunsp := hruns p j hp.1 hend.1 hb hfirst
    show Action.andThen _ _ j = Action.andThen _ _ j
    unfold Action.andThen
    rw [← ihp j hp.1 hend.1 hb hfirst]
    generalize followWith call p j = result at hrunsp
    cases hrunsp with
    | error => rfl
    | ok htrees hk =>
      obtain ⟨c, hc, hdepth⟩ := hk.depth_seq htrees hend.1 hb hn
      exact ihq _ hp.2.1 hend.2 hc hdepth
  | alt p q ihp ihq =>
    rw [Phrase.mentionsEnd, Bool.or_eq_false_iff] at hend
    rw [Phrase.height] at hn
    show Action.ifNext _ _ _ j = Action.ifNext _ _ _ j
    unfold Action.ifNext
    rw [ihp j hp.1 hend.1 hb (by omega), ihq j hp.2.1 hend.2 hb (by omega)]
  | star p ih =>
    have hrunsp := hruns p j hp.1 hend hb hn
    show Action.ifNext _ _ _ j = Action.ifNext _ _ _ j
    unfold Action.ifNext Action.andThen
    rw [← ih j hp.1 hend hb hn]
    generalize followWith call p j = result at hrunsp
    cases hrunsp with
    | error => rfl
    | ok htrees hk =>
      obtain ⟨c, hc, hdepth⟩ := hk.depth_star htrees hend hp.2.2 hb hn
      have hrest := (hcall _ _ c hp hend hc hdepth).1
      dsimp only
      rw [hrest]

/-- **More depth than enough makes no difference.** -/
theorem follow_eq_of_le {n m : Nat} (hnm : n ≤ m) (p : Phrase) (j : Analyser σ Journal)
    {b : Nat} (hp : p.Predictive) (hend : p.mentionsEnd = false) (hb : j.Within b)
    (hn : 8 * b + p.height < n) : follow n p j = follow m p j := by
  induction n generalizing m p j b with
  | zero => exact absurd hn (Nat.not_lt_zero _)
  | succ n ih =>
    obtain ⟨m, rfl⟩ := Nat.exists_eq_add_of_lt hnm
    refine followWith_congr (fun q k c hq hq' hc hk => ⟨?_, runs_follow n q k hq hq' hc hk⟩)
      p j hp hend hb hn
    exact ih (Nat.le_add_right n m) q k hq hq' hc hk

/-- The depth that a rule is checked to is as good as any greater one, if the supply keeps its
promise this time. -/
theorem checkRule_eq_follow_of_within (r : Rule) {j : Analyser σ Journal} {n : Nat}
    (hj : j.Within (Supply.pending j.supply + 1)) (hn : j.depthBound ≤ n) :
    checkRule r j = follow n (.rule r) j := by
  have hheight := (Phrase.rule r).height_le
  refine follow_eq_of_le hn _ j trivial rfl hj ?_
  unfold depthBound
  omega

/-- The depth that a rule is checked to is as good as any greater one. -/
theorem checkRule_eq_follow [LawfulSupply σ] (r : Rule) (j : Analyser σ Journal) {n : Nat}
    (hn : j.depthBound ≤ n) : checkRule r j = follow n (.rule r) j :=
  checkRule_eq_follow_of_within r j.within_pending hn

end SyntaxChecker.Analyser
