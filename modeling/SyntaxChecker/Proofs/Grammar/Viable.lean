import Mathlib.Data.Stream.Init
import SyntaxChecker.Proofs.Grammar.Tree

/-!
# Viable prefixes

A sequence of symbols is *viable* for a phrase if some sentence of the phrase
begins with it. Of an endless stream of symbols, a phrase can use the longest
viable prefix and no more. Either that prefix is a sentence, and then the
phrase `Phrase.Accepts` it, or it is not, and then the phrase `Phrase.Rejects`
the stream at the symbol behind it.

A predictive phrase need not look for that prefix; its parts find it. In a
sequence, the first part stops where it would stop alone, and the second goes
on from there; of a choice, the side that the first symbol points to gives the
verdict. Those are the laws `Accepts.seq`, `Rejects.seq_left`,
`Rejects.seq_right` and their counterparts for a choice. A repetition needs no
laws of its own, as it is the choice between once more and no more
(`Phrase.derives_star_iff`).
-/

namespace SyntaxChecker

/-! ## Every rule has a sentence -/

theorem Rule.exists_derives (r : Rule) : ∃ w, (Phrase.rule r).Derives w := by
  have factor : (Phrase.rule .factor).Derives [.identifier] :=
    .rule (.altLeft (.terminal .identifier))
  have term : (Phrase.rule .term).Derives [.identifier] := .rule (.seq factor .starNil)
  have expression : (Phrase.rule .expression).Derives [.identifier] :=
    .rule (.seq term .starNil)
  have operator : (Phrase.rule .conditionalOperator).Derives [.greaterThan] :=
    .rule (.altLeft (.terminal .greaterThan))
  have condition : ∃ w, (Phrase.rule .condition).Derives w :=
    ⟨_, .rule (.seq (.terminal _) (.seq operator (.altLeft (.terminal _))))⟩
  have arguments : ∃ w, (Phrase.rule .argumentList).Derives w :=
    ⟨_, .rule (.seq (.terminal _) .starNil)⟩
  have assignment : ∃ w, (Phrase.rule .assignmentStatement).Derives w :=
    ⟨_, .rule (.seq (.terminal _) (.seq (.terminal _) (.altRight expression)))⟩
  obtain ⟨c, hc⟩ := condition
  obtain ⟨g, hg⟩ := arguments
  obtain ⟨a, ha⟩ := assignment
  have statement : (Phrase.rule .statement).Derives a := .rule (.altLeft ha)
  have list : ∃ w, (Phrase.rule .statementList).Derives w := ⟨_, .rule (.seq statement .starNil)⟩
  obtain ⟨l, hl⟩ := list
  cases r with
  | factor => exact ⟨_, factor⟩
  | term => exact ⟨_, term⟩
  | expression => exact ⟨_, expression⟩
  | conditionalOperator => exact ⟨_, operator⟩
  | condition => exact ⟨_, hc⟩
  | argumentList => exact ⟨_, hg⟩
  | assignmentStatement => exact ⟨_, ha⟩
  | statement => exact ⟨_, statement⟩
  | statementList => exact ⟨_, hl⟩
  | statementPart => exact ⟨_, .rule (.seq (.terminal _) (.seq hl (.terminal _)))⟩
  | ifStatement =>
    exact ⟨_, .rule (.seq (.terminal _) (.seq hc (.seq (.terminal _) (.seq hl
      (.seq (.altRight .empty) (.seq (.terminal _) (.terminal _)))))))⟩
  | whileStatement =>
    exact ⟨_, .rule (.seq (.terminal _) (.seq hc (.seq (.terminal _) (.seq hl
      (.seq (.terminal _) (.terminal _))))))⟩
  | procedureStatement =>
    exact ⟨_, .rule (.seq (.terminal _) (.seq (.terminal _) (.seq (.terminal _)
      (.seq hg (.terminal _)))))⟩
  | untilStatement =>
    exact ⟨_, .rule (.seq (.terminal _) (.seq hl (.seq (.terminal _) hc)))⟩
  | forStatement =>
    exact ⟨_, .rule (.seq (.terminal _) (.seq (.terminal _) (.seq ha (.seq (.terminal _)
      (.seq hc (.seq (.terminal _) (.seq ha (.seq (.terminal _) (.seq (.terminal _)
        (.seq hl (.seq (.terminal _) (.terminal _))))))))))))⟩

namespace Phrase

variable {p q : Phrase} {v w : List Symbol}

theorem exists_derives (h : p.hasSentence = true) : ∃ w, p.Derives w := by
  induction p with
  | empty => exact ⟨[], .empty⟩
  | unmet => cases h
  | terminal s => exact ⟨[s], .terminal s⟩
  | rule r => exact r.exists_derives
  | seq p q ihp ihq =>
    rw [hasSentence, Bool.and_eq_true] at h
    obtain ⟨v, hv⟩ := ihp h.1
    obtain ⟨w, hw⟩ := ihq h.2
    exact ⟨v ++ w, .seq hv hw⟩
  | alt p q ihp ihq =>
    rw [hasSentence, Bool.or_eq_true] at h
    rcases h with h | h
    · obtain ⟨v, hv⟩ := ihp h
      exact ⟨v, .altLeft hv⟩
    · obtain ⟨w, hw⟩ := ihq h
      exact ⟨w, .altRight hw⟩
  | star p _ => exact ⟨[], .starNil⟩

/-- A nullable phrase derives the empty sequence. -/
theorem derives_nil (h : p.nullable = true) : p.Derives [] := by
  induction p with
  | empty => exact .empty
  | unmet | terminal | rule => cases h
  | seq p q ihp ihq =>
    rw [nullable, Bool.and_eq_true] at h
    exact .seq (ihp h.1) (ihq h.2)
  | alt p q ihp ihq =>
    rw [nullable, Bool.or_eq_true] at h
    rcases h with h | h
    · exact .altLeft (ihp h)
    · exact .altRight (ihq h)
  | star p _ => exact .starNil

/-! ## Viability -/

/-- A sentence of the phrase begins like this. -/
def Viable (p : Phrase) (v : List Symbol) : Prop := ∃ w, p.Derives (v ++ w)

theorem Derives.viable (h : p.Derives v) : p.Viable v := ⟨[], by rwa [List.append_nil]⟩

theorem Viable.of_append (h : p.Viable (v ++ w)) : p.Viable v := by
  obtain ⟨u, hu⟩ := h
  exact ⟨w ++ u, by rwa [List.append_assoc] at hu⟩

theorem Viable.seq_left (h : p.Viable v) (hq : q.hasSentence = true) :
    (Phrase.seq p q).Viable v := by
  obtain ⟨u, hu⟩ := h
  obtain ⟨w, hw⟩ := exists_derives hq
  exact ⟨u ++ w, by rw [← List.append_assoc]; exact .seq hu hw⟩

theorem Viable.seq_right (hv : p.Derives v) (hw : q.Viable w) :
    (Phrase.seq p q).Viable (v ++ w) := by
  obtain ⟨u, hu⟩ := hw
  exact ⟨u, by rw [List.append_assoc]; exact .seq hv hu⟩

theorem Viable.alt_left (h : p.Viable v) : (Phrase.alt p q).Viable v := h.imp fun _ => .altLeft

theorem Viable.alt_right (h : q.Viable v) : (Phrase.alt p q).Viable v := h.imp fun _ => .altRight

/-- Of a stream, exactly the prefixes up to the longest viable one are
viable. -/
theorem viable_take_iff {f : Stream' Symbol} {m n : ℕ} (h : p.Viable (f.take m))
    (hm : ¬ p.Viable (f.take (m + 1))) : p.Viable (f.take n) ↔ n ≤ m := by
  constructor
  · intro hn
    by_contra hlt
    obtain ⟨k, rfl⟩ := Nat.exists_eq_add_of_lt (Nat.lt_of_not_le hlt)
    rw [Nat.add_right_comm, Stream'.take_add] at hn
    exact hm hn.of_append
  · intro hle
    obtain ⟨k, rfl⟩ := Nat.exists_eq_add_of_le hle
    rw [Stream'.take_add] at h
    exact h.of_append

/-- Viability of starters, for phrases that begin with rules of which it is
known. -/
theorem viable_singleton_of (hp : p.Predictive)
    (hr : ∀ r : Rule, r.height ≤ p.height → ∀ s ∈ r.starters, (rule r).Viable [s])
    {s : Symbol} (hs : s ∈ p.starters) : p.Viable [s] := by
  induction p with
  | empty | unmet => cases hs
  | terminal t =>
    obtain rfl := List.mem_singleton.1 hs
    exact (Derives.terminal s).viable
  | rule r => exact hr r (Nat.le_refl _) s hs
  | seq p q ihp ihq =>
    obtain ⟨hpp, hpq, -, hq⟩ := hp
    rw [starters] at hs
    rw [height] at hr
    -- a starter of the second part counts only if the first part may be empty
    by_cases hnull : p.nullable = true
    · rw [if_pos hnull] at hs hr
      rcases List.mem_append.1 hs with hs | hs
      · exact (ihp hpp (fun r h => hr r (Nat.le_trans h (Nat.le_max_left ..))) hs).seq_left hq
      · exact .seq_right (derives_nil hnull)
          (ihq hpq (fun r h => hr r (Nat.le_trans h (Nat.le_max_right ..))) hs)
    · rw [if_neg hnull] at hs hr
      exact (ihp hpp hr hs).seq_left hq
  | alt p q ihp ihq =>
    rcases List.mem_append.1 hs with hs | hs
    · exact (ihp hp.1 (fun r h => hr r (Nat.le_trans h (Nat.le_max_left ..))) hs).alt_left
    · exact (ihq hp.2.1 (fun r h => hr r (Nat.le_trans h (Nat.le_max_right ..))) hs).alt_right
  | star p ih =>
    obtain ⟨w, hw⟩ := ih hp.1 hr hs
    exact ⟨w, by simpa using Derives.starCons hw .starNil⟩

end Phrase

/-- By induction on the height: the rules that a production begins with are
lower than its rule. -/
theorem Rule.viable_singleton (n : ℕ) (r : Rule) (hn : r.height ≤ n) :
    ∀ s ∈ r.starters, (Phrase.rule r).Viable [s] := by
  induction n generalizing r with
  | zero => exact absurd (Nat.lt_of_lt_of_le r.height_production_lt hn) (Nat.not_lt_zero _)
  | succ n ih =>
    intro s hs
    rw [← r.starters_production] at hs
    have hlower : ∀ r' : Rule, r'.height ≤ r.production.height → r'.height ≤ n :=
      fun r' h => Nat.le_of_lt_succ
        (Nat.lt_of_lt_of_le (Nat.lt_of_le_of_lt h r.height_production_lt) hn)
    exact (Phrase.viable_singleton_of r.predictive_production
      (fun r' h => ih r' (hlower r' h)) hs).imp fun _ => .rule

namespace Phrase

variable {p q : Phrase} {v u : List Symbol}

/-- **Every starter starts a sentence.** -/
theorem viable_singleton (hp : p.Predictive) {s : Symbol} (hs : s ∈ p.starters) :
    p.Viable [s] :=
  viable_singleton_of hp (fun r _ => r.viable_singleton _ (Nat.le_refl _)) hs

/-! ## The parts of a sequence -/

/-- Where the first part has a sentence that it cannot go on from, the rest of
a sentence of the sequence belongs to the second part. -/
theorem Derives.seq_rest (hpq : (Phrase.seq p q).Predictive) (hv : p.Derives v)
    (hstop : ∀ s w, u = s :: w → ¬ p.Viable (v ++ [s])) (h : (Phrase.seq p q).Derives (v ++ u)) :
    q.Derives u := by
  obtain ⟨hp, -, hapart, -⟩ := hpq
  generalize hvu : v ++ u = x at h
  cases h with
  | @seq _ _ x₁ x₂ h₁ h₂ =>
    rcases List.append_eq_append_iff.1 hvu with ⟨z, rfl, rfl⟩ | ⟨z, rfl, rfl⟩
    · -- the first part of the sentence goes on behind `v`
      cases z with
      | nil => exact h₂
      | cons s z => exact absurd ⟨z, by simpa using h₁⟩ (hstop s (z ++ x₂) rfl)
    · -- the first part of the sentence ends inside `v`
      cases z with
      | nil => exact h₂
      | cons s z => exact absurd (h₂.mem_starters rfl) (hapart s (h₁.mem_continuers hp hv))

/-- Where the first part has begun and is not complete, a sentence of the
sequence goes on with the first part. -/
theorem Derives.seq_first (hpq : (Phrase.seq p q).Predictive) (hv : v = [] ∨ p.Viable v)
    (hn : ¬ p.Derives v) (h : (Phrase.seq p q).Derives (v ++ u)) :
    ∃ s w, u = s :: w ∧ p.Viable (v ++ [s]) := by
  obtain ⟨hp, -, hapart, -⟩ := hpq
  generalize hvu : v ++ u = x at h
  cases h with
  | @seq _ _ x₁ x₂ h₁ h₂ =>
    rcases List.append_eq_append_iff.1 hvu with ⟨z, rfl, rfl⟩ | ⟨z, rfl, rfl⟩
    · cases z with
      | nil => exact absurd (by simpa using h₁) hn
      | cons s z => exact ⟨s, z ++ x₂, rfl, z, by simpa using h₁⟩
    · cases z with
      | nil => exact absurd (by simpa using h₁) hn
      | cons s z =>
        rcases hv with hnil | ⟨w, hw⟩
        · simp at hnil
        · have hs : s ∈ p.continuers := h₁.mem_continuers (w := z ++ w) hp (by simpa using hw)
          exact absurd (h₂.mem_starters rfl) (hapart s hs)

/-! ## The sides of a choice -/

theorem Derives.alt_left_of_mem (hpq : (Phrase.alt p q).Predictive) {s : Symbol}
    (hs : s ∈ p.starters) (h : (Phrase.alt p q).Derives (s :: u)) : p.Derives (s :: u) := by
  cases h with
  | altLeft h => exact h
  | altRight h => exact absurd (h.mem_starters rfl) (hpq.2.2.1 s hs)

theorem Derives.alt_right_of_not_mem {s : Symbol} (hs : s ∉ p.starters)
    (h : (Phrase.alt p q).Derives (s :: u)) : q.Derives (s :: u) := by
  cases h with
  | altLeft h => exact absurd (h.mem_starters rfl) hs
  | altRight h => exact h

/-- **A repetition is the choice between once more and no more.** -/
theorem derives_star_iff {w : List Symbol} :
    (Phrase.star p).Derives w ↔ (Phrase.alt (.seq p (.star p)) .empty).Derives w := by
  constructor
  · intro h
    cases h with
    | starNil => exact .altRight .empty
    | starCons hv hw => exact .altLeft (.seq hv hw)
  · intro h
    cases h with
    | altLeft h =>
      cases h with
      | seq hv hw => exact .starCons hv hw
    | altRight h =>
      cases h
      exact .starNil

/-- Seen as a choice, a repetition is as predictive as before. -/
theorem Predictive.star (hp : (Phrase.star p).Predictive) :
    (Phrase.alt (.seq p (.star p)) .empty).Predictive := by
  obtain ⟨hpp, hapart, hnull⟩ := id hp
  refine ⟨⟨hpp, hp, hapart, rfl⟩, trivial, fun _ _ => List.not_mem_nil, ?_⟩
  rw [nullable, hnull, Bool.false_and]

theorem starters_seq_star (hp : (Phrase.star p).Predictive) :
    (Phrase.seq p (.star p)).starters = p.starters := by
  obtain ⟨-, -, hnull⟩ := hp
  rw [starters, hnull]
  rfl

/-! ## Verdicts on a stream -/

variable {f : Stream' Symbol} {m n : ℕ}

/-- The first `m` symbols are a sentence, and one symbol more is not viable. -/
def Accepts (p : Phrase) (f : Stream' Symbol) (m : ℕ) : Prop :=
  p.Derives (f.take m) ∧ ¬ p.Viable (f.take (m + 1))

/-- The first `m` symbols are viable but no sentence, and one symbol more is not
viable. A phrase without any sentence rejects the empty prefix. -/
def Rejects (p : Phrase) (f : Stream' Symbol) (m : ℕ) : Prop :=
  (m = 0 ∨ p.Viable (f.take m)) ∧ ¬ p.Derives (f.take m) ∧ ¬ p.Viable (f.take (m + 1))

theorem Accepts.congr (h : ∀ w, p.Derives w ↔ q.Derives w) (hp : p.Accepts f m) :
    q.Accepts f m :=
  ⟨(h _).1 hp.1, fun ⟨w, hw⟩ => hp.2 ⟨w, (h _).2 hw⟩⟩

theorem Rejects.congr (h : ∀ w, p.Derives w ↔ q.Derives w) (hp : p.Rejects f m) :
    q.Rejects f m :=
  ⟨hp.1.imp_right fun ⟨w, hw⟩ => ⟨w, (h _).1 hw⟩, fun hw => hp.2.1 ((h _).2 hw),
    fun ⟨w, hw⟩ => hp.2.2 ⟨w, (h _).2 hw⟩⟩

/-- What is viable and no longer so with one symbol more is the longest viable
prefix. -/
theorem Accepts.viable_iff (h : p.Accepts f m) : p.Viable (f.take n) ↔ n ≤ m :=
  viable_take_iff h.1.viable h.2

theorem Rejects.viable_iff (h : p.Rejects f m) (hp : p.hasSentence = true) :
    p.Viable (f.take n) ↔ n ≤ m := by
  refine viable_take_iff ?_ h.2.2
  rcases h.1 with rfl | hv
  · exact exists_derives hp
  · exact hv

/-- A sentence that nothing continues is accepted. -/
theorem Accepts.of_derives (hp : p.Predictive) (hc : p.continuers = [])
    (h : p.Derives (f.take m)) : p.Accepts f m := by
  refine ⟨h, ?_⟩
  rintro ⟨w, hw⟩
  rw [Stream'.take_succ', List.append_assoc] at hw
  have hmem := h.mem_continuers hp hw
  rw [hc] at hmem
  cases hmem

theorem accepts_empty : Phrase.empty.Accepts f 0 := by
  refine ⟨.empty, ?_⟩
  rintro ⟨w, hw⟩
  rw [Stream'.take_succ] at hw
  cases hw

theorem accepts_terminal : (Phrase.terminal f.head).Accepts f 1 := by
  refine ⟨.terminal _, ?_⟩
  rintro ⟨w, hw⟩
  rw [Stream'.take_succ, Stream'.take_succ] at hw
  cases hw

theorem rejects_terminal {s : Symbol} (hs : f.head ≠ s) : (Phrase.terminal s).Rejects f 0 := by
  refine ⟨.inl rfl, nofun, ?_⟩
  rintro ⟨w, hw⟩
  rw [Stream'.take_succ] at hw
  cases hw
  exact hs rfl

theorem rejects_unmet {expected : String} : (Phrase.unmet expected).Rejects f 0 :=
  ⟨.inl rfl, nofun, nofun⟩

/-- What the second part is left with begins with the symbol that stopped the
first. -/
theorem not_viable_take_append (h : ¬ p.Viable (f.take (m + 1))) {k : ℕ} (w : List Symbol)
    (hk : k ≠ 0) : ∀ s u, (f.drop m).take k ++ w = s :: u → ¬ p.Viable (f.take m ++ [s]) := by
  intro s u hsu
  obtain ⟨k, rfl⟩ := Nat.exists_eq_succ_of_ne_zero hk
  rw [Stream'.take_succ] at hsu
  cases hsu
  rwa [Stream'.head_drop, ← Stream'.take_succ']

/-- Neither part of a sequence goes on, so the sequence does not. -/
theorem not_viable_seq (hpq : (Phrase.seq p q).Predictive) (h₁ : p.Accepts f m)
    (h₂ : ¬ q.Viable ((f.drop m).take (n + 1))) :
    ¬ (Phrase.seq p q).Viable (f.take (m + n + 1)) := by
  rintro ⟨w, hw⟩
  rw [Nat.add_assoc, Stream'.take_add, List.append_assoc] at hw
  have hstop := not_viable_take_append h₁.2 w (Nat.succ_ne_zero n)
  exact h₂ ⟨w, Derives.seq_rest hpq h₁.1 hstop hw⟩

theorem Accepts.seq (hpq : (Phrase.seq p q).Predictive) (h₁ : p.Accepts f m)
    (h₂ : q.Accepts (f.drop m) n) : (Phrase.seq p q).Accepts f (m + n) := by
  refine ⟨?_, not_viable_seq hpq h₁ h₂.2⟩
  rw [Stream'.take_add]
  exact .seq h₁.1 h₂.1

/-- The second part is rejected where the sequence is. -/
theorem Rejects.seq_right (hpq : (Phrase.seq p q).Predictive) (h₁ : p.Accepts f m)
    (h₂ : q.Rejects (f.drop m) n) : (Phrase.seq p q).Rejects f (m + n) := by
  obtain ⟨hviable, hderives, hstop⟩ := h₂
  refine ⟨.inr ?_, ?_, not_viable_seq hpq h₁ hstop⟩
  · rcases hviable with rfl | hviable
    · exact h₁.1.viable.seq_left hpq.2.2.2
    · rw [Stream'.take_add]
      exact .seq_right h₁.1 hviable
  · intro h
    rw [Stream'.take_add] at h
    -- nothing stops the first part unless the second one has taken something
    refine hderives (Derives.seq_rest hpq h₁.1 ?_ h)
    cases n with
    | zero => exact fun _ _ hnil => nomatch hnil
    | succ n =>
      have hnext := not_viable_take_append h₁.2 [] (Nat.succ_ne_zero n)
      rwa [List.append_nil] at hnext

/-- The first part is rejected where the sequence is. -/
theorem Rejects.seq_left (hpq : (Phrase.seq p q).Predictive) (h : p.Rejects f m) :
    (Phrase.seq p q).Rejects f m := by
  obtain ⟨hviable, hderives, hstop⟩ := h
  have hstart : f.take m = [] ∨ p.Viable (f.take m) :=
    hviable.imp_left fun hm => by rw [hm, Stream'.take_zero]
  refine ⟨hviable.imp_right fun hv => hv.seq_left hpq.2.2.2, ?_, ?_⟩
  · intro hw
    rw [← List.append_nil (f.take m)] at hw
    obtain ⟨s, w, hnil, -⟩ := Derives.seq_first hpq hstart hderives hw
    cases hnil
  · rintro ⟨w, hw⟩
    rw [Stream'.take_succ', List.append_assoc] at hw
    obtain ⟨s, u, heq, hs⟩ := Derives.seq_first hpq hstart hderives hw
    cases heq
    exact hstop (by rwa [Stream'.take_succ'])

theorem Accepts.alt_left (hpq : (Phrase.alt p q).Predictive) (hf : f.head ∈ p.starters)
    (h : p.Accepts f m) : (Phrase.alt p q).Accepts f m := by
  refine ⟨.altLeft h.1, ?_⟩
  rintro ⟨w, hw⟩
  exact h.2 ⟨w, hw.alt_left_of_mem hpq hf⟩

theorem Accepts.alt_right (hf : f.head ∉ p.starters) (h : q.Accepts f m) :
    (Phrase.alt p q).Accepts f m := by
  refine ⟨.altRight h.1, ?_⟩
  rintro ⟨w, hw⟩
  exact h.2 ⟨w, hw.alt_right_of_not_mem hf⟩

theorem Rejects.alt_left (hpq : (Phrase.alt p q).Predictive) (hf : f.head ∈ p.starters)
    (h : p.Rejects f m) : (Phrase.alt p q).Rejects f m := by
  obtain ⟨hviable, hderives, hstop⟩ := h
  refine ⟨hviable.imp_right .alt_left, ?_, ?_⟩
  · cases m with
    | zero => exact absurd (viable_singleton hpq.1 hf) hstop
    | succ m => exact fun hw => hderives (hw.alt_left_of_mem hpq hf)
  · rintro ⟨w, hw⟩
    exact hstop ⟨w, hw.alt_left_of_mem hpq hf⟩

theorem Rejects.alt_right (hpq : (Phrase.alt p q).Predictive) (hf : f.head ∉ p.starters)
    (h : q.Rejects f m) : (Phrase.alt p q).Rejects f m := by
  obtain ⟨hviable, hderives, hstop⟩ := h
  refine ⟨hviable.imp_right .alt_right, ?_, ?_⟩
  · cases m with
    | zero =>
      intro hw
      cases hw with
      | altLeft hw => simpa [hpq.2.2.2] using hw.nullable rfl
      | altRight hw => exact hderives hw
    | succ m => exact fun hw => hderives (hw.alt_right_of_not_mem hf)
  · rintro ⟨w, hw⟩
    exact hstop ⟨w, hw.alt_right_of_not_mem hf⟩

end Phrase

end SyntaxChecker
