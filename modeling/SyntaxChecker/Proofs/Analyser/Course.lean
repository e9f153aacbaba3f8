import SyntaxChecker.Proofs.Analyser.Journal
import SyntaxChecker.Proofs.Grammar.Tree

/-!
# The course of a check

Whatever a supply does, a check proceeds by two kinds of steps. It tells the sink
that a rule is entered or left, or it tells the sink that the lookahead is
accepted and takes the next token. A `Course` is a sequence of such steps. An
action that ends well has walked through trees of its phrase. An action that
fails has come to a place from where there is no step, either because the
lookahead does not fit or because the supply raised a fault, and has then left
the rules that were open there, from the inside to the outside (`Runs`).

The third way to fail, at the bound on the depth, is open only to a supply that
does not come to an end as it promised. Along a course the tokens that may still
come get fewer, and the bound is in proportion to them (`runs_follow`).
-/

namespace SyntaxChecker

open Listener SyntaxChecker.Tree

/-! ## What a supply yields -/

/-- Some tokens were taken from a supply, and here is what is left of it. -/
inductive Supply.Yields {σ : Type} [Supply σ] : σ → List Token → σ → Prop
  | nil (s : σ) : Yields s [] s
  | cons {s s' u : σ} {t : Token} {ts : List Token} :
      pull s = (.ok t, s') → Yields s' ts u → Yields s (t :: ts) u

/-- What was taken first was taken first. -/
theorem Supply.Yields.of_append {σ : Type} [Supply σ] {s u : σ} {ts us : List Token}
    (h : Yields s (ts ++ us) u) : ∃ m, Yields s ts m ∧ Yields m us u := by
  induction ts generalizing s with
  | nil => exact ⟨s, .nil s, h⟩
  | cons t ts ih =>
    cases h with
    | cons hpull hrest =>
      obtain ⟨m, hts, hus⟩ := ih hrest
      exact ⟨m, .cons hpull hts, hus⟩

/-- Every token but the end of the input lowers the bound of a supply that keeps it. -/
theorem Supply.Yields.pending_add_length_le {σ : Type} [Supply σ] [LawfulSupply σ] {s u : σ}
    {ts : List Token} (h : Yields s ts u) (hts : ∀ t ∈ ts, t.isEof = false) :
    pending u + ts.length ≤ pending s := by
  induction h with
  | nil => exact Nat.le_refl _
  | cons hpull _ ih =>
    obtain ⟨ht, hts⟩ := List.forall_mem_cons.1 hts
    have hlt := LawfulSupply.pending_lt hpull ht
    have hle := ih hts
    rw [List.length_cons]
    omega

/-! ## Open rules -/

/-- The labels of the rules that are open after a notice, innermost first. -/
def Notice.nest (stack : List String) : Notice → List String
  | .event (.enter label) => label :: stack
  | .event (.exit _) => stack.tail
  | _ => stack

/-- The labels of the rules that are open after some notices, innermost first,
if those in `stack` were open before. -/
def opened (stack : List String) (notices : List Notice) : List String :=
  notices.foldl Notice.nest stack

@[simp] theorem opened_cons (stack : List String) (n : Notice) (ns : List Notice) :
    opened stack (n :: ns) = opened (n.nest stack) ns := rfl

@[simp] theorem opened_append (stack : List String) (ns ns' : List Notice) :
    opened stack (ns ++ ns') = opened (opened stack ns) ns' := List.foldl_append

mutual

/-- A walk through a tree leaves every rule that it enters. -/
theorem opened_events (stack : List String) :
    (t : Tree) → opened stack (t.events.map .event) = stack
  | .leaf _ => rfl
  | .node r children => by
    rw [events, List.map_cons, opened_cons, List.map_append, opened_append,
      opened_eventsAll _ children]
    rfl

theorem opened_eventsAll (stack : List String) :
    (xs : List Tree) → opened stack ((eventsAll xs).map .event) = stack
  | [] => rfl
  | t :: rest => by
    rw [eventsAll, List.map_append, opened_append, opened_events stack t,
      opened_eventsAll stack rest]

end

theorem terminals_events (trees : List Tree) :
    ((eventsAll trees).map Notice.event).filterMap Notice.token? = tokensAll trees := by
  rw [List.filterMap_map, ← Tree.terminals_eventsAll]
  rfl

/-- The notices that these rules are left, given outermost first. -/
def exits (rules : List Rule) : List Notice :=
  rules.reverse.map fun r => .event (.exit r.label)

theorem exits_cons (r : Rule) (rules : List Rule) :
    exits (r :: rules) = exits rules ++ [.event (.exit r.label)] := by
  rw [exits, List.reverse_cons, List.map_append]
  rfl

/-! ## Courses -/

namespace Analyser

section Course

variable {σ : Type}

/-- The same analyser with some notices written down. -/
def wrote (j : Analyser σ Journal) (ns : List Notice) : Analyser σ Journal :=
  { j with sink := j.sink.write ns }

theorem wrote_nil (j : Analyser σ Journal) : j.wrote [] = j := by
  show { j with sink := j.sink.write [] } = j
  rw [Journal.write_nil]

theorem wrote_wrote (j : Analyser σ Journal) (ns ns' : List Notice) :
    (j.wrote ns).wrote ns' = j.wrote (ns ++ ns') := by
  unfold wrote
  rw [Journal.write_write]

theorem notify_wrote (j : Analyser σ Journal) (e : Event) :
    notify (.event e) j = (.ok (), j.wrote [.event e]) :=
  notify_of_eq rfl

theorem mismatch_wrote (j : Analyser σ Journal) (expected : String) :
    mismatch expected j
      = (.error (mismatchError j.lookahead (j.message expected j.lookahead)),
          j.wrote [.mismatch j.lookahead (j.message expected j.lookahead)]) :=
  mismatch_of_eq rfl

variable [Supply σ]

/-- The analyser after it has accepted its lookahead, with a new one. -/
def taken (j : Analyser σ Journal) (t : Token) (s : σ) : Analyser σ Journal :=
  { j.wrote [.event (.terminal j.lookahead)] with supply := s, lookahead := t }

section Terminal

variable {j : Analyser σ Journal} {s : Symbol} {u : σ}

/-- A terminal that fits is accepted, and here is the next token. -/
theorem accept_of_pull {t : Token} (hs : j.lookahead.symbol = s)
    (hpull : Supply.pull j.supply = (.ok t, u)) : accept s j = (.ok (), j.taken t u) := by
  rw [accept_of_eq hs]
  unfold Action.andThen
  rw [notify_wrote]
  exact advance_of_pull (a := j.wrote [.event (.terminal j.lookahead)]) hpull

/-- A terminal that fits is accepted, but there is no next token. The sink has heard of
it all the same. -/
theorem accept_of_fault {e : Raised} (hs : j.lookahead.symbol = s)
    (hpull : Supply.pull j.supply = (.error e, u)) :
    accept s j = (.error e, { j.wrote [.event (.terminal j.lookahead)] with supply := u }) := by
  rw [accept_of_eq hs]
  unfold Action.andThen
  rw [notify_wrote]
  exact advance_of_fault (a := j.wrote [.event (.terminal j.lookahead)]) hpull

end Terminal

/-- **Steps of a check**, and what the sink hears of them. -/
inductive Course : Analyser σ Journal → List Notice → Analyser σ Journal → Prop
  | here (j : Analyser σ Journal) : Course j [] j
  | event {j k : Analyser σ Journal} {ns : List Notice} (e : Event) :
      e.token? = none → Course (j.wrote [.event e]) ns k → Course j (.event e :: ns) k
  | terminal {j k : Analyser σ Journal} {ns : List Notice} {t : Token} {s : σ} :
      Supply.pull j.supply = (.ok t, s) → Course (j.taken t s) ns k →
        Course j (.event (.terminal j.lookahead) :: ns) k

namespace Course

variable {j k l : Analyser σ Journal} {ns ns' : List Notice}

theorem trans (h : Course j ns k) (h' : Course k ns' l) : Course j (ns ++ ns') l := by
  induction h with
  | here => exact h'
  | event e he _ ih => exact .event e he (ih h')
  | terminal hpull _ ih => exact .terminal hpull (ih h')

theorem concat (h : Course j ns k) {e : Event} (he : e.token? = none) :
    Course j (ns ++ [.event e]) (k.wrote [.event e]) :=
  h.trans (.event e he (.here _))

theorem sourceName_eq (h : Course j ns k) : k.sourceName = j.sourceName := by
  induction h with
  | here => rfl
  | event _ _ _ ih | terminal _ _ ih => exact ih

/-- The sink hears what the course says, and nothing else. -/
theorem sink_eq (h : Course j ns k) : k.sink = j.sink.write ns := by
  induction h with
  | here j => exact j.sink.write_nil.symm
  | event _ _ _ ih | terminal _ _ ih =>
    rw [ih]
    exact Journal.write_write ..

/-- **Nothing is skipped.** The accepted terminals and the lookahead are the
former lookahead and what the supply has yielded. -/
theorem yields (h : Course j ns k) :
    ∃ ts, Supply.Yields j.supply ts k.supply
      ∧ ns.filterMap Notice.token? ++ [k.lookahead] = j.lookahead :: ts := by
  induction h with
  | here j => exact ⟨[], .nil _, rfl⟩
  | event e he _ ih =>
    obtain ⟨ts, hts, heq⟩ := ih
    refine ⟨ts, hts, ?_⟩
    rw [List.filterMap_cons_none (show Notice.token? (.event e) = none from he), heq]
    rfl
  | terminal hpull _ ih =>
    obtain ⟨ts, hts, heq⟩ := ih
    refine ⟨_ :: ts, .cons hpull hts, ?_⟩
    show _ :: (List.filterMap Notice.token? _ ++ _) = _
    rw [heq]
    rfl

end Course

/-- How many tokens may still be accepted before the end of the input. -/
def budget (j : Analyser σ Journal) : Nat :=
  Supply.pending j.supply + if j.lookahead.isEof then 0 else 1

/-- **No more tokens than that can be accepted** before the end of the input, the lookahead
included. -/
def Within (b : Nat) (j : Analyser σ Journal) : Prop :=
  ∀ ts u, Supply.Yields j.supply ts u → (∀ t ∈ j.lookahead :: ts, t.isEof = false) →
    ts.length < b

/-- A supply that keeps its promise stays within it. -/
theorem within_budget [LawfulSupply σ] (j : Analyser σ Journal) : j.Within j.budget := by
  intro ts u hyields hts
  obtain ⟨hlookahead, hts⟩ := List.forall_mem_cons.1 hts
  have hle := hyields.pending_add_length_le hts
  unfold budget
  rw [hlookahead, if_neg Bool.false_ne_true]
  omega

theorem Within.mono {j : Analyser σ Journal} {b c : Nat} (hb : j.Within b) (hbc : b ≤ c) :
    j.Within c := fun ts u hyields hts => Nat.lt_of_lt_of_le (hb ts u hyields hts) hbc

theorem within_pending [LawfulSupply σ] (j : Analyser σ Journal) :
    j.Within (Supply.pending j.supply + 1) := by
  refine j.within_budget.mono ?_
  unfold budget
  split <;> omega

/-- An accepted token is one less that can be. -/
theorem Within.taken {j : Analyser σ Journal} {b : Nat} {t : Token} {s : σ} (hb : j.Within b)
    (hpull : Supply.pull j.supply = (.ok t, s)) (hj : j.lookahead.isEof = false) :
    ∃ c, (j.taken t s).Within c ∧ c < b := by
  have hpos : 0 < b := hb [] _ (.nil _) (List.forall_mem_singleton.2 hj)
  refine ⟨b - 1, fun ts u hyields hts => ?_, Nat.sub_lt hpos Nat.one_pos⟩
  have hlt := hb (t :: ts) u (.cons hpull hyields) (List.forall_mem_cons.2 ⟨hj, hts⟩)
  rw [List.length_cons] at hlt
  omega

/-- Every accepted token is one less that can be. -/
theorem Course.within {j k : Analyser σ Journal} {ns : List Notice} {b : Nat}
    (h : Course j ns k) (hns : ∀ t ∈ ns.filterMap Notice.token?, t.isEof = false)
    (hb : j.Within b) : ∃ c, k.Within c ∧ c + (ns.filterMap Notice.token?).length ≤ b := by
  induction h generalizing b with
  | here => exact ⟨b, hb, Nat.le_refl b⟩
  | event e he _ ih =>
    rw [List.filterMap_cons_none (show Notice.token? (.event e) = none from he)] at hns ⊢
    exact ih hns hb
  | terminal hpull _ ih =>
    rw [List.filterMap_cons_some (show Notice.token? (.event (.terminal _)) = some _ from rfl)]
      at hns ⊢
    obtain ⟨hlookahead, hns⟩ := List.forall_mem_cons.1 hns
    obtain ⟨b', hb', hlt⟩ := hb.taken hpull hlookahead
    obtain ⟨c, hc, hle⟩ := ih hns hb'
    refine ⟨c, hc, ?_⟩
    rw [List.length_cons]
    omega

end Course

/-! ## Failures -/

/-- What becomes of an error on its way out of some rules, given outermost
first. -/
def wrapped {σ τ : Type} (a : Analyser σ τ) (rules : List Rule) (origin : Raised) : Raised :=
  rules.foldr (fun r e => a.wrap r.expectation e) origin

section Failure

variable {σ : Type} [Supply σ]

/-- **Why there is no further step.** The lookahead does not fit; or it is
accepted and the supply raises a fault; or the interpreter is at its greatest
depth, if `D` says that it may get there. -/
inductive Halts (D : Prop) (k : Analyser σ Journal) :
    List Notice → Raised → Analyser σ Journal → Prop
  | mismatch (expected : String) :
      Halts D k [.mismatch k.lookahead (k.message expected k.lookahead)]
        (mismatchError k.lookahead (k.message expected k.lookahead))
        (k.wrote [.mismatch k.lookahead (k.message expected k.lookahead)])
  | supply {e : Raised} {s : σ} :
      Supply.pull k.supply = (.error e, s) →
        Halts D k [.event (.terminal k.lookahead)] e
          { k.wrote [.event (.terminal k.lookahead)] with supply := s }
  | tooDeep : D → Halts D k [] (Raised.fresh .tooDeep) k

/-- **A failure** comes at the end of a course, and then leaves the rules that
are open there. -/
inductive Fails (D : Prop) (j : Analyser σ Journal) : Raised → Analyser σ Journal → Prop
  | intro {ns stop : List Notice} {k l : Analyser σ Journal} {origin : Raised}
      (rules : List Rule) :
      Course j ns k → (∀ stack, opened stack ns = (rules.map Rule.label).reverse ++ stack) →
        Halts D k stop origin l → Fails D j (l.wrapped rules origin) (l.wrote (exits rules))

/-- **How the checking of a phrase ends.** -/
inductive Runs (D : Prop) (p : Phrase) (j : Analyser σ Journal) :
    Outcome × Analyser σ Journal → Prop
  | ok {trees : List Tree} {k : Analyser σ Journal} :
      p.Builds trees → Course j ((eventsAll trees).map .event) k → Runs D p j (.ok (), k)
  | error {e : Raised} {k : Analyser σ Journal} : Fails D j e k → Runs D p j (.error e, k)

variable {D : Prop} {p q : Phrase} {j k : Analyser σ Journal} {x y : Action σ Journal}

/-- A failure where no rule is open yet. -/
theorem Halts.fails {stop : List Notice} {e : Raised} {l : Analyser σ Journal}
    (h : Halts D j stop e l) : Fails D j e l := by
  have hfails := Fails.intro [] (.here j) (fun _ => rfl) h
  rwa [show exits [] = [] from rfl, wrote_nil] at hfails

/-- A failure behind some trees. -/
theorem Fails.after {trees : List Tree} {e : Raised} {l : Analyser σ Journal}
    (h : Fails D k e l) (hj : Course j ((eventsAll trees).map .event) k) : Fails D j e l := by
  cases h with
  | intro rules hk hopen hhalts =>
    refine .intro rules (hj.trans hk) (fun stack => ?_) hhalts
    rw [opened_append, opened_eventsAll, hopen]

/-- A failure inside a rule. -/
theorem Fails.within {e : Raised} {l : Analyser σ Journal} {r : Rule}
    (h : Fails D (j.wrote [.event (.enter r.label)]) e l) :
    Fails D j (l.wrap r.expectation e) (l.wrote [.event (.exit r.label)]) := by
  cases h with
  | @intro ns stop k l origin rules hk hopen hhalts =>
    rw [wrote_wrote, ← exits_cons]
    refine .intro (r :: rules) (.event _ rfl hk) (fun stack => ?_) hhalts
    rw [opened_cons, hopen, List.map_cons, List.reverse_cons, List.append_assoc]
    rfl

namespace Runs

theorem mismatch (expected : String) : Runs D p j (Analyser.mismatch expected j) :=
  .error (Halts.mismatch expected).fails

theorem accept (s : Symbol) : Runs D (.terminal s) j (Analyser.accept s j) := by
  by_cases hs : j.lookahead.symbol = s
  · rcases hpull : Supply.pull j.supply with ⟨e | t, s'⟩
    · rw [accept_of_fault hs hpull]
      exact .error (Halts.supply hpull).fails
    · rw [accept_of_pull hs hpull]
      exact .ok (.terminal hs) (.terminal hpull (.here _))
  · rw [accept_of_ne hs]
    exact mismatch _

theorem seq (hx : Runs D p j (x j)) (hy : ∀ trees k, p.Builds trees →
      Course j ((eventsAll trees).map .event) k → Runs D q k (y k)) :
    Runs D (.seq p q) j (Action.andThen x y j) := by
  unfold Action.andThen
  generalize x j = result at hx
  cases hx with
  | error hfails => exact .error hfails
  | @ok trees k hbuilds hcourse =>
    have hq := hy trees k hbuilds hcourse
    dsimp only
    generalize y k = result at hq
    cases hq with
    | error hfails => exact .error (hfails.after hcourse)
    | ok hbuilds' hcourse' =>
      refine .ok (hbuilds.seq hbuilds') ?_
      rw [eventsAll_append, List.map_append]
      exact hcourse.trans hcourse'

/-- Phrases with the same trees run alike. -/
theorem mono {result : Outcome × Analyser σ Journal} (h : Runs D p j result)
    (hpq : ∀ trees, p.Builds trees → q.Builds trees) : Runs D q j result := by
  cases h with
  | error hfails => exact .error hfails
  | ok hbuilds hcourse => exact .ok (hpq _ hbuilds) hcourse

theorem alt (symbols : List Symbol) (hx : Runs D p j (x j)) (hy : Runs D q j (y j)) :
    Runs D (.alt p q) j (Action.ifNext symbols x y j) := by
  unfold Action.ifNext
  by_cases hs : j.lookahead.symbol ∈ symbols
  · rw [if_pos hs]
    exact hx.mono fun _ => .altLeft
  · rw [if_neg hs]
    exact hy.mono fun _ => .altRight

theorem star (symbols : List Symbol) (hx : Runs D p j (x j))
    (hy : ∀ trees k, p.Builds trees →
      Course j ((eventsAll trees).map .event) k → Runs D (.star p) k (y k)) :
    Runs D (.star p) j (Action.ifNext symbols (Action.andThen x y) Action.done j) := by
  unfold Action.ifNext
  by_cases hs : j.lookahead.symbol ∈ symbols
  · rw [if_pos hs]
    refine (seq hx hy).mono fun trees h => ?_
    cases h with
    | seq h h' => exact .starCons h h'
  · rw [if_neg hs]
    exact .ok .starNil (.here j)

theorem bracket (r : Rule) (hx : Runs D r.production (j.wrote [.event (.enter r.label)])
      (x (j.wrote [.event (.enter r.label)]))) :
    Runs D (.rule r) j (Analyser.bracket r x j) := by
  unfold Analyser.bracket
  rw [notify_wrote]
  dsimp only
  generalize x (j.wrote [.event (.enter r.label)]) = result at hx
  cases hx with
  | error hfails =>
    dsimp only
    rw [notify_wrote]
    exact .error hfails.within
  | ok hbuilds hcourse =>
    dsimp only
    rw [notify_wrote]
    refine .ok (.rule hbuilds) ?_
    rw [eventsAll_node, List.map_cons, List.map_append]
    exact .event _ rfl (hcourse.concat rfl)

/-- Whatever the supply, a phrase runs like this or to the greatest depth. -/
theorem lockstep : Lockstep
    (fun p x _ => ∀ j, Runs True p j (x j) :
      Phrase → Action σ Journal → Action σ Journal → Prop) where
  tooDeep _ _ := .error (Halts.tooDeep trivial).fails
  empty j := .ok .empty (.here j)
  unmet expected _ := mismatch expected
  terminal s _ := accept s
  rule h j := bracket _ (h (j.wrote _))
  seq h h' j := seq (h j) fun _ k _ _ => h' k
  alt h h' j := alt _ (h j) (h' j)
  star h h' j := star _ (h j) fun _ k _ _ => h' k

end Runs

/-! ## The depth is enough -/

/-- Behind a sentence that does not hold the end of the input there is less to
come, unless it is empty. -/
theorem Course.within_lt {trees : List Tree} {b : Nat}
    (h : Course j ((eventsAll trees).map .event) k) (hp : p.Builds trees)
    (hend : p.mentionsEnd = false) (hb : j.Within b) :
    ∃ c, k.Within c ∧ c ≤ b ∧ (p.nullable = false → c < b) := by
  -- every token of the trees is paid for, since none is the end of the input
  obtain ⟨c, hc, hle⟩ := h.within (fun t ht => by
    rw [terminals_events] at ht
    exact Bool.eq_false_iff.2 fun heof =>
      hp.derives.eof_not_mem hend (List.mem_map.2 ⟨t, ht, eq_of_beq heof⟩)) hb
  rw [terminals_events] at hle
  refine ⟨c, hc, by omega, fun hnull => ?_⟩
  have hne : tokensAll trees ≠ [] := fun hnil => by
    have := hp.derives.nullable (by rw [symbolsAll, hnil, List.map_nil])
    rw [hnull] at this
    cases this
  have := List.length_pos_iff.2 hne
  omega

/-- Behind the first part of a sequence the depth is enough for the second. -/
theorem Course.depth_seq {trees : List Tree} {b n : Nat}
    (h : Course j ((eventsAll trees).map .event) k) (hp : p.Builds trees)
    (hend : p.mentionsEnd = false) (hb : j.Within b) (hn : 8 * b + (Phrase.seq p q).height < n) :
    ∃ c, k.Within c ∧ 8 * c + q.height < n := by
  obtain ⟨c, hc, hle, hlt⟩ := h.within_lt hp hend hb
  refine ⟨c, hc, ?_⟩
  have hq := q.height_le
  rw [Phrase.height] at hn
  cases hnull : p.nullable with
  | true =>
    rw [if_pos hnull] at hn
    omega
  | false =>
    -- a first part that takes a token leaves enough depth for any second part
    have := hlt hnull
    omega

/-- Behind one turn of a repetition there is depth to spare for the others. -/
theorem Course.depth_star {trees : List Tree} {b n : Nat}
    (h : Course j ((eventsAll trees).map .event) k) (hp : p.Builds trees)
    (hend : p.mentionsEnd = false) (hnull : p.nullable = false) (hb : j.Within b)
    (hn : 8 * b + (Phrase.star p).height < n + 1) :
    ∃ c, k.Within c ∧ 8 * c + (Phrase.star p).height < n := by
  obtain ⟨c, hc, -, hlt⟩ := h.within_lt hp hend hb
  refine ⟨c, hc, ?_⟩
  have hlt := hlt hnull
  have hheight := (Phrase.star p).height_le
  omega

/-- One level of the interpreter, given the level below. -/
theorem runs_followWith {call : Phrase → Action σ Journal} {n : Nat}
    (hcall : ∀ (p : Phrase) (j : Analyser σ Journal) (b : Nat), p.Predictive →
      p.mentionsEnd = false → j.Within b → 8 * b + p.height < n → Runs False p j (call p j))
    (p : Phrase) (j : Analyser σ Journal) {b : Nat} (hp : p.Predictive)
    (hend : p.mentionsEnd = false) (hb : j.Within b) (hn : 8 * b + p.height < n + 1) :
    Runs False p j (followWith call p j) := by
  induction p generalizing j b with
  | empty => exact .ok .empty (.here j)
  | unmet expected => exact .mismatch expected
  | terminal s => exact .accept s
  | rule r =>
    have hlt := r.height_production_lt
    rw [Phrase.height] at hn
    exact .bracket r (hcall _ _ b r.predictive_production r.mentionsEnd_production hb (by omega))
  | seq p q ihp ihq =>
    rw [Phrase.mentionsEnd, Bool.or_eq_false_iff] at hend
    refine .seq (ihp j hp.1 hend.1 hb ?_) fun trees k htrees hk => ?_
    · rw [Phrase.height] at hn
      split at hn <;> omega
    · obtain ⟨c, hc, hdepth⟩ := hk.depth_seq htrees hend.1 hb hn
      exact ihq k hp.2.1 hend.2 hc hdepth
  | alt p q ihp ihq =>
    rw [Phrase.mentionsEnd, Bool.or_eq_false_iff] at hend
    rw [Phrase.height] at hn
    exact .alt _ (ihp j hp.1 hend.1 hb (by omega)) (ihq j hp.2.1 hend.2 hb (by omega))
  | star p ih =>
    refine .star _ (ih j hp.1 hend hb hn) fun trees k htrees hk => ?_
    obtain ⟨c, hc, hdepth⟩ := hk.depth_star htrees hend hp.2.2 hb hn
    exact hcall _ k c hp hend hc hdepth

/-- **The depth is enough** for the tokens that come before the end of the input, whether or
not the supply raises faults. -/
theorem runs_follow (n : Nat) (p : Phrase) (j : Analyser σ Journal) {b : Nat}
    (hp : p.Predictive) (hend : p.mentionsEnd = false) (hb : j.Within b)
    (hn : 8 * b + p.height < n) : Runs False p j (follow n p j) := by
  induction n generalizing p j b with
  | zero => exact absurd hn (Nat.not_lt_zero _)
  | succ n ih =>
    exact runs_followWith (fun q k c hq hq' hc hdepth => ih q k hq hq' hc hdepth) p j hp hend hb hn

/-- The depth that is provided is enough if the supply keeps its promise this time. -/
theorem runs_checkRule_of_within (r : Rule) {j : Analyser σ Journal}
    (hj : j.Within (Supply.pending j.supply + 1)) : Runs False (.rule r) j (checkRule r j) := by
  have hheight := (Phrase.rule r).height_le
  refine runs_follow _ _ j trivial rfl hj ?_
  unfold depthBound
  omega

theorem runs_checkRule (r : Rule) (j : Analyser σ Journal) :
    Runs (¬ LawfulSupply σ) (.rule r) j (checkRule r j) := by
  by_cases hlaw : LawfulSupply σ
  · rw [show (¬ LawfulSupply σ) = False from eq_false (not_not_intro hlaw)]
    exact runs_checkRule_of_within r j.within_pending
  · rw [show (¬ LawfulSupply σ) = True from eq_true hlaw]
    exact Runs.lockstep.follow _ _ j

end Failure

end Analyser

namespace Call

variable {σ : Type} [Supply σ]

/-- What a call does before it reports success. -/
def check : Call → Action σ Journal
  | program => Action.andThen (Analyser.checkRule .statementPart) (Analyser.accept .eof)
  | rule r => Analyser.checkRule r
  | terminal s => Analyser.accept s

/-- A call checks its phrase, and reports the success of a program. -/
theorem run_eq_check (c : Call) (j : Analyser σ Journal) :
    c.run j = ((c.check j).1, (c.check j).2.wrote (c.closing (c.check j).1)) := by
  cases c with
  | program =>
    rw [run_program]
    show Action.andThen program.check (Analyser.notify .success) j = _
    unfold Action.andThen
    rcases program.check j with ⟨_ | _, k⟩
    · show _ = (_, k.wrote [])
      rw [Analyser.wrote_nil]
    · exact Analyser.notify_of_eq rfl
  | rule r | terminal s =>
    show _ = (_, Analyser.wrote _ [])
    rw [Analyser.wrote_nil]
    rfl

/-- **Every call runs its phrase.** -/
theorem runs_check (c : Call) (j : Analyser σ Journal) :
    Analyser.Runs (¬ LawfulSupply σ) c.phrase j (c.check j) := by
  cases c with
  | program =>
    exact .seq (Analyser.runs_checkRule .statementPart j) fun _ _ _ _ => .accept .eof
  | rule r => exact Analyser.runs_checkRule r j
  | terminal s => exact .accept s

end Call

end SyntaxChecker
