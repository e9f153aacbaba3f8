import SyntaxChecker.Proofs.Analyser.Account
import SyntaxChecker.Proofs.Analyser.TraceText
import SyntaxChecker.Proofs.Lexer.Progress

/-!
# How much a check can do

Between two tokens a check enters rules without taking anything from the input. It might go on
with that for ever, and then there would be no bound on what the sink hears. There is one
because the rules stand in levels (`Phrase.height`): where no token comes between, a rule is
entered only from one that is higher, and there are three levels.

So a phrase that is checked with success enters at most three rules for each token that it
accepts, and has its height left to spare; one that fails may use up the height as well
(`Analyser.Grows`). That the parts of a phrase pass this on to the phrase is all that has to be
shown; what follows for the check of a program are bounds that are linear in the tokens it
accepts, and these are bounded by the tokens that come before the end of the input
(`output_is_linear`).
-/

namespace SyntaxChecker

open Listener

/-! ## Counting -/

/-- How many of some notices are of a kind. -/
def counted (kind : Hook) (ns : List Notice) : ℕ := ns.countP fun n => n.hook == kind

section Counting

variable (kind : Hook) (ns ns' : List Notice)

@[simp] theorem counted_nil : counted kind [] = 0 := rfl

@[simp] theorem counted_cons (n : Notice) :
    counted kind (n :: ns) = counted kind ns + if n.hook == kind then 1 else 0 :=
  List.countP_cons

@[simp] theorem counted_append :
    counted kind (ns ++ ns') = counted kind ns + counted kind ns' := List.countP_append

/-- The terminals are the accepted tokens. -/
theorem counted_terminal : counted .terminal ns = (ns.filterMap Notice.token?).length := by
  induction ns with
  | nil => rfl
  | cons n ns ih =>
    rw [counted_cons, ih, List.filterMap_cons]
    cases n with
    | mismatch | success => rfl
    | event e => cases e <;> rfl

/-- There are three kinds of events. -/
theorem length_filterMap_event? : (ns.filterMap Notice.event?).length
    = counted .enter ns + counted .exit ns + counted .terminal ns := by
  induction ns with
  | nil => rfl
  | cons n ns ih =>
    rw [List.filterMap_cons]
    simp only [counted_cons]
    cases n with
    | mismatch | success => exact ih
    | event e =>
      show (ns.filterMap Notice.event?).length + 1 = _
      rw [ih]
      cases e <;> simp [Notice.hook] <;> omega

/-- What a rule adds to what is told inside it. -/
theorem counted_around (label : String) :
    let around := .event (.enter label) :: (ns ++ [.event (.exit label)])
    counted .enter around = counted .enter ns + 1 ∧ counted .exit around = counted .exit ns + 1
      ∧ counted .terminal around = counted .terminal ns := by
  refine ⟨?_, ?_, ?_⟩ <;> simp [Notice.hook]

theorem counted_exit_exits (rules : List Rule) : counted .exit (exits rules) = rules.length := by
  induction rules with
  | nil => rfl
  | cons r rules ih =>
    rw [exits_cons, counted_append, ih]
    rfl

end Counting

namespace Analyser

variable {σ : Type} {p q r : Phrase} {j : Analyser σ Journal}

/-! ## Phrases grow with what they accept -/

/-- What holds of the notices in the checking of a phrase, however it ends. -/
structure Modest (p : Phrase) (ns : List Notice) : Prop where
  /-- Rules are left as often as entered. -/
  exit_eq : counted .exit ns = counted .enter ns
  /-- The end of the input is accepted only where it is mentioned. -/
  not_eof : p.mentionsEnd = false → ∀ t ∈ ns.filterMap Notice.token?, t.isEof = false

namespace Modest

variable {ns ns' : List Notice}

theorem mono (h : Modest p ns) (hend : r.mentionsEnd = false → p.mentionsEnd = false) :
    Modest r ns := ⟨h.exit_eq, fun hr => h.not_eof (hend hr)⟩

theorem append (h : Modest p ns) (h' : Modest q ns')
    (hend : r.mentionsEnd = false → p.mentionsEnd = false ∧ q.mentionsEnd = false) :
    Modest r (ns ++ ns') where
  exit_eq := by rw [counted_append, counted_append, h.exit_eq, h'.exit_eq]
  not_eof hr := by
    rw [List.filterMap_append, List.forall_mem_append]
    exact ⟨h.not_eof (hend hr).1, h'.not_eof (hend hr).2⟩

/-- A rule adds its beginning and its end, and its phrase has none of its own. -/
theorem bracket {r : Rule} (h : Modest r.production ns) :
    Modest (.rule r) (.event (.enter r.label) :: (ns ++ [.event (.exit r.label)])) where
  exit_eq := by
    obtain ⟨henter, hexit, -⟩ := counted_around ns r.label
    rw [henter, hexit, h.exit_eq]
  not_eof _ := by
    have htokens : (Notice.event (.enter r.label)
        :: (ns ++ [.event (.exit r.label)])).filterMap Notice.token?
        = ns.filterMap Notice.token? := by
      rw [List.filterMap_cons_none rfl, List.filterMap_append]
      exact List.append_nil _
    rw [htokens]
    exact h.not_eof r.mentionsEnd_production

end Modest

/-- **How much is done in the checking of a phrase**: nothing at all, where that will do; three
rules at most for each accepted token, and then the height of the phrase is left over; or, if
the phrase fails, the height in addition. -/
inductive Grows (p : Phrase) (j : Analyser σ Journal) : Outcome × Analyser σ Journal → Prop
  | nothing {k : Analyser σ Journal} :
      p.nullable = true → k.sink = j.sink → Grows p j (.ok (), k)
  | ok {k : Analyser σ Journal} (ns : List Notice) : k.sink = j.sink.write ns → Modest p ns →
      counted .enter ns + 3 ≤ p.height + 3 * counted .terminal ns → Grows p j (.ok (), k)
  | error {e : Raised} {k : Analyser σ Journal} (ns : List Notice) :
      k.sink = j.sink.write ns → Modest p ns →
        counted .enter ns ≤ p.height + 3 * counted .terminal ns → Grows p j (.error e, k)

/-- What is written when a terminal comes up. -/
theorem accept_writes [Supply σ] (s : Symbol) (j : Analyser σ Journal) :
    (j.lookahead.symbol = s
        ∧ (accept s j).2.sink = j.sink.write [.event (.terminal j.lookahead)])
      ∨ ∃ e message, (accept s j).1 = .error e
        ∧ (accept s j).2.sink = j.sink.write [.mismatch j.lookahead message] := by
  by_cases hs : j.lookahead.symbol = s
  · refine .inl ⟨hs, ?_⟩
    rcases hpull : Supply.pull j.supply with ⟨e | t, u⟩
    · rw [accept_of_fault hs hpull]
      rfl
    · rw [accept_of_pull hs hpull]
      rfl
  · rw [accept_of_ne hs, mismatch_wrote]
    exact .inr ⟨_, _, rfl, rfl⟩

namespace Grows

variable {x y : Action σ Journal}

theorem mismatch (expected : String) : Grows p j (Analyser.mismatch expected j) := by
  rw [mismatch_wrote]
  exact .error [.mismatch j.lookahead (j.message expected j.lookahead)] rfl ⟨rfl, fun _ => nofun⟩
    (Nat.zero_le _)

theorem accept [Supply σ] (s : Symbol) : Grows (.terminal s) j (Analyser.accept s j) := by
  have hmodest (hs : j.lookahead.symbol = s) :
      Modest (.terminal s) [.event (.terminal j.lookahead)] := by
    subst hs
    exact ⟨rfl, fun hend => List.forall_mem_singleton.2 hend⟩
  rcases h : Analyser.accept s j with ⟨e | _, k⟩
  all_goals
    rcases accept_writes s j with ⟨hs, hsink⟩ | ⟨e', message, herror, hsink⟩
    all_goals rw [h] at hsink
  · exact .error _ hsink (hmodest hs) (Nat.zero_le _)
  · exact .error _ hsink ⟨rfl, fun _ => nofun⟩ (Nat.zero_le _)
  · exact .ok _ hsink (hmodest hs) (Nat.le_refl 3)
  · rw [h] at herror
    cases herror

/-- **One part behind another.** A first part that takes nothing leaves the height to the
second; one that takes something leaves as much to spare as the second may need. -/
theorem andThen (hx : Grows p j (x j)) (hy : ∀ k, Grows q k (y k))
    (hheight : p.height ≤ r.height) (hheight' : p.nullable = true → q.height ≤ r.height)
    (hnull : p.nullable = true → q.nullable = true → r.nullable = true)
    (hend : r.mentionsEnd = false → p.mentionsEnd = false ∧ q.mentionsEnd = false) :
    Grows r j (Action.andThen x y j) := by
  unfold Action.andThen
  generalize x j = result at hx
  cases hx with
  | error ns hsink hmodest hle =>
    exact .error ns hsink (hmodest.mono fun h => (hend h).1) (by omega)
  | @nothing k hp hsink =>
    have hle := hheight' hp
    have hq := hy k
    dsimp only
    generalize y k = result at hq
    cases hq with
    | nothing hq hsink' => exact .nothing (hnull hp hq) (hsink'.trans hsink)
    | ok ns hsink' hmodest hgrows =>
      exact .ok ns (hsink ▸ hsink') (hmodest.mono fun h => (hend h).2) (by omega)
    | error ns hsink' hmodest hgrows =>
      exact .error ns (hsink ▸ hsink') (hmodest.mono fun h => (hend h).2) (by omega)
  | @ok k ns hsink hmodest hgrows =>
    have hle := q.height_le
    have hq := hy k
    have hboth (ns' : List Notice) : k.sink.write ns' = j.sink.write (ns ++ ns') := by
      rw [hsink, Journal.write_write]
    dsimp only
    generalize y k = result at hq
    cases hq with
    | nothing hq hsink' =>
      exact .ok ns (hsink'.trans hsink) (hmodest.mono fun h => (hend h).1) (by omega)
    | ok ns' hsink' hmodest' hgrows' =>
      refine .ok (ns ++ ns') (hsink'.trans (hboth ns')) (hmodest.append hmodest' hend) ?_
      rw [counted_append, counted_append]
      omega
    | error ns' hsink' hmodest' hgrows' =>
      refine .error (ns ++ ns') (hsink'.trans (hboth ns')) (hmodest.append hmodest' hend) ?_
      rw [counted_append, counted_append]
      omega

theorem mono (h : Grows p j (x j)) (hheight : p.height ≤ r.height)
    (hnull : p.nullable = true → r.nullable = true)
    (hend : r.mentionsEnd = false → p.mentionsEnd = false) : Grows r j (x j) := by
  generalize x j = result at h
  cases h with
  | nothing hp hsink => exact .nothing (hnull hp) hsink
  | ok ns hsink hmodest hgrows => exact .ok ns hsink (hmodest.mono hend) (by omega)
  | error ns hsink hmodest hgrows => exact .error ns hsink (hmodest.mono hend) (by omega)

theorem seq (hx : Grows p j (x j)) (hy : ∀ k, Grows q k (y k)) :
    Grows (.seq p q) j (Action.andThen x y j) := by
  refine hx.andThen hy ?_ (fun hp => ?_) (fun hp hq => ?_) fun h => ?_
  · rw [Phrase.height]
    split <;> omega
  · rw [Phrase.height, if_pos hp]
    omega
  · rw [Phrase.nullable, hp, hq]
    rfl
  · rwa [Phrase.mentionsEnd, Bool.or_eq_false_iff] at h

theorem alt (symbols : List Symbol) (hx : Grows p j (x j)) (hy : Grows q j (y j)) :
    Grows (.alt p q) j (Action.ifNext symbols x y j) := by
  unfold Action.ifNext
  split
  · refine hx.mono ?_ (fun hp => ?_) fun h => ?_
    · exact Nat.le_max_left ..
    · rw [Phrase.nullable, hp, Bool.true_or]
    · rw [Phrase.mentionsEnd, Bool.or_eq_false_iff] at h
      exact h.1
  · refine hy.mono ?_ (fun hq => ?_) fun h => ?_
    · exact Nat.le_max_right ..
    · rw [Phrase.nullable, hq, Bool.or_true]
    · rw [Phrase.mentionsEnd, Bool.or_eq_false_iff] at h
      exact h.2

theorem star (symbols : List Symbol) (hx : Grows p j (x j)) (hy : ∀ k, Grows (.star p) k (y k)) :
    Grows (.star p) j (Action.ifNext symbols (Action.andThen x y) Action.done j) := by
  unfold Action.ifNext
  split
  · exact hx.andThen hy (Nat.le_refl _) (fun _ => Nat.le_refl _) (fun _ _ => rfl) fun h => ⟨h, h⟩
  · exact .nothing rfl rfl

/-- **A rule is one more**, and stands one level above what it may begin with. -/
theorem bracket (r : Rule) (hx : ∀ k, Grows r.production k (x k)) :
    Grows (.rule r) j (Analyser.bracket r x j) := by
  have hheight := r.height_production_lt
  have hbody := hx (j.wrote [.event (.enter r.label)])
  unfold Analyser.bracket
  rw [notify_wrote]
  dsimp only
  generalize x (j.wrote [.event (.enter r.label)]) = result at hbody
  have hsink {k : Analyser σ Journal} {ns : List Notice}
      (h : k.sink = (j.wrote [.event (.enter r.label)]).sink.write ns) :
      (k.wrote [.event (.exit r.label)]).sink
        = j.sink.write (.event (.enter r.label) :: (ns ++ [.event (.exit r.label)])) := by
    show k.sink.write _ = _
    rw [h]
    show ((j.sink.write _).write ns).write _ = _
    rw [Journal.write_write, Journal.write_write]
    rfl
  have haround (ns : List Notice) := counted_around ns r.label
  cases hbody with
  | nothing hnull =>
    rw [r.nullable_production] at hnull
    cases hnull
  | ok ns h hmodest hgrows =>
    dsimp only
    rw [notify_wrote]
    refine .ok _ (hsink h) hmodest.bracket ?_
    rw [(haround ns).1, (haround ns).2.2, Phrase.height]
    omega
  | error ns h hmodest hgrows =>
    dsimp only
    rw [notify_wrote]
    refine .error _ (hsink h) hmodest.bracket ?_
    rw [(haround ns).1, (haround ns).2.2, Phrase.height]
    omega

theorem lockstep [Supply σ] : Lockstep (fun p x _ => ∀ j, Grows p j (x j) :
    Phrase → Action σ Journal → Action σ Journal → Prop) where
  tooDeep _ j := .error [] j.sink.write_nil.symm ⟨rfl, fun _ => nofun⟩ (Nat.zero_le _)
  empty _ := .nothing rfl rfl
  unmet expected _ := mismatch expected
  terminal s _ := accept s
  rule h _ := bracket _ h
  seq h h' j := seq (h j) h'
  alt h h' j := alt _ (h j) (h' j)
  star h h' j := star _ (h j) h'

end Grows

end Analyser

/-! ## What a supply has to say -/

namespace Supply

variable {σ : Type} [Supply σ]

/-- **No more tokens than that come before the first end of the input.** -/
def EndsWithin (n : ℕ) (s : σ) : Prop :=
  ∀ ts u, Yields s ts u → (∀ t ∈ ts, t.isEof = false) → ts.length ≤ n

/-- The supply raises no fault. -/
def NeverRaises (s : σ) : Prop := ∀ ts u, Yields s ts u → ∃ t v, pull u = (.ok t, v)

/-- A supply that keeps its promise does not come to more than it has promised. -/
theorem endsWithin_pending [LawfulSupply σ] (s : σ) : EndsWithin (pending s) s := by
  intro ts u hyields hts
  have hle := hyields.pending_add_length_le hts
  omega

end Supply

namespace Analyser

variable {σ τ : Type} [Supply σ] {supply : σ} {sink : τ} {sourceName : String}
  {a : Analyser σ τ}

/-- An analyser has taken its lookahead when it was made. -/
theorem pull_of_start (h : start supply sink sourceName = .ok a) :
    Supply.pull supply = (.ok a.lookahead, a.supply) ∧ a.sink = sink := by
  unfold start at h
  rcases hpull : Supply.pull supply with ⟨e | t, s⟩
  all_goals rw [hpull] at h
  · cases h
  · obtain rfl := Except.ok.inj h
    exact ⟨rfl, rfl⟩

/-- **A supply that keeps its promise** has promised enough when the first token was taken. -/
theorem endsWithin_of_start [LawfulSupply σ] (h : start supply sink sourceName = .ok a) :
    Supply.EndsWithin (Supply.pending a.supply + 1) supply := by
  obtain ⟨hpull, -⟩ := pull_of_start h
  intro ts u hyields hts
  cases hyields with
  | nil => exact Nat.zero_le _
  | cons hpull' hrest =>
    obtain ⟨-, rfl⟩ := Prod.mk.inj (hpull.symm.trans hpull')
    exact Nat.succ_le_succ (Supply.endsWithin_pending _ _ _ hrest (List.forall_mem_cons.1 hts).2)

/-- **What is accepted was delivered**, in the checking of a phrase. -/
theorem Runs.yields {D : Prop} {p : Phrase} {j : Analyser σ Journal}
    {result : Outcome × Analyser σ Journal} (h : Runs D p j result)
    (hpull : Supply.pull supply = (.ok j.lookahead, j.supply)) :
    ∃ ns u, result.2.sink = j.sink.write ns
      ∧ Supply.Yields supply (ns.filterMap Notice.token?) u := by
  -- along a course the accepted tokens and the lookahead are those that were delivered
  have hcourse {k : Analyser σ Journal} {ns : List Notice} (hk : Course j ns k) :
      Supply.Yields supply (ns.filterMap Notice.token? ++ [k.lookahead]) k.supply := by
    obtain ⟨ts, hyields, htokens⟩ := hk.yields
    rw [htokens]
    exact .cons hpull hyields
  cases h with
  | ok _ hk =>
    obtain ⟨u, hu, -⟩ := (hcourse hk).of_append
    exact ⟨_, u, hk.sink_eq, hu⟩
  | error hfails =>
    cases hfails with
    | @intro ns stop k l origin rules hk hopen hhalts =>
      have hsink := hhalts.sink_wrote_exits hk rules
      have htokens : (ns ++ stop ++ exits rules).filterMap Notice.token?
          = ns.filterMap Notice.token? ++ stop.filterMap Notice.token? := by
        rw [List.filterMap_append, filterMap_exits, List.append_nil, List.filterMap_append]
      have hyields := hcourse hk
      suffices hstop : ∃ u, Supply.Yields supply
          (ns.filterMap Notice.token? ++ stop.filterMap Notice.token?) u by
        obtain ⟨u, hu⟩ := hstop
        exact ⟨_, u, hsink, htokens ▸ hu⟩
      cases hhalts with
      | mismatch | tooDeep =>
        obtain ⟨u, hu, -⟩ := hyields.of_append
        exact ⟨u, (List.append_nil _).symm ▸ hu⟩
      | supply => exact ⟨k.supply, hyields⟩

end Analyser

/-! ## The check of a program -/

namespace Call

section Journal

variable {σ τ : Type} [Supply σ]

theorem counted_closing {kind : Hook} (hkind : kind ≠ .success) (c : Call) (o : Outcome) :
    counted kind (c.closing o) = 0 := by
  unfold closing
  split
  · rw [counted_cons, counted_nil, Nat.zero_add, if_neg]
    exact fun h => hkind (eq_of_beq h).symm
  · rfl

/-- What is told in a call: what is told in the checking of its phrase, and the closing. -/
theorem exists_notices_eq (c : Call) {a : Analyser σ τ} {ns : List Notice}
    (h : (c.check a.journaled).2.sink = a.journaled.sink.write ns) :
    ∃ o, c.notices a = ns ++ c.closing o := by
  refine ⟨(c.check a.journaled).1, ?_⟩
  rw [notices, run_eq_check]
  show (c.check a.journaled).2.sink.notices ++ _ = _
  rw [h]
  rfl

/-- **A check accepts what was delivered.** -/
theorem yields_notices (c : Call) {a : Analyser σ τ} {supply : σ}
    (hpull : Supply.pull supply = (.ok a.lookahead, a.supply)) :
    ∃ u, Supply.Yields supply ((c.notices a).filterMap Notice.token?) u := by
  obtain ⟨ns, u, hsink, hyields⟩ := (c.runs_check a.journaled).yields hpull
  obtain ⟨o, hnotices⟩ := c.exists_notices_eq hsink
  rw [hnotices, List.filterMap_append, filterMap_closing, List.append_nil]
  exact ⟨u, hyields⟩

/-- **A statement part and the end of the input** behind it. Only the last token that is
accepted may be the end of the input. -/
theorem grows_check_program (j : Analyser σ Journal) :
    ∃ ns, (program.check j).2.sink = j.sink.write ns
      ∧ counted .exit ns = counted .enter ns
      ∧ counted .enter ns ≤ 3 * counted .terminal ns + 1
      ∧ ∀ t ∈ (ns.filterMap Notice.token?).dropLast, t.isEof = false := by
  have hpart : Analyser.Grows (.rule .statementPart) j (Analyser.checkRule .statementPart j) :=
    Analyser.Grows.lockstep.follow _ (.rule .statementPart) _
  have hheight : (Phrase.rule .statementPart).height = 1 := rfl
  show ∃ ns, (Action.andThen (Analyser.checkRule .statementPart) (Analyser.accept .eof) j).2.sink
    = _ ∧ _
  unfold Action.andThen
  generalize Analyser.checkRule .statementPart j = result at hpart
  cases hpart with
  | nothing hnull => cases hnull
  | error ns hsink hmodest hgrows =>
    exact ⟨ns, hsink, hmodest.exit_eq, by omega, fun t ht =>
      hmodest.not_eof rfl t ((List.dropLast_sublist _).subset ht)⟩
  | @ok k ns hsink hmodest hgrows =>
    obtain ⟨last, hlast, henter, hexit, hfew⟩ : ∃ last,
        (Analyser.accept .eof k).2.sink = k.sink.write last
          ∧ counted .enter last = 0 ∧ counted .exit last = 0
          ∧ (last.filterMap Notice.token?).length ≤ 1 := by
      rcases Analyser.accept_writes .eof k with ⟨-, hlast⟩ | ⟨e, message, -, hlast⟩
      · exact ⟨_, hlast, rfl, rfl, Nat.le_refl 1⟩
      · exact ⟨_, hlast, rfl, rfl, Nat.zero_le 1⟩
    rw [hsink, Journal.write_write] at hlast
    refine ⟨ns ++ last, hlast, ?_, ?_, fun t ht => ?_⟩
    · rw [counted_append, counted_append, hmodest.exit_eq, henter, hexit]
    · rw [counted_append, counted_append, henter]
      omega
    · -- at most the last token is not one of the statement part
      rw [List.filterMap_append, List.dropLast_eq_take, List.length_append,
        List.take_append_of_le_length (by omega)] at ht
      exact hmodest.not_eof rfl t (List.mem_of_mem_take ht)

/-- **The check of a program enters three rules at most for each token that it accepts**, and
one more. -/
theorem grows_program (a : Analyser σ τ) :
    counted .exit (program.notices a) = counted .enter (program.notices a)
      ∧ counted .enter (program.notices a) ≤ 3 * counted .terminal (program.notices a) + 1
      ∧ ∀ t ∈ ((program.notices a).filterMap Notice.token?).dropLast, t.isEof = false := by
  obtain ⟨ns, hsink, hns⟩ := grows_check_program a.journaled
  obtain ⟨o, hnotices⟩ := program.exists_notices_eq hsink
  rw [hnotices, counted_append, counted_append, counted_append, List.filterMap_append,
    counted_closing (by decide), counted_closing (by decide), counted_closing (by decide),
    filterMap_closing, List.append_nil]
  exact hns

end Journal

variable {σ : Type} [Supply σ]

/-- **The check of a program ends soon.** The supply has at most `n` tokens before the first end
of the input, and the sink is a new record. -/
structure EndsSoon (supply : σ) (a : Analyser σ Sink) (n : ℕ) : Prop where
  /-- The rules do not go on for ever: with any greater depth the same is done. -/
  depth (d : ℕ) : a.depthBound ≤ d →
    Analyser.follow d (.rule .statementPart) a = Analyser.checkRule .statementPart a
  /-- There is no error but for a lookahead that does not fit or a fault of the supply. -/
  ends (e : Raised) : (program.run a).1 = .error e →
    (∃ t message, .mismatch t message ∈ program.notices a)
      ∨ ∃ ts u r v, Supply.Yields supply ts u ∧ Supply.pull u = (.error r, v)
        ∧ e.innermost = r.innermost
  /-- The pulls are counted at a meter, which makes no difference. -/
  watched : program.run a = ((program.run a.watched).1, (program.run a.watched).2.bare)
  /-- The first of the pulls is the one when the analyser was made. -/
  pulls : program.pulls a ≤ n + 2
  calls : program.calls a = answered (program.notices a)
  enter : counted .enter (program.notices a) ≤ 3 * counted .terminal (program.notices a) + 1
  exit : counted .exit (program.notices a) = counted .enter (program.notices a)
  record : ∃ r, (program.run a).2.sink = .recording r
    ∧ r.terminals.length = counted .terminal (program.notices a)
    ∧ r.events.size ≤ 7 * r.terminals.length + 2
  chain : Supply.NeverRaises supply → ∀ e, (program.run a).1 = .error e →
    e.chain.length ≤ 3 * counted .terminal (program.notices a) + 2

section EndsSoon

variable {supply : σ} {a : Analyser σ Sink} {n : ℕ}

/-- With a meter of what the supply delivers, one token more than is accepted is taken. -/
theorem pulls_program_le (hcalm : Calm a.sink)
    (hpull : Supply.pull supply = (.ok a.lookahead, a.supply)) (hn : Supply.EndsWithin n supply) :
    program.pulls a ≤ n + 2 := by
  obtain ⟨u, hyields⟩ := program.yields_notices hpull
  obtain ⟨-, -, heof⟩ := grows_program a
  rw [program.pulls_eq hcalm]
  cases htokens : (program.notices a).filterMap Notice.token? using List.reverseRecOn with
  | nil => exact Nat.le_add_left ..
  | append_singleton ts t =>
    rw [htokens] at hyields heof
    rw [List.dropLast_concat] at heof
    obtain ⟨v, hts, -⟩ := hyields.of_append
    have hle := hn ts v hts heof
    rw [List.length_append, List.length_singleton]
    omega

/-- The links of an error are the rules that were open, and the mismatch. -/
theorem length_chain_program_le (hcalm : Calm a.sink)
    (hpull : Supply.pull supply = (.ok a.lookahead, a.supply)) (hraises : Supply.NeverRaises supply)
    {e : Raised} (h : (program.run a).1 = .error e) :
    e.chain.length ≤ 3 * counted .terminal (program.notices a) + 2 := by
  obtain ⟨hexit, henter, -⟩ := grows_program a
  rw [program.run_eq_replay a hcalm] at h
  obtain ⟨ns, k, stop, origin, l, rules, hnotices, hcourse, hhalts, rfl⟩ :=
    program.notices_of_error a h
  have hrules : rules.length ≤ counted .exit (program.notices a) := by
    rw [hnotices, counted_append, counted_exit_exits]
    exact Nat.le_add_left ..
  obtain ⟨ts, hyields, -⟩ := hcourse.yields
  cases hhalts with
  | mismatch expected =>
    have hsyntactic : (mismatchError k.lookahead
      (k.message expected k.lookahead)).isSyntactic = true := rfl
    rw [(Analyser.wrapped_of_isSyntactic _ rules hsyntactic).2.2, List.length_append,
      List.length_map]
    show rules.length + 1 ≤ _
    omega
  | supply hfault =>
    obtain ⟨t, v, hok⟩ := hraises _ _ (.cons hpull hyields)
    rw [hok] at hfault
    cases hfault
  | tooDeep =>
    rw [Analyser.wrapped_of_not_isSyntactic _ rules rfl]
    exact Nat.le_add_left 1 _

/-- **The check of a program ends soon** if the supply has promised enough. -/
theorem endsSoon (hsink : a.sink = .recorder)
    (hpull : Supply.pull supply = (.ok a.lookahead, a.supply)) (hn : Supply.EndsWithin n supply)
    (hpromise : Supply.EndsWithin (Supply.pending a.supply + 1) supply) :
    EndsSoon supply a n := by
  have hcalm : Calm a.sink := hsink ▸ Sink.calm_recorder
  have hwithin : a.journaled.Within (Supply.pending a.journaled.supply + 1) :=
    fun ts u hyields hts => hpromise (a.lookahead :: ts) u (.cons hpull hyields) hts
  obtain ⟨hexit, henter, -⟩ := grows_program a
  have hfollow (d : ℕ) (p : Phrase) : Analyser.follow d p a
      = ((Analyser.follow d p a.journaled).1,
        (Analyser.follow d p a.journaled).2.replay a.sink) :=
    (Analyser.simulation_replay hcalm).lockstep.follow d p a.journaled
  refine ⟨fun d hd => ?_, fun e he => ?_, ?_, pulls_program_le hcalm hpull hn,
    program.calls_eq_answered hcalm, henter, hexit, ?_,
    fun hraises e he => length_chain_program_le hcalm hpull hraises he⟩
  · have hdepth := Analyser.checkRule_eq_follow_of_within .statementPart hwithin hd
    have hrule : Analyser.checkRule .statementPart a.journaled
      = Analyser.follow a.depthBound (.rule .statementPart) a.journaled := rfl
    rw [hfollow d, ← hdepth, hrule, ← hfollow]
    rfl
  · have hruns : Analyser.Runs False program.phrase a.journaled (program.check a.journaled) :=
      .seq (Analyser.runs_checkRule_of_within .statementPart hwithin) fun _ _ _ _ => .accept .eof
    rw [program.run_eq_replay a hcalm] at he
    obtain ⟨ns, k, stop, origin, l, rules, hnotices, hcourse, hhalts, rfl⟩ :=
      program.notices_of_runs a hruns he
    rw [Analyser.innermost_wrapped]
    cases hhalts with
    | mismatch expected =>
      refine .inl ⟨k.lookahead, k.message expected k.lookahead, ?_⟩
      rw [hnotices]
      exact List.mem_append_left _ (List.mem_append_right _ (List.mem_singleton_self _))
    | supply hfault =>
      obtain ⟨ts, hyields, -⟩ := hcourse.yields
      exact .inr ⟨_, _, _, _, .cons hpull hyields, hfault, rfl⟩
    | tooDeep hdeep => exact hdeep.elim
  · exact Analyser.simulation_bare.run program a.watched
  · have hrecord : (program.run a).2.sink
        = .recording ((program.notices a).foldl Recording.hear .empty) := by
      rw [program.run_eq_replay a hcalm]
      show sendAll (program.notices a) a.sink = _
      rw [hsink, Sink.recorder, sendAll_recording]
    have hterminals : ((program.notices a).foldl Recording.hear .empty).terminals.length
        = counted .terminal (program.notices a) := by
      rw [Recording.terminals_foldl_hear, counted_terminal]
      rfl
    have hevents : ((program.notices a).foldl Recording.hear .empty).events.size
        = counted .enter (program.notices a) + counted .exit (program.notices a)
          + counted .terminal (program.notices a) := by
      rw [← Array.length_toList, Recording.events_foldl_hear, ← length_filterMap_event?]
      rfl
    refine ⟨_, hrecord, hterminals, ?_⟩
    rw [hevents, hterminals]
    omega

end EndsSoon

end Call

/-- **Lexing and checking come to an end, and what they put out is linear.**

A text has no more tokens than characters, and behind them comes the end of the input or an
error. For every token that is delivered has a text, and every step in which a cursor moves over
a gap takes something.

Let an analyser be made over a supply that has at most `n` tokens before the first end of the
input, with a new record, and let the supply keep its promise: the bound that it tells behind
the first token covers what comes. Then the check of a program ends, takes at most `n + 2` tokens
or faults from the supply, and if it accepts `k` terminals, then it enters at most `3 * k + 1`
rules, leaves as many, has at most `7 * k + 2` events on record, and raises no error with more
than `3 * k + 2` links unless the supply has raised a fault. -/
theorem output_is_linear :
    (∀ text : String, ∃ ts l, Supply.Yields (Lexer.ofText text) ts l
      ∧ (∀ t ∈ ts, t.isEof = false ∧ t.text ≠ "") ∧ ts.length ≤ text.length
      ∧ ((∃ t, t.isEof = true ∧ tokensOf text = .ok (ts ++ [t]))
        ∨ ∃ e l', l.next = (.error e, l') ∧ tokensOf text = .error e))
      ∧ (∀ c : Cursor, c.rest = (skips c.rest).flatten ++ c.skipGap.rest
        ∧ ∀ x ∈ skips c.rest, x ≠ [])
      ∧ ∀ {σ : Type} [Supply σ] {supply : σ} {sourceName : String} {a : Analyser σ Sink} {n : ℕ},
        Analyser.start supply Sink.recorder sourceName = .ok a → Supply.EndsWithin n supply →
          Supply.EndsWithin (Supply.pending a.supply + 1) supply → Call.EndsSoon supply a n := by
  refine ⟨Lexer.exists_yields_tokensOf, fun c => ⟨c.rest_eq_skips, fun _ => ne_nil_of_mem_skips⟩,
    fun hstart hn hpromise => ?_⟩
  obtain ⟨hpull, hsink⟩ := Analyser.pull_of_start hstart
  exact Call.endsSoon hsink hpull hn hpromise

/-- Behind `begin x :=` there is no expression. Three terminals are accepted, seven rules are
entered, and the error has a link for each of these and one more. -/
theorem output_is_linear_assignment :
    let supply := TokenList.ofList [⟨.kwBegin, "begin", 1, 1⟩, ⟨.identifier, "x", 1, 7⟩,
      ⟨.becomes, ":=", 1, 9⟩, ⟨.kwEnd, "end", 1, 12⟩]
    let a : Analyser TokenList Sink := ⟨supply.next.2, .recorder, supply.next.1, "p"⟩
    let ns := Call.program.notices a
    Analyser.start supply Sink.recorder "p" = .ok a ∧ Supply.EndsWithin 4 supply
      ∧ Supply.EndsWithin (Supply.pending a.supply + 1) supply ∧ Supply.NeverRaises supply
      ∧ Call.EndsSoon supply a 4
      ∧ Call.program.pulls a = 4 ∧ counted .terminal ns = 3 ∧ counted .enter ns = 7
      ∧ (chainOf (Call.program.run a).1).length = 8
      ∧ ∃ ts l, Supply.Yields (Lexer.ofText "x--y") ts l ∧ ts.length ≤ 4 := by
  intro supply a ns
  obtain ⟨htokens, -, hsoon⟩ := output_is_linear
  have hstart : Analyser.start supply Sink.recorder "p" = .ok a := rfl
  have hn : Supply.EndsWithin 4 supply := Supply.endsWithin_pending supply
  have hpromise := Analyser.endsWithin_of_start hstart
  obtain ⟨ts, l, hyields, -, hle, -⟩ := htokens "x--y"
  exact ⟨hstart, hn, hpromise, fun _ _ _ => ⟨_, _, rfl⟩, hsoon hstart hn hpromise,
    by decide +kernel, by decide +kernel, by decide +kernel, by decide +kernel, ts, l, hyields, hle⟩

end SyntaxChecker
