import SyntaxChecker.Proofs.Analyser.Accord
import SyntaxChecker.Proofs.Analyser.Expectation
import SyntaxChecker.Proofs.Analyser.Lookahead

/-!
# Only symbols count

Of the tokens that it takes, a call regards nothing but the symbols; and of those that it
does not take, nothing at all. So a call does one and the same thing with any two inputs
whose tokens have the same symbols, as far as it takes them. What it does can be written down
without the tokens, as an `Account`: rules are entered and left, the next token is taken or
refused, and in the end certain constructs were expected or the call is content. Told with
the tokens of either input, the account is what the sink hears of that input and what the
call ends with (`Call.symbols_decide`).

An input may be endless. Then a supply cannot tell how deep the interpreter may have to go,
and it has to be said of the first call that it does not come to its greatest depth, and of
the second that it may go as deep. How much deeper it may go is no matter
(`Analyser.follow_eq_of_ne_tooDeep`). Of a supply that comes to an end as it promised,
nothing has to be said.
-/

namespace SyntaxChecker

open Listener

/-! ## More depth -/

namespace Analyser

/-- Two actions that do the same, unless the first comes to the greatest depth. -/
def Deepens {σ : Type} (x y : Action σ Journal) : Prop :=
  ∀ j, (x j).1 ≠ .error (Raised.fresh .tooDeep) → y j = x j

namespace Deepens

variable {σ : Type} {x y x' y' : Action σ Journal}

theorem refl (x : Action σ Journal) : Deepens x x := fun _ _ => rfl

theorem andThen (hx : Deepens x y) (hx' : Deepens x' y') :
    Deepens (Action.andThen x x') (Action.andThen y y') := by
  intro j h
  unfold Action.andThen at h ⊢
  rw [hx j fun hdeep => h (by rw [← Prod.eta (x j), hdeep])]
  rcases hj : x j with ⟨_ | _, k⟩
  · rfl
  · rw [hj] at h
    exact hx' k h

theorem ifNext (symbols : List Symbol) (hx : Deepens x y) (hx' : Deepens x' y') :
    Deepens (Action.ifNext symbols x x') (Action.ifNext symbols y y') := by
  intro j h
  unfold Action.ifNext at h ⊢
  by_cases hs : j.lookahead.symbol ∈ symbols
  · rw [if_pos hs] at h
    rw [if_pos hs, if_pos hs]
    exact hx j h
  · rw [if_neg hs] at h
    rw [if_neg hs, if_neg hs]
    exact hx' j h

/-- A rule passes on that the greatest depth was reached. -/
theorem bracket (r : Rule) (hx : Deepens x y) :
    Deepens (Analyser.bracket r x) (Analyser.bracket r y) := by
  intro j h
  unfold Analyser.bracket at h ⊢
  rw [notify_wrote] at h ⊢
  dsimp only at h ⊢
  rw [hx _ fun hdeep => h ?_]
  rw [← Prod.eta (x _), hdeep]
  dsimp only
  rw [notify_wrote]
  rfl

theorem lockstep [Supply σ] :
    Lockstep (fun _ => Deepens : Phrase → Action σ Journal → Action σ Journal → Prop) where
  tooDeep _ := .refl _
  empty := .refl _
  unmet _ := .refl _
  terminal _ := .refl _
  rule h := h.bracket _
  seq h h' := h.andThen h'
  alt h h' := h.ifNext _ h'
  star h h' := (h.andThen h').ifNext _ (.refl _)

end Deepens

/-- **What has not come to the greatest depth** is the same with more depth. -/
theorem follow_eq_of_ne_tooDeep {σ : Type} [Supply σ] {n m : ℕ} (hnm : n ≤ m) (p : Phrase)
    {j : Analyser σ Journal} (h : (follow n p j).1 ≠ .error (Raised.fresh .tooDeep)) :
    follow m p j = follow n p j := by
  have hdeepens : Deepens (follow n p) (follow m p : Action σ Journal) := by
    clear h j
    induction n generalizing m p with
    | zero => exact fun _ h => absurd rfl h
    | succ n ih =>
      cases m with
      | zero => exact absurd hnm (Nat.not_succ_le_zero n)
      | succ m => exact Deepens.lockstep.followWith (ih (Nat.le_of_succ_le_succ hnm)) p
  exact hdeepens j h

end Analyser

namespace Call

variable {σ σ' : Type} [Supply σ] [Supply σ']

/-- A call checks its phrase, if its rule is checked to that depth. -/
theorem check_eq_follow_of_rule (c : Call) {j : Analyser σ Journal} {n : ℕ} (hn : 0 < n)
    (h : ∀ r, Analyser.checkRule r j = Analyser.follow n (.rule r) j) :
    c.check j = Analyser.follow n c.phrase j := by
  obtain ⟨n, rfl⟩ := Nat.exists_eq_add_of_lt hn
  cases c with
  | program =>
    show Action.andThen (Analyser.checkRule _) _ j
      = Action.andThen (Analyser.follow (0 + n + 1) (.rule .statementPart)) (Analyser.accept .eof) j
    unfold Action.andThen
    rw [h]
  | rule r => exact h r
  | terminal s => rfl

theorem check_eq_follow (c : Call) (j : Analyser σ Journal) :
    c.check j = Analyser.follow j.depthBound c.phrase j :=
  c.check_eq_follow_of_rule (Nat.mul_pos (by decide) (Nat.succ_pos _)) fun _ => rfl

/-- For a supply that keeps its promise any greater depth will do. -/
theorem check_eq_follow_of_le [LawfulSupply σ] (c : Call) {j : Analyser σ Journal} {n : ℕ}
    (hn : j.depthBound ≤ n) : c.check j = Analyser.follow n c.phrase j :=
  c.check_eq_follow_of_rule
    (Nat.lt_of_lt_of_le (Nat.mul_pos (by decide) (Nat.succ_pos _)) hn) fun r =>
      Analyser.checkRule_eq_follow r j hn

open Analyser in
/-- **Two calls accord** if the first does not come to the greatest depth and the second may
go as deep. -/
theorem accords_check (c : Call) {n : ℕ} {f f' : Stream' Token} {j : Analyser σ Journal}
    {j' : Analyser σ' Journal} (h : Twins n f f' j j')
    (hends : (c.check j).1 ≠ .error (Raised.fresh .tooDeep))
    (hdepth : LawfulSupply σ' ∨ j.depthBound ≤ j'.depthBound) :
    Accords n f f' j j' (c.check j) (c.check j') := by
  rw [check_eq_follow] at hends
  have hfirst : c.check j = follow (max j.depthBound j'.depthBound) c.phrase j := by
    rw [check_eq_follow, follow_eq_of_ne_tooDeep (Nat.le_max_left ..) _ hends]
  have hsecond : c.check j' = follow (max j.depthBound j'.depthBound) c.phrase j' := by
    rcases hdepth with hlaw | hle
    · exact check_eq_follow_of_le c (Nat.le_max_right ..)
    · rw [check_eq_follow, Nat.max_eq_right hle]
  rw [hfirst, hsecond]
  exact (InAccord.lockstep.follow _ c.phrase).accords _ _ _ _ _ h

end Call

/-! ## Accounts -/

/-- A step of a call, without the token that it is about. -/
inductive Step where
  | enter (label : String)
  | exit (label : String)
  /-- The next token is accepted. -/
  | take
  /-- The next token is not what was expected. -/
  | refuse (expected : String)
  deriving DecidableEq, Repr

/-- What the sink hears of some steps, if these are the tokens that come next, and `t` is the
one that is refused. -/
def Step.tell (sourceName : String) (t : Token) : List Step → Stream' Token → List Notice
  | [], _ => []
  | enter label :: steps, f => .event (.enter label) :: tell sourceName t steps f
  | exit label :: steps, f => .event (.exit label) :: tell sourceName t steps f
  | take :: steps, f => .event (.terminal f.head) :: tell sourceName t steps f.tail
  | refuse expected :: steps, f =>
    .mismatch t (errorMessage sourceName t.line expected t.found) :: tell sourceName t steps f

/-- **Alike notices tell of the same steps**, in whatever stream they are about what is taken
from it. -/
theorem exists_steps {sourceName : String} {f f' g g' : Stream' Token} {t t' : Token} {m : ℕ}
    {ns ns' : List Notice} (h : List.Forall₂ (Notice.Alike sourceName f f') ns ns')
    (htokens : ns.filterMap Notice.token? = g.take m)
    (htokens' : ns'.filterMap Notice.token? = g'.take m)
    (hrefused : ∀ u message, .mismatch u message ∈ ns → u = t)
    (hrefused' : ∀ u message, .mismatch u message ∈ ns' → u = t') :
    ∃ steps : List Step, steps.count .take = m
      ∧ ns = Step.tell sourceName t steps g ∧ ns' = Step.tell sourceName t' steps g' := by
  induction h generalizing g g' m with
  | nil =>
    obtain rfl : m = 0 := by simpa using (congrArg List.length htokens).symm
    exact ⟨[], rfl, rfl, rfl⟩
  | @cons n n' ns ns' halike _ ih =>
    have hrest := fun u message hmem => hrefused u message (List.mem_cons_of_mem n hmem)
    have hrest' := fun u message hmem => hrefused' u message (List.mem_cons_of_mem n' hmem)
    cases halike with
    | @event e he =>
      rw [List.filterMap_cons_none (show Notice.token? (.event e) = none from he)]
        at htokens htokens'
      obtain ⟨steps, hcount, rfl, rfl⟩ := ih htokens htokens' hrest hrest'
      cases e with
      | enter label => exact ⟨.enter label :: steps, by simpa using hcount, rfl, rfl⟩
      | exit label => exact ⟨.exit label :: steps, by simpa using hcount, rfl, rfl⟩
      | terminal => cases he
    | terminal i =>
      rw [List.filterMap_cons_some (show Notice.token? (.event (.terminal _)) = some _ from rfl)]
        at htokens htokens'
      cases m with
      | zero => cases htokens
      | succ m =>
        rw [Stream'.take_succ] at htokens htokens'
        obtain ⟨hhead, htokens⟩ := List.cons.inj htokens
        obtain ⟨hhead', htokens'⟩ := List.cons.inj htokens'
        obtain ⟨steps, hcount, rfl, rfl⟩ := ih htokens htokens' hrest hrest'
        refine ⟨.take :: steps, ?_, ?_, ?_⟩
        · rw [List.count_cons_self, hcount]
        · rw [Step.tell, ← hhead]
        · rw [Step.tell, ← hhead']
    | mismatch i expected =>
      rw [List.filterMap_cons_none rfl] at htokens htokens'
      obtain ⟨steps, hcount, rfl, rfl⟩ := ih htokens htokens' hrest hrest'
      refine ⟨.refuse expected :: steps, by simpa using hcount, ?_, ?_⟩
      · rw [Step.tell, hrefused _ _ List.mem_cons_self]
      · rw [Step.tell, hrefused' _ _ List.mem_cons_self]

/-- **An account of a call**: its steps, and what the errors of its chain expected, outermost
first. There are none if the call ends well. -/
structure Account where
  steps : List Step
  expected : List String
  deriving DecidableEq, Repr

/-- How many tokens are accepted. -/
def Account.taken (x : Account) : ℕ := x.steps.count .take

/-- The errors that an outcome consists of, outermost first. -/
def chainOf : Outcome → List Fault
  | .ok () => []
  | .error e => e.chain

namespace Call

variable {σ τ σ' τ' : Type} [Supply σ] [Listener τ] [Supply σ'] [Listener τ']

/-- How many tokens are taken from the supply until the call has ended, with the lookahead that
was there from the beginning. -/
def pulls (c : Call) (a : Analyser σ τ) : ℕ := (c.run a.watched).2.supply.pulls.length

end Call

/-- **A call gives an account** of the tokens of a stream. It takes one more than it
accepts, and the last is the lookahead that is left and the one that all errors are about. -/
structure Account.Tells {σ τ : Type} [Supply σ] [Listener τ] (x : Account) (c : Call)
    (a : Analyser σ τ) (f : Stream' Token) : Prop where
  pulls : c.pulls a = x.taken + 1
  lookahead : (c.run a).2.lookahead = f.get x.taken
  calls : c.calls a = answered (Step.tell a.sourceName (f.get x.taken) x.steps f
    ++ c.closing (c.run a).1)
  chain : chainOf (c.run a).1 = x.expected.map fun expected =>
    let t := f.get x.taken
    .grammar ⟨errorMessage a.sourceName t.line expected t.found, some t, none⟩

/-- The errors of the rules that are left by a mismatch. -/
theorem chain_wrapped_mismatch {σ τ : Type} (b : Analyser σ τ) (rules : List Rule)
    {sourceName : String} (hname : sourceName = b.sourceName) (expected : String) :
    chainOf (.error (b.wrapped rules (mismatchError b.lookahead
        (errorMessage sourceName b.lookahead.line expected b.lookahead.found))))
      = (rules.map Rule.expectation ++ [expected]).map fun expected =>
        .grammar ⟨errorMessage b.sourceName b.lookahead.line expected b.lookahead.found,
          some b.lookahead, none⟩ := by
  subst hname
  show (b.wrapped rules _).chain = _
  rw [(b.wrapped_of_isSyntactic rules rfl).2.2, List.map_append, List.map_map]
  rfl

namespace Call

variable {σ τ σ' τ' : Type} [Supply σ] [Listener τ] [Supply σ'] [Listener τ']

omit [Listener τ] in
/-- Meter and logbook do not change what a sink hears. -/
theorem notices_watched (c : Call) (a : Analyser σ τ) : c.notices a.watched = c.notices a :=
  (congrArg (fun result : Outcome × Analyser σ Journal => result.2.sink.notices)
    (Analyser.simulation_unmetered.run c a.watched.journaled)).symm

/-- One token is taken ahead of those that are accepted. -/
theorem pulls_eq (c : Call) {a : Analyser σ τ} (hs : Calm a.sink) :
    c.pulls a = 1 + ((c.notices a).filterMap Notice.token?).length := by
  have hahead := (Analyser.Ahead.stepsKeep fun ns t => hs ns (.event (.terminal t))).run c _
    (Analyser.Ahead.watched a)
  have hcalls : (c.run a.watched).2.sink.calls = answered (c.notices a) := by
    rw [c.run_eq_replay a.watched (Logbook.calm hs)]
    show (sendAll (c.notices a.watched) (Logbook.mk a.sink [])).calls = _
    rw [Logbook.sendAll_of_calm hs, c.notices_watched a]
    rfl
  have hcount := hahead.count
  rw [hcalls] at hcount
  rw [pulls, hcount, acceptedTokens, answered, List.filterMap_map]
  rfl

section Past

variable {c : Call} {a : Analyser σ τ} {f : Stream' Token} {m : ℕ} {ns : List Notice} {o : Outcome}

omit [Listener τ] in
theorem notices_of_check (h : c.check a.journaled = (o, a.journaled.past f m ns)) :
    c.notices a = ns ++ c.closing o := by
  rw [notices, run_eq_check, h]
  rfl

/-- What is told of a call is an account of it. -/
theorem tells_of_check (hs : Calm a.sink)
    (h : c.check a.journaled = (o, a.journaled.past f m ns)) {x : Account}
    (htaken : x.taken = m) (hns : ns = Step.tell a.sourceName (f.get m) x.steps f)
    (htokens : ns.filterMap Notice.token? = f.take m)
    (hchain : chainOf o = x.expected.map fun expected =>
      .grammar ⟨errorMessage a.sourceName (f.get m).line expected (f.get m).found,
        some (f.get m), none⟩) : x.Tells c a f := by
  subst htaken
  have hrun : c.run a = (o, ((c.check a.journaled).2.wrote (c.closing o)).replay a.sink) := by
    rw [c.run_eq_replay a hs, run_eq_check, h]
  refine ⟨?_, ?_, ?_, ?_⟩
  · rw [pulls_eq c hs, notices_of_check h, List.filterMap_append, filterMap_closing, htokens,
      List.append_nil, Stream'.length_take, Nat.add_comm]
  · rw [hrun, h]
    rfl
  · rw [calls_eq_answered c hs, notices_of_check h, hrun, hns]
  · rw [hrun]
    exact hchain

omit [Listener τ] in
/-- A call that ends with an error about a token refuses no other token. -/
theorem eq_of_mismatch_mem {b : Analyser σ Journal} {rules : List Rule} {t u : Token}
    {message message' : String} (ho : o = .error (b.wrapped rules (mismatchError t message)))
    (h : c.check a.journaled = (o, a.journaled.past f m ns))
    (hmem : .mismatch u message' ∈ ns) : u = t := by
  have hnotice : .mismatch u message' ∈ c.notices a := by
    rw [notices_of_check h]
    exact List.mem_append_left _ hmem
  obtain ⟨e, he, hinner⟩ := c.error_of_mismatch a hnotice
  rw [run_eq_check, h, ho] at he
  obtain rfl := Except.error.inj he
  rw [(b.wrapped_of_isSyntactic rules rfl).2.1] at hinner
  exact (Option.some.inj (GrammarError.mk.inj (Fault.grammar.inj hinner)).2.1).symm

omit [Listener τ] in
/-- A call that ends well refuses no token. -/
theorem not_mismatch_mem (h : c.check a.journaled = (.ok (), a.journaled.past f m ns)) {u : Token}
    {message : String} : .mismatch u message ∉ ns := by
  intro hmem
  have hnotice : .mismatch u message ∈ c.notices a := by
    rw [notices_of_check h]
    exact List.mem_append_left _ hmem
  refine c.hook_ne_mismatch_of_ok a ?_ _ hnotice rfl
  rw [run_eq_check, h]

end Past

/-- A supply that keeps its promise and raises no fault does not lead to the greatest
depth. -/
theorem run_ne_tooDeep [LawfulSupply σ] (c : Call) {a : Analyser σ τ} {f : Stream' Token}
    (ha : a.Faces f) (hs : Calm a.sink) : (c.run a).1 ≠ .error (Raised.fresh .tooDeep) := by
  intro hdeep
  rw [c.run_eq_replay a hs] at hdeep
  obtain ⟨t, message, hmem⟩ := c.mismatch_of_error a ha.supply hdeep
  obtain ⟨e, he, hinner⟩ := c.error_of_mismatch a hmem
  obtain rfl := Except.error.inj (hdeep.symm.trans he)
  cases hinner

/-- **Only symbols count.** Let the tokens that two analysers face have the same symbols, as
far as the first takes them in a call. Then the second takes as many in that call, and there
is one account of both. So both sinks hear the same, each with the tokens of its own input,
and both calls end well or fail in the same way, each with messages about the last token that
it has taken. -/
theorem symbols_decide (c : Call) {a : Analyser σ τ} {a' : Analyser σ' τ'} {f f' : Stream' Token}
    (ha : a.Faces f) (ha' : a'.Faces f') (hs : Calm a.sink) (hs' : Calm a'.sink)
    (hname : a.sourceName = a'.sourceName)
    (hends : LawfulSupply σ ∨ (c.run a).1 ≠ .error (Raised.fresh .tooDeep))
    (hdepth : LawfulSupply σ' ∨ a.depthBound ≤ a'.depthBound)
    (hsymbols : ∀ i < c.pulls a, (f.get i).symbol = (f'.get i).symbol) :
    c.pulls a' = c.pulls a ∧ ∃ x : Account, x.Tells c a f ∧ x.Tells c a' f' := by
  suffices h : ∃ x : Account, x.Tells c a f ∧ x.Tells c a' f' by
    obtain ⟨x, hx, hx'⟩ := h
    exact ⟨hx'.pulls.trans hx.pulls.symm, x, hx, hx'⟩
  have hpulls := pulls_eq c hs
  have htwins : Analyser.Twins (c.pulls a - 1) f f' a.journaled a'.journaled := by
    have hfaces : a.journaled.Faces f := ⟨ha.lookahead, ha.supply⟩
    have hfaces' : a'.journaled.Faces f' := ⟨ha'.lookahead, ha'.supply⟩
    exact ⟨hfaces.facesFor _, hfaces'.facesFor _, fun i hi => hsymbols i (by omega), hname⟩
  have hends : (c.check a.journaled).1 ≠ .error (Raised.fresh .tooDeep) := by
    have hends := hends.elim (fun _ => c.run_ne_tooDeep ha hs) id
    rwa [c.run_eq_replay a hs, run_eq_check] at hends
  have haccords := c.accords_check htwins hends hdepth
  generalize hresult : c.check a.journaled = result at haccords hends
  generalize hresult' : c.check a'.journaled = result' at haccords
  cases haccords with
  | apart hpass =>
    -- as many tokens are accepted as were taken, and that cannot be
    obtain ⟨ns, hsink, htake⟩ := hpass
    have hheard : (c.notices a).filterMap Notice.token? = ns.filterMap Notice.token? := by
      rw [notices, run_eq_check, hresult]
      show (result.2.sink.write _).notices.filterMap _ = _
      rw [hsink]
      show (ns ++ c.closing result.1).filterMap _ = _
      rw [List.filterMap_append, filterMap_closing, List.append_nil]
    have hle := htake.length_le
    rw [← hheard, Stream'.length_take] at hle
    omega
  | @ok m ns ns' hm htokens htokens' halike =>
    have hrefused : ∀ u message, .mismatch u message ∈ ns → u = f.get m :=
      fun _ _ hmem => absurd hmem (not_mismatch_mem hresult)
    have hrefused' : ∀ u message, .mismatch u message ∈ ns' → u = f'.get m :=
      fun _ _ hmem => absurd hmem (not_mismatch_mem hresult')
    obtain ⟨steps, hcount, hns, hns'⟩ :=
      exists_steps halike htokens htokens' hrefused hrefused'
    exact ⟨⟨steps, []⟩, tells_of_check hs hresult hcount hns htokens rfl,
      tells_of_check hs' hresult' hcount (hname ▸ hns') htokens' rfl⟩
  | @error m ns ns' r r' rules hm htokens htokens' halike hraised =>
    cases hraised with
    | tooDeep => exact absurd (congrArg _ (Analyser.wrapped_of_not_isSyntactic _ rules rfl)) hends
    | mismatch expected =>
      obtain ⟨steps, hcount, hns, hns'⟩ := exists_steps halike htokens htokens'
        (fun u message => eq_of_mismatch_mem rfl hresult)
        (fun u message => eq_of_mismatch_mem rfl hresult')
      exact ⟨⟨steps, rules.map Rule.expectation ++ [expected]⟩,
        tells_of_check hs hresult hcount hns htokens
          (chain_wrapped_mismatch (a.journaled.past f m []) rules rfl expected),
        tells_of_check hs' hresult' hcount (hname ▸ hns') htokens'
          (chain_wrapped_mismatch (a'.journaled.past f' m []) rules hname expected)⟩

/-- Two assignments without an expression, which are told to different sinks. In one of them
the input goes on behind the token that is refused. -/
theorem symbols_decide_assignment :
    let s := TokenList.ofList [⟨.identifier, "x", 1, 1⟩, ⟨.becomes, ":=", 1, 3⟩,
      ⟨.kwThen, "then", 1, 6⟩]
    let s' := TokenList.ofList [⟨.identifier, "total", 4, 2⟩, ⟨.becomes, ":=", 4, 8⟩,
      ⟨.kwThen, "THEN", 5, 1⟩, ⟨.semicolon, ";", 6, 1⟩]
    let a : Analyser TokenList Sink := ⟨Supply.after 1 s, Sink.recorder, s.stream.head, "p"⟩
    let a' : Analyser TokenList Sink := ⟨Supply.after 1 s', Sink.quiet, s'.stream.head, "p"⟩
    let c := Call.rule .assignmentStatement
    a.Faces s.stream ∧ a'.Faces s'.stream ∧ Calm a.sink ∧ Calm a'.sink
      ∧ (LawfulSupply TokenList ∨ (c.run a).1 ≠ .error (Raised.fresh .tooDeep))
      ∧ (LawfulSupply TokenList ∨ a.depthBound ≤ a'.depthBound)
      ∧ c.pulls a = 3 ∧ (∀ i < 3, (s.stream.get i).symbol = (s'.stream.get i).symbol)
      ∧ c.pulls a' = 3
      ∧ ∃ x : Account, x.Tells c a s.stream ∧ x.Tells c a' s'.stream := by
  intro s s' a a' c
  have ha : a.Faces s.stream := Analyser.faces_start s.delivers_stream _ _
  have ha' : a'.Faces s'.stream := Analyser.faces_start s'.delivers_stream _ _
  have hs : Calm a.sink := Sink.calm_recorder
  have hs' : Calm a'.sink := Sink.calm_of_discreet rfl
  have hends : LawfulSupply TokenList ∨ (c.run a).1 ≠ .error (Raised.fresh .tooDeep) :=
    .inl inferInstance
  have hdepth : LawfulSupply TokenList ∨ a.depthBound ≤ a'.depthBound := .inl inferInstance
  have hpulls : c.pulls a = 3 := rfl
  have hsymbols : ∀ i < 3, (s.stream.get i).symbol = (s'.stream.get i).symbol := by
    intro i hi
    match i, hi with
    | 0, _ | 1, _ | 2, _ => rfl
  obtain ⟨hsame, haccount⟩ := symbols_decide c ha ha' hs hs' rfl hends hdepth (hpulls ▸ hsymbols)
  exact ⟨ha, ha', hs, hs', hends, hdepth, hpulls, hsymbols, hsame.trans hpulls, haccount⟩

end Call

end SyntaxChecker
