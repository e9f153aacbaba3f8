import Mathlib.Data.List.Forall2
import SyntaxChecker.Proofs.Analyser.Depth
import SyntaxChecker.Proofs.Analyser.Origin
import SyntaxChecker.Proofs.Analyser.Prediction

/-!
# Two checks side by side

Let two analysers have tokens before them with the same symbols, as far as a certain
number of tokens. Whatever they are asked to check, one of two things happens. They
keep together: they accept the same number of tokens, tell their sinks the same,
each about its own tokens, and end in the same way. Or they part, but not before
both have accepted all the tokens that were known to agree
(`Analyser.accords_checkRule`).

Nothing is assumed about what comes behind these tokens. There the two supplies may
deliver different tokens or raise faults.
-/

namespace SyntaxChecker

/-! ## Facing some tokens -/

namespace Analyser

section Faces

variable {σ τ : Type} [Supply σ]

/-- The tokens that an analyser has before it, as far as its supply delivers `n` of
them. -/
structure FacesFor (n : ℕ) (a : Analyser σ τ) (f : Stream' Token) : Prop where
  lookahead : a.lookahead = f.head
  supply : ∀ i < n, (Supply.pull (Supply.after i a.supply)).1 = .ok (f.get (i + 1))

theorem Faces.facesFor {a : Analyser σ τ} {f : Stream' Token} (h : a.Faces f) (n : ℕ) :
    a.FacesFor n f := ⟨h.lookahead, fun i _ => h.supply i⟩

variable {j : Analyser σ Journal} {f : Stream' Token} {n : ℕ}

theorem FacesFor.past (h : j.FacesFor n f) {m : ℕ} (hm : m ≤ n) (heard : List Notice) :
    (j.past f m heard).FacesFor (n - m) (f.drop m) := by
  refine ⟨(Stream'.head_drop f m).symm, fun i hi => ?_⟩
  rw [Stream'.get_drop, ← Nat.add_assoc]
  show (Supply.pull (Supply.after i (Supply.after m j.supply))).1 = _
  rw [← Supply.after_add]
  exact h.supply (m + i) (by omega)

theorem FacesFor.past_zero (h : j.FacesFor n f) (heard : List Notice) :
    j.past f 0 heard = j.wrote heard := past_zero_eq h.lookahead heard

/-- At first something is written, and then some tokens are taken. -/
theorem past_zero_past (m : ℕ) (heard heard' : List Notice) :
    (j.past f 0 heard).past f m heard' = j.past f m (heard ++ heard') := by
  have hpast := past_past (j := j) (f := f) 0 m heard heard'
  rwa [Nat.zero_add] at hpast

end Faces

end Analyser

/-! ## What is alike -/

/-- **Notices that say the same** of two streams of tokens. -/
inductive Notice.Alike (sourceName : String) (f f' : Stream' Token) : Notice → Notice → Prop
  | event {e : Event} : e.token? = none → Alike sourceName f f' (.event e) (.event e)
  | terminal (i : ℕ) :
      Alike sourceName f f' (.event (.terminal (f.get i))) (.event (.terminal (f'.get i)))
  | mismatch (i : ℕ) (expected : String) :
      Alike sourceName f f'
        (.mismatch (f.get i) (errorMessage sourceName (f.get i).line expected (f.get i).found))
        (.mismatch (f'.get i) (errorMessage sourceName (f'.get i).line expected (f'.get i).found))

/-- Of one stream, the same notice says the same. -/
theorem Notice.Alike.eq {sourceName : String} {f : Stream' Token} {n n' : Notice}
    (h : Alike sourceName f f n n') : n = n' := by
  cases h <;> rfl

theorem Notice.Alike.of_drop {sourceName : String} {f f' : Stream' Token} {m : ℕ} {n n' : Notice}
    (h : Alike sourceName (f.drop m) (f'.drop m) n n') : Alike sourceName f f' n n' := by
  cases h with
  | event he => exact .event he
  | terminal i =>
    rw [Stream'.get_drop, Stream'.get_drop]
    exact .terminal (m + i)
  | mismatch i expected =>
    rw [Stream'.get_drop, Stream'.get_drop]
    exact .mismatch (m + i) expected

/-- **Faults that a check raises by itself** about two tokens. -/
inductive Raised.Alike (sourceName : String) (t t' : Token) : Raised → Raised → Prop
  | mismatch (expected : String) :
      Alike sourceName t t'
        (mismatchError t (errorMessage sourceName t.line expected t.found))
        (mismatchError t' (errorMessage sourceName t'.line expected t'.found))
  | tooDeep : Alike sourceName t t' (.fresh .tooDeep) (.fresh .tooDeep)

theorem Raised.Alike.eq {sourceName : String} {t : Token} {r r' : Raised}
    (h : Alike sourceName t t r r') : r = r' := by
  cases h <;> rfl

namespace Analyser

/-- The rules that are left by an error know nothing of the supply and the sink. -/
theorem wrapped_congr {σ τ σ' τ' : Type} {a : Analyser σ τ} {b : Analyser σ' τ'}
    (hname : a.sourceName = b.sourceName) (hahead : a.lookahead = b.lookahead) (rules : List Rule)
    (r : Raised) : a.wrapped rules r = b.wrapped rules r := by
  have hwrap : ∀ expected e, a.wrap expected e = b.wrap expected e := fun expected e => by
    unfold wrap ruleError message
    rw [hname, hahead]
  unfold wrapped
  simp only [hwrap]

/-! ## Together or apart -/

variable {σ σ' : Type} [Supply σ] [Supply σ']

/-- More than the first `n` tokens of a stream were accepted. -/
def Passes (j : Analyser σ Journal) (f : Stream' Token) (n : ℕ) (k : Analyser σ Journal) : Prop :=
  ∃ ns, k.sink = j.sink.write ns ∧ f.take (n + 1) <+: ns.filterMap Notice.token?

/-- **Two analysers with the same symbols before them**, as far as `n` tokens behind
the lookahead. -/
structure Twins (n : ℕ) (f f' : Stream' Token) (j : Analyser σ Journal) (j' : Analyser σ' Journal) :
    Prop where
  faces : j.FacesFor n f
  faces' : j'.FacesFor n f'
  symbol_eq : ∀ i ≤ n, (f.get i).symbol = (f'.get i).symbol
  sourceName_eq : j.sourceName = j'.sourceName

/-- **How two analysers end up.** Together they have accepted the same number of
tokens and told the same, and either both end well or both raise the same fault
from within the same rules. Apart they have accepted all the tokens that were known
to agree. -/
inductive Accords (n : ℕ) (f f' : Stream' Token) (j : Analyser σ Journal)
    (j' : Analyser σ' Journal) :
    Outcome × Analyser σ Journal → Outcome × Analyser σ' Journal → Prop
  | ok {m : ℕ} {ns ns' : List Notice} :
      m ≤ n → ns.filterMap Notice.token? = f.take m → ns'.filterMap Notice.token? = f'.take m →
        List.Forall₂ (Notice.Alike j.sourceName f f') ns ns' →
          Accords n f f' j j' (.ok (), j.past f m ns) (.ok (), j'.past f' m ns')
  | error {m : ℕ} {ns ns' : List Notice} {r r' : Raised} (rules : List Rule) :
      m ≤ n → ns.filterMap Notice.token? = f.take m → ns'.filterMap Notice.token? = f'.take m →
        List.Forall₂ (Notice.Alike j.sourceName f f') ns ns' →
          Raised.Alike j.sourceName (f.get m) (f'.get m) r r' →
            Accords n f f' j j'
              (.error ((j.past f m []).wrapped rules r), j.past f m ns)
              (.error ((j'.past f' m []).wrapped rules r'), j'.past f' m ns')
  | apart {result : Outcome × Analyser σ Journal} {result' : Outcome × Analyser σ' Journal} :
      j.Passes f n result.2 → j'.Passes f' n result'.2 → Accords n f f' j j' result result'

section Passes

variable {f : Stream' Token} {n : ℕ} {j k l : Analyser σ Journal} {x y : Action σ Journal}

omit [Supply σ] in
/-- What was accepted stays accepted. -/
theorem Passes.grow (h : j.Passes f n k) {ns : List Notice} (hl : l.sink = k.sink.write ns) :
    j.Passes f n l := by
  obtain ⟨ms, hk, htake⟩ := h
  refine ⟨ms ++ ns, ?_, htake.trans ?_⟩
  · rw [hl, hk, Journal.write_write]
  · rw [List.filterMap_append]
    exact List.prefix_append ..

/-- Behind the first tokens of a stream, the rest of it is accepted. -/
theorem Passes.of_past {m : ℕ} {ns : List Notice} (hm : m ≤ n)
    (htokens : ns.filterMap Notice.token? = f.take m)
    (h : (j.past f m ns).Passes (f.drop m) (n - m) k) : j.Passes f n k := by
  obtain ⟨ms, hk, htake⟩ := h
  refine ⟨ns ++ ms, ?_, ?_⟩
  · rw [hk]
    exact Journal.write_write ..
  · rw [List.filterMap_append, htokens, show n + 1 = m + (n - m + 1) by omega, Stream'.take_add]
    exact (List.prefix_append_right_inj _).2 htake

/-- Whatever an action does, it only adds to the journal. -/
theorem Runs.sink_eq {D : Prop} {p : Phrase} {result : Outcome × Analyser σ Journal}
    (h : Runs D p j result) : ∃ ns, result.2.sink = j.sink.write ns := by
  cases h with
  | ok _ hcourse => exact ⟨_, hcourse.sink_eq⟩
  | error hfails =>
    cases hfails with
    | intro rules hcourse _ hhalts => exact ⟨_, hhalts.sink_wrote_exits hcourse rules⟩

omit [Supply σ] in
theorem Passes.andThen (h : j.Passes f n (x j).2)
    (hy : ∀ k : Analyser σ Journal, ∃ ns, (y k).2.sink = k.sink.write ns) :
    j.Passes f n (Action.andThen x y j).2 := by
  unfold Action.andThen
  rcases hx : x j with ⟨_ | _, k⟩
  all_goals rw [hx] at h
  · exact h
  · obtain ⟨ns, hns⟩ := hy k
    exact h.grow hns

/-- A terminal that fits is accepted, whatever comes behind it. -/
theorem passes_accept (hj : j.lookahead = f.head) {s : Symbol} (hs : j.lookahead.symbol = s) :
    j.Passes f 0 (accept s j).2 := by
  refine ⟨[.event (.terminal j.lookahead)], ?_, ?_⟩
  · rcases hpull : Supply.pull j.supply with ⟨e | t, u⟩
    · rw [accept_of_fault hs hpull]
      rfl
    · rw [accept_of_pull hs hpull]
      rfl
  · rw [hj]
    exact List.prefix_rfl

end Passes

variable {n : ℕ} {f f' : Stream' Token} {j : Analyser σ Journal} {j' : Analyser σ' Journal}
  {x y : Action σ Journal} {x' y' : Action σ' Journal}

theorem Twins.lookahead (h : Twins n f f' j j') : j.lookahead.symbol = j'.lookahead.symbol := by
  rw [h.faces.lookahead, h.faces'.lookahead]
  exact h.symbol_eq 0 (Nat.zero_le n)

theorem Twins.past (h : Twins n f f' j j') {m : ℕ} (hm : m ≤ n) (ns ns' : List Notice) :
    Twins (n - m) (f.drop m) (f'.drop m) (j.past f m ns) (j'.past f' m ns') := by
  refine ⟨h.faces.past hm ns, h.faces'.past hm ns', fun i hi => ?_, h.sourceName_eq⟩
  rw [Stream'.get_drop, Stream'.get_drop]
  exact h.symbol_eq (m + i) (by omega)

namespace Accords

theorem done (h : Twins n f f' j j') : Accords n f f' j j' (Action.done j) (Action.done j') := by
  have hok : Accords n f f' j j' (.ok (), j.past f 0 []) (.ok (), j'.past f' 0 []) :=
    .ok (Nat.zero_le n) rfl rfl .nil
  rwa [h.faces.past_zero, h.faces'.past_zero, wrote_nil, wrote_nil] at hok

/-- The interpreter is at its greatest depth on both sides. -/
theorem tooDeep (h : Twins n f f' j j') :
    Accords n f f' j j' (Action.raise (.fresh .tooDeep) j) (Action.raise (.fresh .tooDeep) j') := by
  have herror : Accords n f f' j j' (.error (.fresh .tooDeep), j.past f 0 [])
      (.error (.fresh .tooDeep), j'.past f' 0 []) :=
    .error [] (Nat.zero_le n) rfl rfl .nil .tooDeep
  rwa [h.faces.past_zero, h.faces'.past_zero, wrote_nil, wrote_nil] at herror

theorem mismatch (h : Twins n f f' j j') (expected : String) :
    Accords n f f' j j' (Analyser.mismatch expected j) (Analyser.mismatch expected j') := by
  rw [mismatch_wrote, mismatch_wrote, ← h.faces.past_zero, ← h.faces'.past_zero, message,
    message, ← h.sourceName_eq, h.faces.lookahead, h.faces'.lookahead]
  exact error [] (Nat.zero_le n) rfl rfl (.cons (.mismatch 0 expected) .nil) (.mismatch expected)

/-- **A terminal.** If nothing is known of the token behind it, it is the last that
both are sure to accept. -/
theorem accept (h : Twins n f f' j j') (s : Symbol) :
    Accords n f f' j j' (Analyser.accept s j) (Analyser.accept s j') := by
  by_cases hs : j.lookahead.symbol = s
  · have hs' : j'.lookahead.symbol = s := h.lookahead ▸ hs
    cases n with
    | zero =>
      exact apart (passes_accept h.faces.lookahead hs) (passes_accept h.faces'.lookahead hs')
    | succ n =>
      rw [accept_eq_past hs (h.faces.supply 0 (Nat.succ_pos n)),
        accept_eq_past hs' (h.faces'.supply 0 (Nat.succ_pos n)), h.faces.lookahead,
        h.faces'.lookahead]
      exact ok (Nat.succ_le_succ (Nat.zero_le n)) rfl rfl (.cons (.terminal 0) .nil)
  · have hs' : j'.lookahead.symbol ≠ s := h.lookahead ▸ hs
    rw [accept_of_ne hs, accept_of_ne hs']
    exact mismatch h _

/-- **A sequence.** The second actions have to accord as far as the first have left
tokens. -/
theorem andThen (h : Twins n f f' j j') (hx : Accords n f f' j j' (x j) (x' j'))
    (hy : ∀ n f f' j j', Twins n f f' j j' → Accords n f f' j j' (y j) (y' j'))
    (hgrow : ∀ k : Analyser σ Journal, ∃ ns, (y k).2.sink = k.sink.write ns)
    (hgrow' : ∀ k : Analyser σ' Journal, ∃ ns, (y' k).2.sink = k.sink.write ns) :
    Accords n f f' j j' (Action.andThen x y j) (Action.andThen x' y' j') := by
  generalize hresult : x j = result at hx
  generalize hresult' : x' j' = result' at hx
  cases hx with
  | apart hpass hpass' =>
    rw [← hresult] at hpass
    rw [← hresult'] at hpass'
    exact apart (hpass.andThen hgrow) (hpass'.andThen hgrow')
  | error rules hm htokens htokens' halike hraised =>
    unfold Action.andThen
    rw [hresult, hresult']
    exact error rules hm htokens htokens' halike hraised
  | @ok m ns ns' hm htokens htokens' halike =>
    unfold Action.andThen
    rw [hresult, hresult']
    dsimp only
    have hy := hy _ _ _ _ _ (h.past hm ns ns')
    generalize y (j.past f m ns) = result at hy
    generalize y' (j'.past f' m ns') = result' at hy
    have hall : ∀ {ms ms'}, List.Forall₂ (Notice.Alike j.sourceName (f.drop m) (f'.drop m)) ms ms' →
        List.Forall₂ (Notice.Alike j.sourceName f f') (ns ++ ms) (ns' ++ ms') := fun hms =>
      List.rel_append halike (hms.imp fun _ _ => Notice.Alike.of_drop)
    have htaken : ∀ {g : Stream' Token} {ms ls : List Notice} {k : ℕ},
        ms.filterMap Notice.token? = g.take m → ls.filterMap Notice.token? = (g.drop m).take k →
          (ms ++ ls).filterMap Notice.token? = g.take (m + k) := fun hms hls => by
      rw [List.filterMap_append, hms, hls, Stream'.take_add]
    cases hy with
    | apart hpass hpass' => exact apart (hpass.of_past hm htokens) (hpass'.of_past hm htokens')
    | @ok k ms ms' hk htokens₂ htokens₂' halike' =>
      rw [past_past, past_past]
      exact ok (by omega) (htaken htokens htokens₂) (htaken htokens' htokens₂') (hall halike')
    | @error k ms ms' r r' rules hk htokens₂ htokens₂' halike' hraised =>
      rw [past_past, past_past, past_past, past_past]
      rw [Stream'.get_drop, Stream'.get_drop] at hraised
      exact error rules (by omega) (htaken htokens htokens₂) (htaken htokens' htokens₂')
        (hall halike') hraised

theorem ifNext (h : Twins n f f' j j') (symbols : List Symbol)
    (hx : Accords n f f' j j' (x j) (x' j')) (hy : Accords n f f' j j' (y j) (y' j')) :
    Accords n f f' j j' (Action.ifNext symbols x y j) (Action.ifNext symbols x' y' j') := by
  unfold Action.ifNext
  rw [← h.lookahead]
  split
  · exact hx
  · exact hy

/-- **A rule** is entered and left on both sides. -/
theorem bracket (h : Twins n f f' j j') (r : Rule)
    (hx : ∀ n f f' j j', Twins n f f' j j' → Accords n f f' j j' (x j) (x' j')) :
    Accords n f f' j j' (Analyser.bracket r x j) (Analyser.bracket r x' j') := by
  have hbody : Accords n f f' (j.past f 0 [.event (.enter r.label)])
      (j'.past f' 0 [.event (.enter r.label)]) _ _ :=
    hx _ _ _ _ _ (h.past (Nat.zero_le n) _ _)
  unfold Analyser.bracket
  rw [notify_wrote, notify_wrote, ← h.faces.past_zero, ← h.faces'.past_zero]
  dsimp only
  generalize x (j.past f 0 _) = result at hbody
  generalize x' (j'.past f' 0 _) = result' at hbody
  have haround : ∀ {g : Stream' Token} {ms : List Notice} {m : ℕ},
      ms.filterMap Notice.token? = g.take m →
        (Notice.event (.enter r.label) :: (ms ++ [.event (.exit r.label)])).filterMap Notice.token?
          = g.take m := fun hms => by
    rw [List.filterMap_cons_none rfl, List.filterMap_append, hms]
    exact List.append_nil _
  have hall : ∀ {ms ms'}, List.Forall₂ (Notice.Alike j.sourceName f f') ms ms' →
      List.Forall₂ (Notice.Alike j.sourceName f f')
        (.event (.enter r.label) :: (ms ++ [.event (.exit r.label)]))
        (.event (.enter r.label) :: (ms' ++ [.event (.exit r.label)])) := fun hms =>
    .cons (.event rfl) (List.rel_append hms (.cons (.event rfl) .nil))
  cases hbody with
  | apart hpass hpass' =>
    rw [notify_wrote, notify_wrote]
    exact apart ((hpass.of_past (Nat.zero_le n) rfl).grow rfl)
      ((hpass'.of_past (Nat.zero_le n) rfl).grow rfl)
  | ok hm htokens htokens' halike =>
    dsimp only
    rw [notify_wrote, notify_wrote, wrote_past, wrote_past, past_zero_past, past_zero_past]
    exact ok hm (haround htokens) (haround htokens') (hall halike)
  | error rules hm htokens htokens' halike hraised =>
    dsimp only
    rw [notify_wrote, notify_wrote, wrote_past, wrote_past]
    simp only [past_zero_past]
    exact error (r :: rules) hm (haround htokens) (haround htokens') (hall halike) hraised

end Accords

/-- **Two ways to interpret a phrase that accord**, wherever they are given the same
symbols. -/
structure InAccord (p : Phrase) (x : Action σ Journal) (x' : Action σ' Journal) : Prop where
  runs : ∀ j, Runs True p j (x j)
  runs' : ∀ j', Runs True p j' (x' j')
  accords : ∀ n f f' j j', Twins n f f' j j' → Accords n f f' j j' (x j) (x' j')

theorem InAccord.andThen {p q : Phrase} (hx : InAccord p x x') (hy : InAccord q y y')
    (h : Twins n f f' j j') :
    Accords n f f' j j' (Action.andThen x y j) (Action.andThen x' y' j') :=
  (hx.accords _ _ _ _ _ h).andThen h hy.accords (fun k => (hy.runs k).sink_eq)
    fun k => (hy.runs' k).sink_eq

theorem InAccord.lockstep :
    Lockstep (InAccord : Phrase → Action σ Journal → Action σ' Journal → Prop) where
  tooDeep p := ⟨Runs.lockstep.tooDeep p, Runs.lockstep.tooDeep p, fun _ _ _ _ _ => .tooDeep⟩
  empty := ⟨Runs.lockstep.empty, Runs.lockstep.empty, fun _ _ _ _ _ => .done⟩
  unmet expected := ⟨Runs.lockstep.unmet expected, Runs.lockstep.unmet expected,
    fun _ _ _ _ _ h => .mismatch h expected⟩
  terminal s := ⟨Runs.lockstep.terminal s, Runs.lockstep.terminal s,
    fun _ _ _ _ _ h => .accept h s⟩
  rule h := ⟨fun _ => .bracket _ (h.runs _), fun _ => .bracket _ (h.runs' _),
    fun _ _ _ _ _ ht => .bracket ht _ h.accords⟩
  seq h h' := ⟨fun j => .seq (h.runs j) fun _ k _ _ => h'.runs k,
    fun j => .seq (h.runs' j) fun _ k _ _ => h'.runs' k,
    fun _ _ _ _ _ ht => h.andThen h' ht⟩
  alt h h' := ⟨fun j => .alt _ (h.runs j) (h'.runs j), fun j => .alt _ (h.runs' j) (h'.runs' j),
    fun _ _ _ _ _ ht => .ifNext ht _ (h.accords _ _ _ _ _ ht) (h'.accords _ _ _ _ _ ht)⟩
  star h h' := ⟨fun j => .star _ (h.runs j) fun _ k _ _ => h'.runs k,
    fun j => .star _ (h.runs' j) fun _ k _ _ => h'.runs' k,
    fun _ _ _ _ _ ht => .ifNext ht _ (h.andThen h' ht) (.done ht)⟩

/-- **Two checks of a rule accord.** The depths that their supplies call for may
differ, but do not matter. -/
theorem accords_checkRule [LawfulSupply σ] [LawfulSupply σ'] (r : Rule) (h : Twins n f f' j j') :
    Accords n f f' j j' (checkRule r j) (checkRule r j') := by
  rw [checkRule_eq_follow r j (Nat.le_max_left _ j'.depthBound),
    checkRule_eq_follow r j' (Nat.le_max_right j.depthBound _)]
  exact (InAccord.lockstep.follow _ (.rule r)).accords _ _ _ _ _ h

/-! ## Which of the two -/

omit [Supply σ'] in
theorem not_passes_past {m : ℕ} {ns : List Notice} (hm : m ≤ n)
    (htokens : ns.filterMap Notice.token? = f.take m) : ¬ j.Passes f n (j.past f m ns) := by
  rintro ⟨ms, hsink, htake⟩
  obtain rfl : ns = ms := List.append_cancel_left (congrArg Journal.notices hsink)
  have hle := htake.length_le
  rw [htokens, Stream'.length_take, Stream'.length_take] at hle
  omega

namespace Accords

variable {result : Outcome × Analyser σ Journal} {result' : Outcome × Analyser σ' Journal}

/-- They part together. -/
theorem passes (h : Accords n f f' j j' result result') (hpass : j'.Passes f' n result'.2) :
    j.Passes f n result.2 := by
  cases h with
  | ok hm _ htokens' => exact absurd hpass (not_passes_past hm htokens')
  | error _ hm _ htokens' => exact absurd hpass (not_passes_past hm htokens')
  | apart h _ => exact h

/-- **Before they part, two checks of the same tokens are the same.** -/
theorem eq_of_not_passes (h : Accords n f f j j' result result')
    (hname : j.sourceName = j'.sourceName) (hpass : ¬ j'.Passes f n result'.2) :
    result.1 = result'.1
      ∧ ∃ m ≤ n, ∃ ns, result.2 = j.past f m ns ∧ result'.2 = j'.past f m ns := by
  have hsame : ∀ {ns ns'}, List.Forall₂ (Notice.Alike j.sourceName f f) ns ns' → ns = ns' :=
    fun h => by
      rw [← List.forall₂_eq_eq_eq]
      exact h.imp fun _ _ => Notice.Alike.eq
  cases h with
  | apart _ h => exact absurd h hpass
  | ok hm _ _ halike =>
    obtain rfl := hsame halike
    exact ⟨rfl, _, hm, _, rfl, rfl⟩
  | @error m ns _ r _ rules hm _ _ halike hraised =>
    obtain rfl := hsame halike
    obtain rfl := hraised.eq
    have hwrapped : (j.past f m []).wrapped rules r = (j'.past f m []).wrapped rules r :=
      wrapped_congr (a := j.past f m []) (b := j'.past f m []) hname rfl rules r
    exact ⟨congrArg Except.error hwrapped, m, hm, ns, rfl, rfl⟩

end Accords

omit [Supply σ'] in
/-- **A check accepts some tokens exactly if they are viable.** -/
theorem passes_checkRule_iff (r : Rule) (hj : j.Faces f)
    (hend : ∃ k ≤ Supply.pending j.supply, (f.tail.get k).isEof = true) :
    j.Passes f n (checkRule r j).2
      ↔ (Phrase.rule r).Viable ((f.take (n + 1)).map Token.symbol) := by
  obtain ⟨m, heard, hstate, hverdict⟩ := Call.reads_checkRule r hj hend
  have htokens : heard.filterMap Notice.token? = f.take m := by
    generalize (checkRule r j).1 = o at hverdict
    cases o with
    | error e => exact hverdict.2.1
    | ok =>
      obtain ⟨-, trees, -, hspelled, rfl⟩ := hverdict
      rw [terminals_events, hspelled]
  have hviable : (Phrase.rule r).Viable ((symbols f).take (n + 1)) ↔ n + 1 ≤ m := by
    generalize (checkRule r j).1 = o at hverdict
    cases o with
    | ok => exact hverdict.1.viable_iff
    | error e => exact hverdict.1.viable_iff rfl
  rw [hstate, ← take_symbols, hviable]
  refine ⟨fun h => ?_, fun h => ⟨heard, rfl, ?_⟩⟩
  · by_contra hle
    exact not_passes_past (by omega) htokens h
  · rw [htokens]
    exact (Stream'.take_prefix _ _ f).2 h

end Analyser

end SyntaxChecker
