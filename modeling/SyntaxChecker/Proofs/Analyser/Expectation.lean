import Mathlib.Data.List.Induction
import SyntaxChecker.Proofs.Analyser.Origin
import SyntaxChecker.Proofs.Analyser.SinkFault

/-!
# What a message expects is possible

A message about a token that does not fit says what was expected in its place. The
analyser knows no more of the program than the place in a production that it has come
to. Whether the program could go on as the message says depends on all the rules around
that place as well, and on every option and every repetition that was passed by before.

The message is right nonetheless (`Call.expected_is_possible`): behind what was accepted,
each of the symbols that it names is the beginning of a way to complete the program. That
comes down to two properties of the grammar. Whatever is begun can be completed, so what
is possible in a part is possible in the whole. And where a message names the sides of a
choice together, it names symbols that one of the sides starts with (`Phrase.Honest`).

The sink may be any, and so may the supply. If the sink is calm, the message that it was
given is also the one at the far end of the error; and if the supply raises no fault,
there is no error without such a message.
-/

namespace SyntaxChecker

open Listener

/-! ## What messages name -/

/-- The wordings that name several symbols together. -/
def jointWordings : List (String × List Symbol) :=
  [("<assignment>, <if>, <while>, <procedure>, <until>, or <for>",
      [.identifier, .kwIf, .kwWhile, .kwCall, .kwDo, .kwFor]),
    ("> , >= , = , /= , < or <=", Symbol.conditionalOperators),
    ("identifier, number constant or string constant",
      [.identifier, .numberConstant, .stringConstant]),
    ("identifier, number constant, or '('",
      [.identifier, .numberConstant, .leftParenthesis])]

/-- The symbols that a message says were expected: those of a joint wording, or else the
one whose name stands between apostrophes. -/
def namedSymbols (expected : String) : List Symbol :=
  match jointWordings.lookup expected with
  | some symbols => symbols
  | none => Symbol.all.filter fun s => expected == "'" ++ s.displayName ++ "'"

theorem namedSymbols_terminal (s : Symbol) : namedSymbols ("'" ++ s.displayName ++ "'") = [s] := by
  cases s <;> decide

namespace Phrase

/-- **Joint wordings are honest**: they name something, and nothing but what a side of the
choice that they belong to starts with. The symbols in `declined` start the sides that
stand before the phrase. -/
def Honest (declined : List Symbol) : Phrase → Prop
  | empty => True
  | unmet expected => namedSymbols expected ≠ [] ∧ ∀ s ∈ namedSymbols expected, s ∈ declined
  | terminal _ => True
  | rule _ => True
  | seq p q => p.Honest [] ∧ q.Honest []
  | alt p q => p.Honest [] ∧ q.Honest (declined ++ p.starters)
  | star p => p.Honest []

instance decidableHonest (declined : List Symbol) : DecidablePred (Honest declined)
  | empty => inferInstanceAs (Decidable True)
  | unmet _ => inferInstanceAs (Decidable (_ ∧ _))
  | terminal _ => inferInstanceAs (Decidable True)
  | rule _ => inferInstanceAs (Decidable True)
  | seq p q =>
    have := decidableHonest [] p
    have := decidableHonest [] q
    inferInstanceAs (Decidable (_ ∧ _))
  | alt p q =>
    have := decidableHonest [] p
    have := decidableHonest (declined ++ p.starters) q
    inferInstanceAs (Decidable (_ ∧ _))
  | star p => decidableHonest [] p

end Phrase

/-- **Every production is honest.** -/
theorem Rule.honest_production (r : Rule) : r.production.Honest [] := by
  cases r <;> decide

/-! ## Calls of a sink -/

/-- The symbols that were accepted in some calls of the sink. -/
def acceptedSymbols (calls : List (Notice × Outcome)) : List Symbol :=
  (acceptedTokens calls).map Token.symbol

theorem acceptedSymbols_append (cs cs' : List (Notice × Outcome)) :
    acceptedSymbols (cs ++ cs') = acceptedSymbols cs ++ acceptedSymbols cs' := by
  rw [acceptedSymbols, acceptedTokens_append, List.map_append]
  rfl

/-- **No mismatch** is among some calls of the sink. -/
def Peaceful (calls : List (Notice × Outcome)) : Prop := ∀ c ∈ calls, c.1.hook ≠ .mismatch

theorem peaceful_nil : Peaceful [] := List.forall_mem_nil _

theorem Peaceful.append {cs cs' : List (Notice × Outcome)} (h : Peaceful cs)
    (h' : Peaceful cs') : Peaceful (cs ++ cs') :=
  fun c hc => (List.mem_append.1 hc).elim (h c) (h' c)

/-- Calls that are about no token. -/
structure Tacit (calls : List (Notice × Outcome)) : Prop where
  peaceful : Peaceful calls
  accepted_eq : acceptedTokens calls = []

theorem tacit_nil : Tacit [] := ⟨peaceful_nil, rfl⟩

theorem Tacit.append {cs cs' : List (Notice × Outcome)} (h : Tacit cs) (h' : Tacit cs') :
    Tacit (cs ++ cs') :=
  ⟨h.peaceful.append h'.peaceful, by rw [acceptedTokens_append, h.accepted_eq, h'.accepted_eq]; rfl⟩

theorem tacit_singleton {n : Notice} (hn : n.hook ≠ .mismatch) (ht : n.token? = none)
    (answer : Outcome) : Tacit [(n, answer)] :=
  ⟨List.forall_mem_singleton.2 hn, List.filterMap_cons_none ht⟩

/-! ## Honest messages -/

/-- **An honest message** about a token that does not fit: it names some symbols, all of
which are possible, and the token has none of them. -/
def HonestMessage (sourceName : String) (possible : Symbol → Prop) (t : Token)
    (message : String) : Prop :=
  ∃ expected, message = errorMessage sourceName t.line expected t.found
    ∧ namedSymbols expected ≠ []
    ∧ (∀ s ∈ namedSymbols expected, possible s)
    ∧ t.symbol ∉ namedSymbols expected

theorem HonestMessage.mono {sourceName : String} {possible possible' : Symbol → Prop} {t : Token}
    {message : String} (h : HonestMessage sourceName possible t message)
    (himp : ∀ s, possible s → possible' s) : HonestMessage sourceName possible' t message := by
  obtain ⟨expected, hmessage, hne, hpossible, hnot⟩ := h
  exact ⟨expected, hmessage, hne, fun s hs => himp s (hpossible s hs), hnot⟩

namespace Analyser

variable {σ τ : Type}

/-- The symbols that can come next in a phrase behind some others. Before a phrase has
begun, those count as well that start what stands before it in a choice. -/
def CanFollow (p : Phrase) (declined v : List Symbol) (s : Symbol) : Prop :=
  p.Viable (v ++ [s]) ∨ v = [] ∧ s ∈ declined

/-- **How the checking of a phrase ends, as far as a mismatch is concerned.** -/
inductive Ends (p : Phrase) (declined : List Symbol) (j : Analyser σ (Logbook τ)) :
    Outcome × Analyser σ (Logbook τ) → Prop
  /-- A sentence of the phrase was accepted. -/
  | ok {k : Analyser σ (Logbook τ)} (calls : List (Notice × Outcome)) :
      k.sink.calls = j.sink.calls ++ calls → Peaceful calls → k.sourceName = j.sourceName →
        p.Derives (acceptedSymbols calls) → Ends p declined j (.ok (), k)
  /-- A token does not fit, and nothing is accepted any more. -/
  | mismatch {e : Raised} {k : Analyser σ (Logbook τ)} {t : Token} {message : String}
      {answer : Outcome} (before after : List (Notice × Outcome)) :
      k.sink.calls = j.sink.calls ++ (before ++ (.mismatch t message, answer) :: after) →
        Peaceful before → Tacit after →
          HonestMessage j.sourceName (CanFollow p declined (acceptedSymbols before)) t message →
            Ends p declined j (.error e, k)
  /-- Something else went wrong. -/
  | fault {e : Raised} {k : Analyser σ (Logbook τ)} (calls : List (Notice × Outcome)) :
      k.sink.calls = j.sink.calls ++ calls → Peaceful calls → Ends p declined j (.error e, k)

namespace Ends

variable {p q : Phrase} {declined : List Symbol} {j j' : Analyser σ (Logbook τ)}
  {x y : Action σ (Logbook τ)}

/-- What can follow in a phrase can follow in another that has its sentences. -/
theorem mono {declined' : List Symbol} {result : Outcome × Analyser σ (Logbook τ)}
    (h : Ends p declined j result) (hpq : ∀ w, p.Derives w → q.Derives w)
    (hfollow : ∀ s ∈ declined, CanFollow q declined' [] s) : Ends q declined' j result := by
  cases h with
  | ok calls hcalls hpeace hname hderives => exact .ok calls hcalls hpeace hname (hpq _ hderives)
  | fault calls hcalls hpeace => exact .fault calls hcalls hpeace
  | mismatch before after hcalls hpeace htacit hhonest =>
    refine .mismatch before after hcalls hpeace htacit (hhonest.mono fun s hs => ?_)
    rcases hs with hviable | ⟨hnil, hmem⟩
    · exact .inl (hviable.imp fun _ => hpq _)
    · rw [hnil]
      exact hfollow s hmem

theorem silent (p : Phrase) (e : Raised) : Ends p declined j (.error e, j) :=
  .fault [] (List.append_nil _).symm peaceful_nil

theorem done : Ends .empty declined j (Action.done j) :=
  .ok [] (List.append_nil _).symm peaceful_nil rfl .empty

/-- **A sequence.** What the first part accepts can be followed by what can follow in the
second; and what the first part has begun can be completed. -/
theorem seq (hpq : (Phrase.seq p q).Predictive) (hx : Ends p [] j (x j))
    (hy : ∀ k, Ends q [] k (y k)) :
    Ends (.seq p q) declined j (Action.andThen x y j) := by
  obtain ⟨-, -, -, hq⟩ := hpq
  unfold Action.andThen
  generalize x j = result at hx
  cases hx with
  | fault calls hcalls hpeace => exact .fault calls hcalls hpeace
  | mismatch before after hcalls hpeace htacit hhonest =>
    refine .mismatch before after hcalls hpeace htacit (hhonest.mono fun s hs => ?_)
    rcases hs with hviable | ⟨-, hmem⟩
    · exact .inl (hviable.seq_left hq)
    · cases hmem
  | @ok k calls hcalls hpeace hname hderives =>
    have hy := hy k
    dsimp only
    generalize y k = result at hy
    cases hy with
    | fault calls' hcalls' hpeace' =>
      refine .fault (calls ++ calls') ?_ (hpeace.append hpeace')
      rw [hcalls', hcalls, List.append_assoc]
    | mismatch before after hcalls' hpeace' htacit hhonest =>
      rw [hcalls, List.append_assoc, ← List.append_assoc calls] at hcalls'
      rw [hname] at hhonest
      refine .mismatch _ after hcalls' (hpeace.append hpeace') htacit (hhonest.mono fun s hs => ?_)
      rcases hs with hviable | ⟨-, hmem⟩
      · refine .inl ?_
        rw [acceptedSymbols_append, List.append_assoc]
        exact .seq_right hderives hviable
      · cases hmem
    | ok calls' hcalls' hpeace' hname' hderives' =>
      refine .ok (calls ++ calls') ?_ (hpeace.append hpeace') (hname'.trans hname) ?_
      · rw [hcalls', hcalls, List.append_assoc]
      · rw [acceptedSymbols_append]
        exact .seq hderives hderives'

/-- **A choice.** If the second side does not fit either, what the first side starts with
would have fitted, too. -/
theorem alt (hp : p.Predictive) (hx : Ends p [] j (x j))
    (hy : j.lookahead.symbol ∉ p.starters → Ends q (declined ++ p.starters) j (y j)) :
    Ends (.alt p q) declined j (Action.ifNext p.starters x y j) := by
  unfold Action.ifNext
  by_cases hs : j.lookahead.symbol ∈ p.starters
  · rw [if_pos hs]
    exact hx.mono (fun _ => .altLeft) nofun
  · rw [if_neg hs]
    refine (hy hs).mono (fun _ => .altRight) fun s hmem => ?_
    rcases List.mem_append.1 hmem with hdeclined | hstarts
    · exact .inr ⟨rfl, hdeclined⟩
    · exact .inl (Phrase.viable_singleton hp hstarts).alt_left

/-- **A repetition** is the choice between once more and no more. -/
theorem star (hp : (Phrase.star p).Predictive) (hx : Ends p [] j (x j))
    (hy : ∀ k, Ends (.star p) [] k (y k)) :
    Ends (.star p) declined j
      (Action.ifNext p.starters (Action.andThen x y) Action.done j) := by
  have halt := hp.star
  have hchoice : Ends _ declined j _ := alt halt.1 (seq halt.1 hx hy) fun _ => done
  rw [Phrase.starters_seq_star hp] at hchoice
  exact hchoice.mono (fun _ => Phrase.derives_star_iff.2) fun s hs => .inr ⟨rfl, hs⟩

/-- **Calls that are about no token do not matter**, before and behind. What they end in may
take the place of an error, or of success unless it is one. -/
theorem around {k k' : Analyser σ (Logbook τ)} {o o' : Outcome}
    {pre post : List (Notice × Outcome)} (h : Ends p declined j' (o, k))
    (hj : j'.sink.calls = j.sink.calls ++ pre) (hk : k'.sink.calls = k.sink.calls ++ post)
    (hpre : Tacit pre) (hpost : Tacit post) (hname : j'.sourceName = j.sourceName)
    (hname' : k'.sourceName = k.sourceName) (ho : o' = .ok () → o = .ok ()) :
    Ends p declined j (o', k') := by
  have hsymbols : ∀ calls, acceptedSymbols (pre ++ calls) = acceptedSymbols calls := fun calls => by
    rw [acceptedSymbols, acceptedTokens_append, hpre.accepted_eq]
    rfl
  cases h with
  | ok calls hcalls hpeace hnames hderives =>
    rw [hcalls, hj, List.append_assoc, List.append_assoc] at hk
    have hpeace := hpre.peaceful.append (hpeace.append hpost.peaceful)
    cases o' with
    | error e => exact .fault _ hk hpeace
    | ok =>
      refine .ok _ hk hpeace (hname'.trans (hnames.trans hname)) ?_
      rw [hsymbols, acceptedSymbols, acceptedTokens_append, hpost.accepted_eq, List.append_nil]
      exact hderives
  | mismatch before after hcalls hpeace htacit hhonest =>
    cases o' with
    | ok => cases ho rfl
    | error e =>
      rw [hcalls, hj] at hk
      simp only [List.append_assoc, List.cons_append] at hk
      rw [← List.append_assoc pre] at hk
      refine .mismatch _ _ hk (hpre.peaceful.append hpeace) (htacit.append hpost) ?_
      rwa [hsymbols, ← hname]
  | fault calls hcalls hpeace =>
    cases o' with
    | ok => cases ho rfl
    | error e =>
      rw [hcalls, hj, List.append_assoc, List.append_assoc] at hk
      exact .fault _ hk (hpre.peaceful.append (hpeace.append hpost.peaceful))

variable [Listener τ]

/-- **A message that names only what can follow is honest**, if the lookahead is none of
it. -/
theorem refused {expected : String} (hne : namedSymbols expected ≠ [])
    (hfollow : ∀ s ∈ namedSymbols expected, CanFollow p declined [] s)
    (hnot : j.lookahead.symbol ∉ namedSymbols expected) :
    Ends p declined j (Analyser.mismatch expected j) := by
  rcases hreport : Listener.report j.lookahead (j.message expected j.lookahead) j.sink.sink with
    ⟨answer, s⟩
  rw [Analyser.mismatch_of_report (Analyser.report_logged hreport)]
  exact .mismatch [] [] rfl peaceful_nil tacit_nil ⟨expected, rfl, hne, hfollow, hnot⟩

theorem unmet {expected : String} (hhonest : (Phrase.unmet expected).Honest declined)
    (hj : j.lookahead.symbol ∉ declined) :
    Ends (.unmet expected) declined j (Analyser.mismatch expected j) :=
  refused hhonest.1 (fun s hs => .inr ⟨rfl, hhonest.2 s hs⟩) fun hmem => hj (hhonest.2 _ hmem)

theorem accept [Supply σ] (s : Symbol) : Ends (.terminal s) declined j (Analyser.accept s j) := by
  by_cases hs : j.lookahead.symbol = s
  · have hpeace : ∀ answer, Peaceful [(.event (.terminal j.lookahead), answer)] :=
      fun _ => List.forall_mem_singleton.2 nofun
    rw [Analyser.accept_of_eq hs]
    unfold Action.andThen
    rcases hanswer : Listener.notify (.event (.terminal j.lookahead)) j.sink.sink with ⟨_ | _, u⟩
    all_goals rw [Analyser.notify_logged hanswer]
    · exact .fault _ rfl (hpeace _)
    · dsimp only
      rcases hpull : Supply.pull
        (j.recorded (.event (.terminal j.lookahead)) (.ok ()) u).supply with ⟨_ | _, _⟩
      · rw [Analyser.advance_of_fault hpull]
        exact .fault _ rfl (hpeace _)
      · rw [Analyser.advance_of_pull hpull]
        refine .ok _ rfl (hpeace _) rfl ?_
        rw [← hs]
        exact .terminal _
  · rw [Analyser.accept_of_ne hs]
    refine refused ?_ ?_ ?_
    all_goals rw [namedSymbols_terminal]
    · exact List.cons_ne_nil _ _
    · exact List.forall_mem_singleton.2 (.inl (Phrase.Derives.terminal s).viable)
    · rwa [List.mem_singleton]

/-- **A rule** ends as its production does. -/
theorem bracket (r : Rule) (hx : ∀ k, Ends r.production [] k (x k)) :
    Ends (.rule r) declined j (Analyser.bracket r x j) := by
  have htacit : ∀ (e : Event) answer, e.token? = none → Tacit [(.event e, answer)] :=
    fun e answer he => tacit_singleton (n := .event e) (by cases e <;> nofun) he answer
  rcases Analyser.bracket_logged r x j with
    ⟨e, s, hrefused⟩ | ⟨s, o, k, hbody, answer, s', o', hleft, ho⟩
  · rw [hrefused]
    exact .fault _ rfl (htacit _ _ rfl).peaceful
  · rw [hleft]
    have hproduction := hx (j.recorded (.event (.enter r.label)) (.ok ()) s)
    rw [hbody] at hproduction
    have hrule : Ends (.rule r) declined _ _ := hproduction.mono (fun _ => .rule) nofun
    exact hrule.around rfl rfl (htacit _ _ rfl) (htacit _ _ rfl) rfl rfl ho

variable [Supply σ]

theorem lockstep : Lockstep
    (fun p x _ => p.Predictive → ∀ declined, p.Honest declined →
      ∀ j, j.lookahead.symbol ∉ declined → Ends p declined j (x j) :
        Phrase → Action σ (Logbook τ) → Action σ (Logbook τ) → Prop) where
  tooDeep p _ _ _ _ _ := silent p _
  empty _ _ _ _ _ := done
  unmet _ _ _ hhonest _ hj := unmet hhonest hj
  terminal s _ _ _ _ _ := accept s
  rule {r _ _} h _ _ _ _ _ :=
    bracket r fun k => h r.predictive_production [] r.honest_production k List.not_mem_nil
  seq h h' hp _ hhonest j _ :=
    seq hp (h hp.1 [] hhonest.1 j List.not_mem_nil)
      fun k => h' hp.2.1 [] hhonest.2 k List.not_mem_nil
  alt h h' hp _ hhonest j hj :=
    alt hp.1 (h hp.1 [] hhonest.1 j List.not_mem_nil) fun hs =>
      h' hp.2.1 _ hhonest.2 j fun hmem => (List.mem_append.1 hmem).elim hj hs
  star h h' hp _ hhonest j _ :=
    star hp (h hp.1 [] hhonest j List.not_mem_nil)
      fun k => h' hp [] hhonest k List.not_mem_nil

theorem checkRule (r : Rule) : Ends (.rule r) [] j (Analyser.checkRule r j) :=
  lockstep.follow _ (.rule r) trivial [] trivial j List.not_mem_nil

/-- **A whole program ends like this.** -/
theorem program : Ends Call.program.phrase [] j (Call.program.run j) := by
  have hcheck : Ends Call.program.phrase [] j
      (Action.andThen (Analyser.checkRule .statementPart) (Analyser.accept .eof) j) :=
    seq (by decide) (checkRule .statementPart) fun _ => accept .eof
  rw [Call.run_program]
  generalize (Action.andThen (Analyser.checkRule .statementPart) (Analyser.accept .eof) :
    Action σ (Logbook τ)) = check at hcheck ⊢
  unfold Action.andThen
  rcases hresult : check j with ⟨_ | _, k⟩
  all_goals rw [hresult] at hcheck
  · exact hcheck
  · rcases hanswer : Listener.notify .success k.sink.sink with ⟨answer, s⟩
    dsimp only
    rw [Analyser.notify_logged hanswer]
    exact hcheck.around (List.append_nil _).symm rfl tacit_nil
      (tacit_singleton (n := .success) nofun rfl answer) rfl rfl fun _ => rfl

end Ends

end Analyser

/-! ## Messages at the far end of an error -/

namespace Logbook

variable {τ : Type} [Listener τ] {b : Logbook τ}

theorem send_eq (n : Notice) (b : Logbook τ) :
    send n b = ((send n b.sink).1, b.record n (send n b.sink).1 (send n b.sink).2) := by
  cases n <;> rfl

/-- A calm sink in a logbook answers as is due, and its answers are written down. -/
theorem sendAll_of_calm (h : Calm b.sink) (ns : List Notice) :
    sendAll ns b = ⟨sendAll ns b.sink, b.calls ++ answered ns⟩ := by
  induction ns using List.reverseRecOn with
  | nil => rw [sendAll_nil, sendAll_nil, show answered [] = [] from rfl, List.append_nil]
  | append_singleton ns n ih =>
    rw [sendAll_append, ih, sendAll_singleton, send_eq]
    dsimp only
    rw [h ns n, answered_append, ← List.append_assoc, sendAll_append, sendAll_singleton]
    rfl

theorem calm (h : Calm b.sink) : Calm b := by
  intro ns n
  rw [sendAll_of_calm h, send_eq]
  exact h ns n

end Logbook

namespace Call

variable {σ τ : Type} [Supply σ] [Listener τ]

/-- **A calm sink answers as is due** to all that it hears. -/
theorem calls_eq_answered (c : Call) {a : Analyser σ τ} (hs : Calm a.sink) :
    c.calls a = answered (c.notices a) := by
  rw [calls, c.run_eq_replay a.logged (Logbook.calm hs)]
  show (sendAll (c.notices a) (Logbook.mk a.sink [])).calls = _
  rw [Logbook.sendAll_of_calm hs]
  rfl

end Call

theorem Analyser.Course.hook_ne_mismatch {σ : Type} [Supply σ] {j k : Analyser σ Journal}
    {ns : List Notice} (h : Course j ns k) : ∀ n ∈ ns, n.hook ≠ .mismatch := by
  induction h with
  | here => exact List.forall_mem_nil _
  | event e _ _ ih => exact List.forall_mem_cons.2 ⟨by cases e <;> nofun, ih⟩
  | terminal _ _ ih => exact List.forall_mem_cons.2 ⟨nofun, ih⟩

theorem hook_ne_mismatch_of_mem_exits {rules : List Rule} {n : Notice} (h : n ∈ exits rules) :
    n.hook ≠ .mismatch := by
  obtain ⟨r, -, rfl⟩ := List.mem_map.1 h
  nofun

namespace Call

variable {σ : Type} [Supply σ]

theorem hook_ne_mismatch_of_mem_closing {c : Call} {o : Outcome} {n : Notice}
    (h : n ∈ c.closing o) : n.hook ≠ .mismatch := by
  unfold closing at h
  split at h
  · rw [List.mem_singleton.1 h]
    nofun
  · cases h

/-- **A failing call** has heard of a course, of why there is no further step, and that the
open rules are left. -/
theorem notices_of_runs {τ : Type} {D : Prop} (c : Call) (a : Analyser σ τ)
    (hruns : Analyser.Runs D c.phrase a.journaled (c.check a.journaled)) {e : Raised}
    (h : (c.run a.journaled).1 = .error e) :
    ∃ ns k stop origin l rules, c.notices a = ns ++ stop ++ exits rules
      ∧ Analyser.Course a.journaled ns k
      ∧ Analyser.Halts D k stop origin l ∧ e = l.wrapped rules origin := by
  rw [c.run_eq_check] at h
  rw [notices, c.run_eq_check]
  generalize c.check a.journaled = result at hruns h ⊢
  cases hruns with
  | ok => cases h
  | @error e' m hfails =>
    obtain rfl : e' = e := Except.error.inj h
    cases hfails with
    | @intro ns stop k l origin rules hcourse hopen hhalts =>
      refine ⟨ns, k, stop, origin, l, rules, ?_, hcourse, hhalts, rfl⟩
      rw [closing_error, Analyser.wrote_nil, hhalts.sink_wrote_exits hcourse]
      rfl

theorem notices_of_error {τ : Type} (c : Call) (a : Analyser σ τ) {e : Raised}
    (h : (c.run a.journaled).1 = .error e) :
    ∃ ns k stop origin l rules, c.notices a = ns ++ stop ++ exits rules
      ∧ Analyser.Course a.journaled ns k
      ∧ Analyser.Halts (¬ LawfulSupply σ) k stop origin l ∧ e = l.wrapped rules origin :=
  c.notices_of_runs a (c.runs_check a.journaled) h

/-- A call that ends well has heard of no mismatch. -/
theorem hook_ne_mismatch_of_ok {τ : Type} (c : Call) (a : Analyser σ τ)
    (h : (c.run a.journaled).1 = .ok ()) : ∀ n ∈ c.notices a, n.hook ≠ .mismatch := by
  have hruns := c.runs_check a.journaled
  rw [c.run_eq_check] at h
  rw [notices, c.run_eq_check]
  generalize c.check a.journaled = result at hruns h ⊢
  cases hruns with
  | error => cases h
  | @ok trees k _ hcourse =>
    intro n hn
    rw [show ((k.wrote (c.closing (.ok ()))).sink.notices) = _ from
      congrArg (fun s => (Journal.write s _).notices) hcourse.sink_eq] at hn
    rcases List.mem_append.1 hn with hn | hn
    · exact hcourse.hook_ne_mismatch n hn
    · exact hook_ne_mismatch_of_mem_closing hn

/-- **A mismatch is at the far end of the error** that it leads to, with its message. -/
theorem error_of_mismatch {τ : Type} (c : Call) (a : Analyser σ τ) {t : Token} {message : String}
    (h : .mismatch t message ∈ c.notices a) :
    ∃ e, (c.run a.journaled).1 = .error e ∧ e.innermost = .grammar ⟨message, some t, none⟩ := by
  cases ho : (c.run a.journaled).1 with
  | ok => exact absurd rfl (c.hook_ne_mismatch_of_ok a ho _ h)
  | error e =>
    refine ⟨e, rfl, ?_⟩
    obtain ⟨ns, k, stop, origin, l, rules, hnotices, hcourse, hhalts, rfl⟩ :=
      c.notices_of_error a ho
    rw [hnotices] at h
    -- a course says nothing of mismatches, and neither do the rules that are left
    have hstop : .mismatch t message ∈ stop := by
      rcases List.mem_append.1 h with h | h
      · rcases List.mem_append.1 h with h | h
        · exact absurd rfl (hcourse.hook_ne_mismatch _ h)
        · exact h
      · exact absurd rfl (hook_ne_mismatch_of_mem_exits h)
    cases hhalts with
    | mismatch expected =>
      obtain ⟨rfl, rfl⟩ := Notice.mismatch.inj (List.mem_singleton.1 hstop)
      exact (Analyser.wrapped_of_isSyntactic _ rules rfl).2.1
    | supply hpull => cases List.mem_singleton.1 hstop
    | tooDeep => cases hstop

/-- **Without a fault of the supply there is no error without a mismatch.** -/
theorem mismatch_of_error [LawfulSupply σ] {τ : Type} (c : Call) (a : Analyser σ τ)
    {f : Stream' Token} (hf : Supply.Delivers a.supply f) {e : Raised}
    (h : (c.run a.journaled).1 = .error e) : ∃ t message, .mismatch t message ∈ c.notices a := by
  obtain ⟨ns, k, stop, origin, l, rules, hnotices, hcourse, hhalts, -⟩ := c.notices_of_error a h
  cases hhalts with
  | mismatch expected =>
    refine ⟨k.lookahead, k.message expected k.lookahead, ?_⟩
    rw [hnotices]
    exact List.mem_append_left _ (List.mem_append_right _ (List.mem_singleton_self _))
  | supply hpull =>
    obtain ⟨ts, hyields, -⟩ := hcourse.yields
    have hok := hf ts.length
    rw [show Supply.after ts.length a.supply = k.supply from hyields.after_length, hpull] at hok
    cases hok
  | tooDeep hlaw => exact absurd ‹LawfulSupply σ› hlaw

/-- Where a mismatch comes between calls that are none, it is the only one. -/
theorem mismatch_unique {before before' after after' : List (Notice × Outcome)} {n n' : Notice}
    {answer answer' : Outcome}
    (heq : before ++ (n, answer) :: after = before' ++ (n', answer') :: after')
    (hbefore : Peaceful before) (hafter : Peaceful after) (hn' : n'.hook = .mismatch) :
    before = before' ∧ n = n' ∧ after = after' := by
  rcases List.append_eq_append_iff.1 heq with ⟨as, rfl, htail⟩ | ⟨as, rfl, htail⟩
  · cases as with
    | nil =>
      obtain ⟨hhead, rfl⟩ := List.cons.inj htail
      exact ⟨(List.append_nil _).symm, (Prod.mk.inj hhead).1, rfl⟩
    | cons c as =>
      obtain ⟨-, rfl⟩ := List.cons.inj htail
      exact absurd hn' (hafter (n', answer') (List.mem_append_right _ List.mem_cons_self))
  · cases as with
    | nil =>
      obtain ⟨hhead, rfl⟩ := List.cons.inj htail
      exact ⟨List.append_nil _, (Prod.mk.inj hhead).1.symm, rfl⟩
    | cons c as =>
      obtain ⟨rfl, -⟩ := List.cons.inj htail
      exact absurd hn' (hbefore (n', answer') (List.mem_append_right _ List.mem_cons_self))

variable {τ : Type} [Listener τ]

/-- A mismatch in the checking of a program. -/
theorem mismatch_of_calls {a : Analyser σ τ} {before after : List (Notice × Outcome)} {t : Token}
    {message : String} {answer : Outcome}
    (hcalls : program.calls a = before ++ (.mismatch t message, answer) :: after) :
    HonestMessage a.sourceName
        (fun s => program.phrase.Viable (acceptedSymbols before ++ [s])) t message
      ∧ acceptedTokens after = [] := by
  have hends : Analyser.Ends program.phrase [] a.logged (program.run a.logged) := .program
  rw [calls] at hcalls
  have hmem : (.mismatch t message, answer) ∈ (program.run a.logged).2.sink.calls := by
    rw [hcalls]
    exact List.mem_append_right _ List.mem_cons_self
  generalize program.run a.logged = result at hends hcalls hmem
  cases hends with
  | ok calls heq hpeace =>
    rw [heq] at hmem
    exact absurd rfl (hpeace _ hmem)
  | fault calls heq hpeace =>
    rw [heq] at hmem
    exact absurd rfl (hpeace _ hmem)
  | mismatch before' after' heq hpeace htacit hhonest =>
    obtain ⟨rfl, hnotice, rfl⟩ := mismatch_unique (heq.symm.trans hcalls) hpeace htacit.peaceful rfl
    obtain ⟨rfl, rfl⟩ := Notice.mismatch.inj hnotice
    refine ⟨hhonest.mono fun s hs => ?_, htacit.accepted_eq⟩
    rcases hs with hviable | ⟨-, hnone⟩
    · exact hviable
    · cases hnone

/-- **What a message expects is possible.** Let a program be checked, whatever the supply
does and however the sink answers, and let the sink be told of a token that does not fit.
The message names some symbols. Each of them, behind the symbols that were accepted, is the
beginning of a way to complete a program with the end of the input behind it; and the token
has none of them. Nothing is accepted any more. If the sink is calm, the check ends with an
error that has this message at its far end; and if in addition the supply raises no fault,
every error comes about like this. -/
theorem expected_is_possible (a : Analyser σ τ) :
    (∀ before t message answer after,
        program.calls a = before ++ (.mismatch t message, answer) :: after →
          HonestMessage a.sourceName
              (fun s => program.phrase.Viable (acceptedSymbols before ++ [s])) t message
            ∧ acceptedTokens after = []
            ∧ (Calm a.sink → ∃ e, (program.run a).1 = .error e
              ∧ e.innermost = .grammar ⟨message, some t, none⟩))
      ∧ (LawfulSupply σ → ∀ f e, Supply.Delivers a.supply f → Calm a.sink →
          (program.run a).1 = .error e → ∃ before t message answer after,
            program.calls a = before ++ (.mismatch t message, answer) :: after) := by
  refine ⟨fun before t message answer after hcalls => ?_, fun hlaw f e hf hs he => ?_⟩
  · obtain ⟨hhonest, hafter⟩ := mismatch_of_calls hcalls
    refine ⟨hhonest, hafter, fun hs => ?_⟩
    have hmem : (.mismatch t message, answer) ∈ answered (program.notices a) := by
      rw [← program.calls_eq_answered hs, hcalls]
      exact List.mem_append_right _ List.mem_cons_self
    obtain ⟨n, hn, heq⟩ := List.mem_map.1 hmem
    obtain rfl : n = .mismatch t message := (Prod.mk.inj heq).1
    rw [program.run_eq_replay a hs]
    exact program.error_of_mismatch a hn
  · rw [program.run_eq_replay a hs] at he
    obtain ⟨t, message, hmem⟩ := program.mismatch_of_error a hf he
    obtain ⟨before, after, hnotices⟩ := List.append_of_mem hmem
    refine ⟨answered before, t, message, .error (mismatchError t message), answered after, ?_⟩
    rw [program.calls_eq_answered hs, hnotices]
    exact List.map_append

/-- A program without a statement: behind `begin`, six symbols were possible. -/
theorem expected_is_possible_no_statement :
    let s := TokenList.ofList [⟨.kwBegin, "begin", 1, 1⟩, ⟨.kwEnd, "end", 1, 7⟩]
    let a : Analyser TokenList Sink := ⟨Supply.after 1 s, Sink.recorder, s.stream.head, "p"⟩
    let t : Token := ⟨.kwEnd, "end", 1, 7⟩
    let message := errorMessage "p" 1 "<assignment>, <if>, <while>, <procedure>, <until>, or <for>"
      "'end'"
    let before : List Notice := [.event (.enter "<statement part>"),
      .event (.terminal ⟨.kwBegin, "begin", 1, 1⟩), .event (.enter "<statement list>"),
      .event (.enter "<statement>")]
    let after := exits [.statementPart, .statementList, .statement]
    program.calls a
        = answered before
          ++ (.mismatch t message, .error (mismatchError t message)) :: answered after
      ∧ HonestMessage "p" (fun s => program.phrase.Viable [.kwBegin, s]) t message
      ∧ acceptedTokens (answered after) = [] ∧ Calm a.sink ∧ Supply.Delivers a.supply s.stream.tail
      ∧ ∃ e, (program.run a).1 = .error e ∧ e.innermost = .grammar ⟨message, some t, none⟩
        ∧ ∃ before t message answer after,
          program.calls a = before ++ (.mismatch t message, answer) :: after := by
  intro s a t message before after
  have hcalls : program.calls a = answered before
      ++ (.mismatch t message, .error (mismatchError t message)) :: answered after := rfl
  have hsink : Calm a.sink := Sink.calm_recording _
  have hsupply : Supply.Delivers a.supply s.stream.tail := s.delivers_stream.drop 1
  obtain ⟨hmessages, herrors⟩ := expected_is_possible a
  obtain ⟨hhonest, hafter, hfar⟩ := hmessages _ _ _ _ _ hcalls
  obtain ⟨e, he, hinner⟩ := hfar hsink
  exact ⟨hcalls, hhonest, hafter, hsink, hsupply, e, he, hinner,
    herrors inferInstance _ e hsupply hsink he⟩

end Call

end SyntaxChecker
