import SyntaxChecker.Proofs.Analyser.Course
import SyntaxChecker.Proofs.Grammar.Viable

/-!
# The checker stops at the first error

A supply that never raises a fault delivers an endless stream of tokens, and an
analyser faces that stream with its lookahead in front. What a call does with
it is told by the phrase of the call alone. The analyser takes the longest
viable prefix, token by token. If that is a sentence, the call ends well; if
not, it ends with an error about the token behind the prefix, which is also the
lookahead that the analyser is left with (`Call.run_longest_viable`).

`Reads` says this of one action, and there is one lemma for each of the ways in
which actions are put together. The verdicts of the parts become that of the
whole by the laws of `SyntaxChecker.Proofs.Grammar.Viable`, and the induction
over them is `reads_follow`. Its depth suffices because a token is taken before
more than three rules can be opened.
-/

namespace SyntaxChecker

open Listener SyntaxChecker.Tree

/-! ## Streams of tokens -/

namespace Supply

variable {σ : Type} [Supply σ]

/-- The supply after some tokens were taken. -/
def after : ℕ → σ → σ
  | 0, s => s
  | n + 1, s => after n (pull s).2

theorem after_add (m n : ℕ) (s : σ) : after (m + n) s = after n (after m s) := by
  induction m generalizing s with
  | zero => rw [Nat.zero_add]; rfl
  | succ m ih => rw [Nat.succ_add, after, after, ih]

theorem Yields.after_length {s u : σ} {ts : List Token} (h : Yields s ts u) :
    after ts.length s = u := by
  induction h with
  | nil => rfl
  | cons hpull _ ih =>
    rw [List.length_cons, after, hpull]
    exact ih

/-- The supply never raises a fault, and its tokens are these. -/
def Delivers (s : σ) (f : Stream' Token) : Prop := ∀ n, (pull (after n s)).1 = .ok (f.get n)

theorem Delivers.pull_eq {s : σ} {f : Stream' Token} (h : Delivers s f) :
    pull s = (.ok f.head, after 1 s) := Prod.ext (h 0) rfl

theorem Delivers.drop {s : σ} {f : Stream' Token} (h : Delivers s f) (m : ℕ) :
    Delivers (after m s) (f.drop m) := by
  intro n
  rw [← after_add, Stream'.get_drop]
  exact h (m + n)

/-- **A lawful supply comes to an end**: if it raises no fault, it delivers the
end of the input behind at most as many tokens as it has pending. -/
theorem Delivers.exists_isEof [LawfulSupply σ] {s : σ} {f : Stream' Token} (h : Delivers s f) :
    ∃ k ≤ pending s, (f.get k).isEof = true := by
  induction hn : pending s using Nat.strong_induction_on generalizing s f with
  | _ n ih =>
    subst hn
    by_cases hf : f.head.isEof = true
    · exact ⟨0, Nat.zero_le _, hf⟩
    · have hlt : pending (after 1 s) < pending s :=
        LawfulSupply.pending_lt h.pull_eq (Bool.eq_false_iff.2 hf)
      obtain ⟨k, hk, heof⟩ := ih _ hlt (h.drop 1) rfl
      refine ⟨k + 1, Nat.lt_of_le_of_lt hk hlt, ?_⟩
      rw [Stream'.get_drop, Nat.add_comm] at heof
      exact heof

end Supply

namespace TokenList

/-- What a list of tokens delivers: the tokens, and then the end of the input
for ever. -/
def stream (s : TokenList) : Stream' Token :=
  fun n => (s.rest[n]?).getD (Token.endOfInput s.lastLine 1)

theorem after_eq (n : ℕ) (s : TokenList) : Supply.after n s = ⟨s.rest.drop n, s.lastLine⟩ := by
  induction n generalizing s with
  | zero => rfl
  | succ n ih =>
    rw [Supply.after, ih]
    show TokenList.mk (s.next.2.rest.drop n) s.next.2.lastLine = _
    unfold next
    split
    · next hnil => rw [hnil, List.drop_nil, List.drop_nil]
    · next t rest hcons => rw [hcons, List.drop_succ_cons]

theorem delivers_stream (s : TokenList) : Supply.Delivers s s.stream := by
  intro n
  rw [after_eq]
  show Except.ok (TokenList.mk (s.rest.drop n) s.lastLine).next.1 = _
  have hget : (s.rest.drop n)[0]? = s.rest[n]? := by rw [List.getElem?_drop, Nat.add_zero]
  show _ = Except.ok ((s.rest[n]?).getD (Token.endOfInput s.lastLine 1))
  rw [← hget]
  unfold next
  cases s.rest.drop n <;> rfl

end TokenList

namespace Analyser

variable {σ τ : Type} [Supply σ]

/-- The tokens that an analyser has before it: the lookahead, and what its
supply delivers. -/
structure Faces (a : Analyser σ τ) (f : Stream' Token) : Prop where
  lookahead : a.lookahead = f.head
  supply : Supply.Delivers a.supply f.tail

/-- The analyser after the first `m` of the tokens that it faces, and with some
notices written down. -/
def past (j : Analyser σ Journal) (f : Stream' Token) (m : ℕ) (heard : List Notice) :
    Analyser σ Journal :=
  ⟨Supply.after m j.supply, j.sink.write heard, f.get m, j.sourceName⟩

/-- An analyser that was just made faces all that its supply delivers. -/
theorem start_of_delivers {s : σ} {f : Stream' Token} (h : Supply.Delivers s f) (sink : τ)
    (sourceName : String) :
    start s sink sourceName = .ok ⟨Supply.after 1 s, sink, f.head, sourceName⟩ := by
  unfold start
  rw [h.pull_eq]

theorem faces_start {s : σ} {f : Stream' Token} (h : Supply.Delivers s f) (sink : τ)
    (sourceName : String) :
    Faces ⟨Supply.after 1 s, sink, f.head, sourceName⟩ f := ⟨rfl, h.drop 1⟩

variable {j : Analyser σ Journal} {f : Stream' Token}

theorem Faces.past (h : j.Faces f) (m : ℕ) (heard : List Notice) :
    (j.past f m heard).Faces (f.drop m) := by
  refine ⟨(Stream'.head_drop f m).symm, ?_⟩
  rw [Stream'.tail_drop]
  exact h.supply.drop m

/-- Writing comes to nothing else. -/
theorem past_zero_eq (h : j.lookahead = f.head) (heard : List Notice) :
    j.past f 0 heard = j.wrote heard := by
  rw [Analyser.past, Supply.after, ← Stream'.head, ← h]
  rfl

theorem Faces.past_zero (h : j.Faces f) (heard : List Notice) :
    j.past f 0 heard = j.wrote heard := past_zero_eq h.lookahead heard

theorem wrote_past (m : ℕ) (heard ns : List Notice) :
    (j.past f m heard).wrote ns = j.past f m (heard ++ ns) := by
  unfold past wrote
  dsimp only [Journal.write]
  rw [List.append_assoc]

theorem past_past (m n : ℕ) (heard heard' : List Notice) :
    (j.past f m heard).past (f.drop m) n heard' = j.past f (m + n) (heard ++ heard') := by
  unfold past
  dsimp only [Journal.write]
  rw [Supply.after_add, Stream'.get_drop, List.append_assoc]

/-- The lookahead is accepted, and the next token of the stream takes its place. -/
theorem accept_eq_past {s : Symbol} (hs : j.lookahead.symbol = s)
    (hnext : (Supply.pull j.supply).1 = .ok (f.get 1)) :
    accept s j = (.ok (), j.past f 1 [.event (.terminal j.lookahead)]) :=
  accept_of_pull hs (Prod.ext hnext rfl)

end Analyser

/-! ## Symbols of a stream -/

/-- The symbols of a stream of tokens. -/
def symbols (f : Stream' Token) : Stream' Symbol := f.map Token.symbol

theorem take_symbols (f : Stream' Token) (n : ℕ) :
    (symbols f).take n = (f.take n).map Token.symbol := by
  induction n generalizing f with
  | zero => rfl
  | succ n ih =>
    rw [Stream'.take_succ, Stream'.take_succ, List.map_cons]
    exact congrArg _ (ih f.tail)

theorem drop_symbols (f : Stream' Token) (n : ℕ) :
    (symbols f).drop n = symbols (f.drop n) := Stream'.drop_map _ n f

/-- A phrase that does not mention the end of the input does not derive it. -/
theorem Phrase.Derives.length_le {p : Phrase} {f : Stream' Token} {k m : ℕ}
    (h : p.Derives ((symbols f).take m)) (hp : p.mentionsEnd = false)
    (hk : (f.get k).isEof = true) : m ≤ k := by
  by_contra hlt
  refine h.eof_not_mem hp ?_
  have hget := Stream'.getElem?_take (s := symbols f) (Nat.lt_of_not_le hlt)
  rw [show (symbols f).get k = .eof from eq_of_beq hk] at hget
  exact List.mem_of_getElem? hget

/-! ## What an action reads -/

/-- An error that the grammar raised, and at whose far end this token is said
not to fit. -/
def Raised.Accuses (e : Raised) (t : Token) : Prop :=
  (∃ g, e.fault = .grammar g) ∧ ∃ message, e.innermost = .grammar ⟨message, some t, none⟩

theorem Raised.accuses_mismatchError (t : Token) (message : String) :
    (mismatchError t message).Accuses t := ⟨⟨_, rfl⟩, message, rfl⟩

/-- A rule that is left by an error accuses whom the error accuses. -/
theorem Raised.Accuses.wrap {σ τ : Type} {e : Raised} {t : Token} (h : e.Accuses t)
    (a : Analyser σ τ) (expected : String) : (a.wrap expected e).Accuses t := by
  obtain ⟨⟨g, hg⟩, message, hm⟩ := h
  have hsyn : e.isSyntactic = true := by rw [Raised.isSyntactic, hg]; rfl
  rw [Analyser.wrap, if_pos hsyn]
  exact ⟨⟨_, rfl⟩, message, by rw [Raised.innermost_because, hm]⟩

/-- How the checking of a phrase ends after the first `m` tokens of a stream.
It ends well with a sentence, whose derivation tree is what the sink has heard;
or else with an error about the next token. -/
def Verdict (p : Phrase) (f : Stream' Token) (m : ℕ) (heard : List Notice) : Outcome → Prop
  | .ok () =>
    p.Accepts (symbols f) m
      ∧ ∃ trees, p.Builds trees ∧ tokensAll trees = f.take m
        ∧ heard = (eventsAll trees).map Notice.event
  | .error e =>
    p.Rejects (symbols f) m ∧ heard.filterMap Notice.token? = f.take m ∧ e.Accuses (f.get m)

/-- **What an action reads as a phrase**: it leaves the analyser behind some
tokens of the stream, and with a verdict on them. -/
def Reads {σ : Type} [Supply σ] (p : Phrase) (f : Stream' Token) (j : Analyser σ Journal)
    (result : Outcome × Analyser σ Journal) : Prop :=
  ∃ m heard, result.2 = j.past f m heard ∧ Verdict p f m heard result.1

/-- Phrases with the same trees read alike. -/
theorem Verdict.congr {p q : Phrase} {f : Stream' Token} {m : ℕ} {heard : List Notice}
    {o : Outcome} (hw : ∀ w, p.Derives w ↔ q.Derives w) (hx : ∀ xs, p.Builds xs → q.Builds xs)
    (h : Verdict p f m heard o) : Verdict q f m heard o := by
  cases o with
  | ok =>
    obtain ⟨hacc, trees, hb, ht⟩ := h
    exact ⟨hacc.congr hw, trees, hx _ hb, ht⟩
  | error e =>
    obtain ⟨hrej, ht⟩ := h
    exact ⟨hrej.congr hw, ht⟩

namespace Reads

variable {σ : Type} [Supply σ] {p q : Phrase} {f : Stream' Token} {j : Analyser σ Journal}
  {x y : Action σ Journal}

theorem empty (hj : j.Faces f) : Reads .empty f j (Action.done j) := by
  refine ⟨0, [], ?_, Phrase.accepts_empty, [], .empty, rfl, rfl⟩
  rw [hj.past_zero, Analyser.wrote_nil]
  rfl

theorem mismatch_eq (hj : j.Faces f) (expected : String) :
    Analyser.mismatch expected j
      = (.error (mismatchError j.lookahead (j.message expected j.lookahead)),
          j.past f 0 [.mismatch j.lookahead (j.message expected j.lookahead)]) := by
  rw [hj.past_zero]
  exact Analyser.mismatch_wrote j expected

theorem unmet (hj : j.Faces f) (expected : String) :
    Reads (.unmet expected) f j (Analyser.mismatch expected j) := by
  rw [mismatch_eq hj]
  refine ⟨0, _, rfl, Phrase.rejects_unmet, rfl, ?_⟩
  rw [hj.lookahead]
  exact Raised.accuses_mismatchError ..

theorem terminal (hj : j.Faces f) (s : Symbol) :
    Reads (.terminal s) f j (Analyser.accept s j) := by
  by_cases hs : j.lookahead.symbol = s
  · have hhead : (symbols f).head = s := by rw [← hs, hj.lookahead]; rfl
    rw [Analyser.accept_eq_past hs (hj.supply 0)]
    refine ⟨1, _, rfl, hhead ▸ Phrase.accepts_terminal, [.leaf j.lookahead],
      .terminal hs, ?_, rfl⟩
    rw [tokensAll_leaf, hj.lookahead]
    rfl
  · have hhead : (symbols f).head ≠ s := fun he => hs (by rw [hj.lookahead]; exact he)
    rw [Analyser.accept_of_ne hs, mismatch_eq hj]
    refine ⟨0, _, rfl, Phrase.rejects_terminal hhead, rfl, ?_⟩
    rw [hj.lookahead]
    exact Raised.accuses_mismatchError ..

/-- **A sequence.** The second action has to read only what the first can leave
behind. -/
theorem seq (hpq : (Phrase.seq p q).Predictive) (hx : Reads p f j (x j))
    (hy : ∀ m heard, p.Derives ((symbols f).take m) →
      Reads q (f.drop m) (j.past f m heard) (y (j.past f m heard))) :
    Reads (.seq p q) f j (Action.andThen x y j) := by
  obtain ⟨m, heard, hstate, hverdict⟩ := hx
  unfold Action.andThen
  rcases hxj : x j with ⟨_ | _, k⟩
  all_goals rw [hxj] at hstate hverdict
  all_goals obtain rfl : k = _ := hstate
  · obtain ⟨hrej, hrest⟩ := hverdict
    exact ⟨m, heard, rfl, hrej.seq_left hpq, hrest⟩
  · obtain ⟨hacc, trees, hbuilds, htokens, rfl⟩ := hverdict
    obtain ⟨n, heard', hstate', hverdict'⟩ := hy m _ hacc.1
    refine ⟨m + n, _, hstate'.trans (Analyser.past_past ..), ?_⟩
    dsimp only
    generalize (y (j.past f m _)).1 = o at hverdict' ⊢
    cases o with
    | error e =>
      obtain ⟨hrej, hterm, haccuses⟩ := hverdict'
      rw [← drop_symbols] at hrej
      refine ⟨hrej.seq_right hpq hacc, ?_, by rwa [Stream'.get_drop] at haccuses⟩
      rw [List.filterMap_append, hterm, terminals_events, htokens, ← Stream'.take_add]
    | ok =>
      obtain ⟨hacc', trees', hbuilds', htokens', rfl⟩ := hverdict'
      rw [← drop_symbols] at hacc'
      refine ⟨hacc.seq hpq hacc', trees ++ trees', hbuilds.seq hbuilds', ?_, ?_⟩
      · rw [tokensAll_append, htokens, htokens', ← Stream'.take_add]
      · rw [eventsAll_append, List.map_append]

theorem alt (hpq : (Phrase.alt p q).Predictive) (hj : j.Faces f) (hx : Reads p f j (x j))
    (hy : Reads q f j (y j)) :
    Reads (.alt p q) f j (Action.ifNext p.starters x y j) := by
  have hhead : (symbols f).head = j.lookahead.symbol := by rw [hj.lookahead]; rfl
  unfold Action.ifNext
  by_cases hs : j.lookahead.symbol ∈ p.starters
  · rw [if_pos hs]
    rw [← hhead] at hs
    obtain ⟨m, heard, hstate, hverdict⟩ := hx
    refine ⟨m, heard, hstate, ?_⟩
    generalize (x j).1 = o at hverdict ⊢
    cases o with
    | ok => exact ⟨hverdict.1.alt_left hpq hs, hverdict.2.imp fun _ h => ⟨.altLeft h.1, h.2⟩⟩
    | error e => exact ⟨hverdict.1.alt_left hpq hs, hverdict.2⟩
  · rw [if_neg hs]
    rw [← hhead] at hs
    obtain ⟨m, heard, hstate, hverdict⟩ := hy
    refine ⟨m, heard, hstate, ?_⟩
    generalize (y j).1 = o at hverdict ⊢
    cases o with
    | ok => exact ⟨hverdict.1.alt_right hs, hverdict.2.imp fun _ h => ⟨.altRight h.1, h.2⟩⟩
    | error e => exact ⟨hverdict.1.alt_right hpq hs, hverdict.2⟩

theorem notify_eq (hj : j.Faces f) (e : Event) :
    Analyser.notify (.event e) j = (.ok (), j.past f 0 [.event e]) := by
  rw [hj.past_zero]
  exact Analyser.notify_wrote j e

/-- **A rule** is read as its production is, between two notices. -/
theorem rule (hj : j.Faces f) (r : Rule)
    (hx : Reads r.production f (j.past f 0 [.event (.enter r.label)])
      (x (j.past f 0 [.event (.enter r.label)]))) :
    Reads (.rule r) f j (Analyser.bracket r x j) := by
  have hw : ∀ w, r.production.Derives w ↔ (Phrase.rule r).Derives w :=
    fun w => ⟨.rule, fun h => by cases h; assumption⟩
  obtain ⟨m, heard, hstate, hverdict⟩ := hx
  unfold Analyser.bracket
  rw [notify_eq hj]
  dsimp only
  generalize x (j.past f 0 [.event (.enter r.label)]) = result at hstate hverdict
  obtain ⟨o, k⟩ := result
  obtain rfl : k = j.past f (0 + m) (.event (.enter r.label) :: heard) :=
    hstate.trans (Analyser.past_past ..)
  rw [Nat.zero_add, notify_eq (hj.past m _)]
  dsimp only at hverdict ⊢
  rw [Analyser.past_past, Nat.add_zero]
  refine ⟨m, _, rfl, ?_⟩
  cases o with
  | ok =>
    obtain ⟨hacc, trees, hbuilds, htokens, rfl⟩ := hverdict
    refine ⟨hacc.congr hw, [.node r trees], .rule hbuilds, ?_, ?_⟩
    · rw [tokensAll_node, htokens]
    · rw [eventsAll_node, List.map_cons, List.map_append]
      rfl
  | error e =>
    obtain ⟨hrej, hterm, haccuses⟩ := hverdict
    refine ⟨hrej.congr hw, ?_, haccuses.wrap _ _⟩
    rw [List.filterMap_append, List.filterMap_cons_none rfl, hterm]
    exact List.append_nil _

/-- **A repetition** is the choice between once more and no more. -/
theorem star (hp : (Phrase.star p).Predictive) (hj : j.Faces f) (hx : Reads p f j (x j))
    (hy : ∀ m heard, p.Derives ((symbols f).take m) →
      Reads (.star p) (f.drop m) (j.past f m heard) (y (j.past f m heard))) :
    Reads (.star p) f j (Action.ifNext p.starters (Action.andThen x y) Action.done j) := by
  -- the laws of choice and sequence apply to what the repetition is equivalent to
  have halt := hp.star
  obtain ⟨m, heard, hstate, hverdict⟩ := alt halt hj (seq halt.1 hx hy) (empty hj)
  rw [Phrase.starters_seq_star hp] at hstate hverdict
  refine ⟨m, heard, hstate, hverdict.congr (fun w => Phrase.derives_star_iff.symm) ?_⟩
  intro xs hxs
  cases hxs with
  | altLeft h =>
    cases h with
    | seq h₁ h₂ => exact .starCons h₁ h₂
  | altRight h =>
    cases h
    exact .starNil

end Reads

/-! ## The interpreter -/

section Follow

variable {σ : Type} [Supply σ] {f : Stream' Token}

/-- One level of the interpreter, given that the level below reads what is
referred to: productions at the same place, and repetitions behind at least one
token. The bound `k` is a place at which the end of the input comes. -/
theorem reads_followWith {call : Phrase → Action σ Journal} {n : ℕ}
    (hcall : ∀ (p : Phrase) (f : Stream' Token) (j : Analyser σ Journal) (k : ℕ),
      p.Predictive → p.mentionsEnd = false → j.Faces f → (f.get k).isEof = true →
        8 * k + p.height < n → Reads p f j (call p j))
    (p : Phrase) (f : Stream' Token) (j : Analyser σ Journal) (k : ℕ) (hp : p.Predictive)
    (hend : p.mentionsEnd = false) (hj : j.Faces f) (hk : (f.get k).isEof = true)
    (hn : 8 * k + p.height < n + 1) : Reads p f j (Analyser.followWith call p j) := by
  induction p generalizing f j k with
  | empty => exact .empty hj
  | unmet expected => exact .unmet hj expected
  | terminal s => exact .terminal hj s
  | rule r =>
    have hlt := r.height_production_lt
    rw [Phrase.height] at hn
    exact .rule hj r (hcall _ _ _ k r.predictive_production r.mentionsEnd_production
      (hj.past 0 _) hk (by omega))
  | seq p q ihp ihq =>
    rw [Phrase.mentionsEnd, Bool.or_eq_false_iff] at hend
    rw [Phrase.height] at hn
    refine .seq hp (ihp f j k hp.1 hend.1 hj hk ?_) (fun m heard hm => ?_)
    · split at hn <;> omega
    -- a taken token brings the end of the input nearer, and pays for the second part
    · have hmk := hm.length_le hend.1 hk
      refine ihq _ _ (k - m) hp.2.1 hend.2 (hj.past m heard) ?_ ?_
      · rwa [Stream'.get_drop, Nat.add_sub_cancel' hmk]
      · have hq := q.height_le
        cases m with
        | zero =>
          rw [if_pos (hm.nullable rfl)] at hn
          omega
        | succ m => omega
  | alt p q ihp ihq =>
    rw [Phrase.mentionsEnd, Bool.or_eq_false_iff] at hend
    rw [Phrase.height] at hn
    exact .alt hp hj (ihp f j k hp.1 hend.1 hj hk (by omega))
      (ihq f j k hp.2.1 hend.2 hj hk (by omega))
  | star p ih =>
    refine .star hp hj (ih f j k hp.1 hend hj hk hn) (fun m heard hm => ?_)
    have hmk := hm.length_le hend hk
    refine hcall _ _ _ (k - m) hp hend (hj.past m heard) ?_ ?_
    · rwa [Stream'.get_drop, Nat.add_sub_cancel' hmk]
    · have hheight := (Phrase.star p).height_le
      cases m with
      | zero =>
        have hnull := hm.nullable rfl
        rw [hp.2.2] at hnull
        cases hnull
      | succ m => omega

/-- **The interpreter reads a phrase**, if the depth is enough for the tokens
before the end of the input. -/
theorem reads_follow (n : ℕ) (p : Phrase) (f : Stream' Token) (j : Analyser σ Journal) (k : ℕ)
    (hp : p.Predictive) (hend : p.mentionsEnd = false) (hj : j.Faces f)
    (hk : (f.get k).isEof = true) (hn : 8 * k + p.height < n) :
    Reads p f j (Analyser.follow n p j) := by
  induction n generalizing p f j k with
  | zero => exact absurd hn (Nat.not_lt_zero _)
  | succ n ih => exact reads_followWith ih p f j k hp hend hj hk hn

end Follow

/-! ## Calls -/

namespace Call

section Verdict

variable {σ : Type} [Supply σ] {f : Stream' Token} {j : Analyser σ Journal}

theorem filterMap_closing (c : Call) (o : Outcome) :
    (c.closing o).filterMap Notice.token? = [] := by
  unfold closing
  split <;> rfl

theorem reads_checkRule (r : Rule) (hj : j.Faces f)
    (hend : ∃ k ≤ Supply.pending j.supply, (f.tail.get k).isEof = true) :
    Reads (.rule r) f j (Analyser.checkRule r j) := by
  obtain ⟨k, hle, hk⟩ := hend
  have hheight := (Phrase.rule r).height_le
  refine reads_follow _ _ f j (k + 1) trivial rfl hj hk ?_
  unfold Analyser.depthBound
  omega

/-- **Every call reads its phrase.** -/
theorem reads_check (c : Call) (hj : j.Faces f)
    (hend : ∃ k ≤ Supply.pending j.supply, (f.tail.get k).isEof = true) :
    Reads c.phrase f j (c.check j) := by
  cases c with
  | program =>
    exact .seq (by decide) (reads_checkRule .statementPart hj hend)
      fun m heard _ => .terminal (hj.past m heard) .eof
  | rule r => exact reads_checkRule r hj hend
  | terminal s => exact .terminal hj s

/-- **Every call ends with a verdict on its phrase.** When it ends well, the sink
has heard the walk through a derivation tree. -/
theorem exists_verdict (c : Call) (hj : j.Faces f)
    (hend : ∃ k ≤ Supply.pending j.supply, (f.tail.get k).isEof = true) :
    ∃ m heard, Verdict c.phrase f m heard (c.run j).1
      ∧ (c.run j).2 = j.past f m (heard ++ c.closing (c.run j).1) := by
  obtain ⟨m, heard, hstate, hverdict⟩ := c.reads_check hj hend
  rw [run_eq_check]
  refine ⟨m, heard, hverdict, ?_⟩
  dsimp only
  rw [hstate, Analyser.wrote_past]

end Verdict

variable {σ τ : Type} [Supply σ] [Listener τ]

/-- **The checker stops at the first error.** Let an analyser face a stream of
tokens in which the end of the input comes, as the supply promises, and let its
sink be calm. A call takes the longest prefix of the stream that is viable for
its phrase, and leaves the token behind it as the lookahead; the accepted
terminals are this prefix. If the prefix is a sentence, the call ends well. If
it is not, the call ends with an error of the grammar that blames the lookahead
at its far end. -/
theorem run_longest_viable (c : Call) (a : Analyser σ τ) (f : Stream' Token) (ha : a.Faces f)
    (hsink : Calm a.sink)
    (hend : ∃ k ≤ Supply.pending a.supply, (f.tail.get k).isEof = true) :
    ∃ m, (∀ n, c.phrase.Viable ((f.take n).map Token.symbol) ↔ n ≤ m)
      ∧ (c.notices a).filterMap Notice.token? = f.take m
      ∧ (c.run a).2
        = ⟨Supply.after m a.supply, sendAll (c.notices a) a.sink, f.get m, a.sourceName⟩
      ∧ ((c.run a).1 = .ok () ↔ c.phrase.Derives ((f.take m).map Token.symbol))
      ∧ (¬ c.phrase.Derives ((f.take m).map Token.symbol) →
        ∃ e, (c.run a).1 = .error e ∧ e.Accuses (f.get m)) := by
  obtain ⟨m, heard, hverdict, hstate⟩ :=
    c.exists_verdict (j := a.journaled) ⟨ha.lookahead, ha.supply⟩ hend
  have hsentence : c.phrase.hasSentence = true := by cases c <;> rfl
  have hnotices : c.notices a = heard ++ c.closing (c.run a.journaled).1 := by
    rw [notices, hstate]
    rfl
  rw [c.run_eq_replay a hsink, hnotices, hstate]
  generalize (c.run a.journaled).1 = o at hverdict ⊢
  refine ⟨m, fun n => ?_, ?_, ?_, ?_, ?_⟩
  · rw [← take_symbols]
    cases o with
    | ok => exact hverdict.1.viable_iff
    | error e => exact hverdict.1.viable_iff hsentence
  · rw [List.filterMap_append, filterMap_closing, List.append_nil]
    cases o with
    | ok =>
      obtain ⟨-, trees, -, htokens, rfl⟩ := hverdict
      rw [terminals_events, htokens]
    | error e => exact hverdict.2.1
  · rfl
  · rw [← take_symbols]
    cases o with
    | ok => exact iff_of_true rfl hverdict.1.1
    | error e => exact iff_of_false nofun hverdict.1.2.1
  · rw [← take_symbols]
    intro hn
    cases o with
    | ok => exact absurd hverdict.1.1 hn
    | error e => exact ⟨e, rfl, hverdict.2.2⟩

/-- An assignment that breaks off: of `x := end` the first two tokens are
viable. -/
theorem run_longest_viable_assignment :
    let s := TokenList.ofList
      [⟨.identifier, "x", 1, 1⟩, ⟨.becomes, ":=", 1, 3⟩, ⟨.kwEnd, "end", 1, 6⟩]
    let a : Analyser TokenList Sink := ⟨Supply.after 1 s, Sink.recorder, s.stream.head, "p"⟩
    let c := Call.rule .assignmentStatement
    a.Faces s.stream ∧ Calm a.sink
      ∧ (∃ k ≤ Supply.pending a.supply, (s.stream.tail.get k).isEof = true)
      ∧ ∃ m, (∀ n, c.phrase.Viable ((s.stream.take n).map Token.symbol) ↔ n ≤ m)
        ∧ (c.notices a).filterMap Notice.token? = s.stream.take m
        ∧ (c.run a).2
          = ⟨Supply.after m a.supply, sendAll (c.notices a) a.sink, s.stream.get m, a.sourceName⟩
        ∧ ((c.run a).1 = .ok () ↔ c.phrase.Derives ((s.stream.take m).map Token.symbol))
        ∧ (¬ c.phrase.Derives ((s.stream.take m).map Token.symbol) →
          ∃ e, (c.run a).1 = .error e ∧ e.Accuses (s.stream.get m)) := by
  intro s a c
  have ha : a.Faces s.stream := Analyser.faces_start s.delivers_stream _ _
  have hend : ∃ k ≤ Supply.pending a.supply, (s.stream.tail.get k).isEof = true :=
    (s.delivers_stream.drop 1).exists_isEof
  exact ⟨ha, Sink.calm_recording _, hend,
    run_longest_viable c a s.stream ha (Sink.calm_recording _) hend⟩

end Call

end SyntaxChecker
