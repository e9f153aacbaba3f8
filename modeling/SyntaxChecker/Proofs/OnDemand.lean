import SyntaxChecker.Proofs.Analyser.Accord
import SyntaxChecker.Proofs.Analyser.CalmSinks
import SyntaxChecker.Proofs.Analyser.Recognition
import SyntaxChecker.Proofs.Lexer.Yield

/-!
# Tokens on demand

A check of a text has the lexer make the next token when it needs one. It could as
well have the list of all tokens made first, and then check the list. There are two
differences. Behind the tokens of a list stands an end of the input of its own, which
is at another place than the one of the text; and if the text has a lexical error,
there is no list of all its tokens, but only one of those before the error.

Neither has any influence on what is found out (`lexing_on_demand`). A check of the
list is a check of the text, unless the tokens before a lexical error can still become
a program; and then the check of the text goes as far as the lexical error, and that
is what it reports.

The reason is the same for both differences. Two supplies with the same tokens at the
front are told apart by a check only if it accepts all of these tokens
(`Analyser.Accords`), so only if they are viable (`Analyser.passes_checkRule_iff`).
Tokens with an end of the input among them are not.
-/

namespace SyntaxChecker

open Listener SyntaxChecker.Tree

/-! ## Taking some tokens -/

namespace Supply.Yields

variable {σ : Type} [Supply σ] {s u v : σ} {ts us : List Token}

theorem pull_after (h : Yields s ts u) {i : ℕ} (hi : i < ts.length) :
    (pull (after i s)).1 = .ok ts[i] := by
  induction h generalizing i with
  | nil => exact absurd hi (Nat.not_lt_zero i)
  | cons hpull _ ih =>
    cases i with
    | zero => rw [after, hpull]; rfl
    | succ i =>
      rw [after, hpull]
      exact ih (Nat.lt_of_succ_lt_succ hi)

/-- No more tokens can be taken than there are before a fault. -/
theorem length_le_of_error {u' : σ} {r : Raised} (h : Yields s ts u)
    (hu : pull u = (.error r, u')) (hv : Yields s us v) : us.length ≤ ts.length := by
  by_contra hlt
  have hok := hv.pull_after (Nat.lt_of_not_le hlt)
  rw [h.after_length, hu] at hok
  cases hok

end Supply.Yields

/-! ## A list of the tokens -/

namespace TokenList

theorem get_stream {ts : List Token} (line : Int) {i : ℕ} (hi : i < ts.length) :
    (TokenList.mk ts line).stream.get i = ts[i] := by
  show (ts[i]?).getD _ = _
  rw [List.getElem?_eq_getElem hi]
  rfl

theorem take_length_stream (ts : List Token) (line : Int) :
    (TokenList.mk ts line).stream.take ts.length = ts := by
  induction ts with
  | nil => rfl
  | cons t ts ih =>
    rw [stream_cons, List.length_cons]
    exact congrArg (t :: ·) ih

end TokenList

/-! ## The end of a program -/

/-- Tokens that can become a program with the end of the input behind it can become a
program, unless there is an end of the input among them. -/
theorem viable_of_viable_program {v : List Symbol} (h : Call.program.phrase.Viable v)
    (hv : .eof ∉ v) : (Phrase.rule .statementPart).Viable v := by
  obtain ⟨w, hw⟩ := h
  obtain ⟨u, hu, heq⟩ := derives_program_iff.1 hw
  rcases List.eq_nil_or_concat w with rfl | ⟨w, x, rfl⟩
  · rw [List.append_nil] at heq
    exact absurd (heq ▸ List.mem_append_right u (List.mem_singleton.2 rfl)) hv
  · rw [List.concat_eq_append, ← List.append_assoc] at heq
    obtain rfl := (List.append_inj' heq rfl).1
    exact ⟨w, hu⟩

/-- A program has no end of the input in it. -/
theorem not_viable_of_isEof {ts : List Token} {t : Token} (ht : t ∈ ts) (heof : t.isEof = true) :
    ¬ (Phrase.rule .statementPart).Viable (ts.map Token.symbol) := by
  rintro ⟨w, hw⟩
  refine hw.eof_not_mem rfl (List.mem_append_left w ?_)
  exact List.mem_map.2 ⟨t, ht, eq_of_beq heof⟩

namespace Analyser

variable {σ σ' : Type} [Supply σ] [Supply σ']

/-- The same terminal is accepted or not, as far as there is a token behind it. -/
theorem accept_congr {j : Analyser σ Journal} {j' : Analyser σ' Journal} {s : Symbol}
    (hahead : j.lookahead = j'.lookahead) (hsink : j.sink = j'.sink)
    (hname : j.sourceName = j'.sourceName)
    (hpull : j.lookahead.symbol = s → ∃ t u, Supply.pull j.supply = (.ok t, u))
    (hpull' : j'.lookahead.symbol = s → ∃ t u, Supply.pull j'.supply = (.ok t, u)) :
    (accept s j).1 = (accept s j').1 ∧ (accept s j).2.sink = (accept s j').2.sink := by
  by_cases hs : j.lookahead.symbol = s
  · have hs' : j'.lookahead.symbol = s := hahead ▸ hs
    obtain ⟨t, u, hpull⟩ := hpull hs
    obtain ⟨t', u', hpull'⟩ := hpull' hs'
    rw [accept_of_pull hs hpull, accept_of_pull hs' hpull']
    refine ⟨rfl, ?_⟩
    show j.sink.write [.event (.terminal j.lookahead)] = j'.sink.write _
    rw [hsink, hahead]
  · have hs' : j'.lookahead.symbol ≠ s := hahead ▸ hs
    rw [accept_of_ne hs, accept_of_ne hs', mismatch_wrote, mismatch_wrote, message, message,
      hahead, hname]
    refine ⟨rfl, ?_⟩
    show j.sink.write _ = j'.sink.write _
    rw [hsink]

variable {f : Stream' Token} {n : ℕ} {j : Analyser σ Journal} {j' : Analyser σ' Journal}

/-- **Of tokens that are not viable, two supplies tell a check the same**, if they have
something behind every end of the input among them. -/
theorem Twins.run_program [LawfulSupply σ] [LawfulSupply σ'] (h : Twins n f f j j')
    (hsink : j.sink = j'.sink) (hpass : ¬ j'.Passes f n (checkRule .statementPart j').2)
    (hend : ∀ m ≤ n, (f.get m).isEof = true →
      (∃ t u, Supply.pull (Supply.after m j.supply) = (.ok t, u))
        ∧ ∃ t u, Supply.pull (Supply.after m j'.supply) = (.ok t, u)) :
    (Call.program.run j).1 = (Call.program.run j').1
      ∧ (Call.program.run j).2.sink = (Call.program.run j').2.sink := by
  obtain ⟨houtcome, m, hm, ns, hstate, hstate'⟩ :=
    (accords_checkRule .statementPart h).eq_of_not_passes h.sourceName_eq hpass
  have hpast : (j.past f m ns).sink = (j'.past f m ns).sink := congrArg (·.write ns) hsink
  have hcheck : (Call.program.check j).1 = (Call.program.check j').1
      ∧ (Call.program.check j).2.sink = (Call.program.check j').2.sink := by
    show (Action.andThen _ _ j).1 = (Action.andThen _ _ j').1
      ∧ (Action.andThen _ _ j).2.sink = (Action.andThen _ _ j').2.sink
    unfold Action.andThen
    rcases hj : checkRule .statementPart j with ⟨o, k⟩
    rcases hj' : checkRule .statementPart j' with ⟨o', k'⟩
    rw [hj, hj'] at houtcome
    rw [hj] at hstate
    rw [hj'] at hstate'
    obtain rfl : o = o' := houtcome
    obtain rfl : k = _ := hstate
    obtain rfl : k' = _ := hstate'
    cases o with
    | error e => exact ⟨rfl, hpast⟩
    | ok =>
      refine accept_congr rfl hpast h.sourceName_eq ?_ ?_
      · exact fun heof => (hend m hm (beq_iff_eq.2 heof)).1
      · exact fun heof => (hend m hm (beq_iff_eq.2 heof)).2
  rw [Call.run_eq_check, Call.run_eq_check]
  refine ⟨hcheck.1, ?_⟩
  show (Call.program.check j).2.sink.write _ = (Call.program.check j').2.sink.write _
  rw [hcheck.1, hcheck.2]

/-! ## A supply and the list of its first tokens -/

/-- An analyser that is about to check a program, and keeps a journal of it. -/
def begun (s : σ) (t : Token) (sourceName : String) : Analyser σ Journal :=
  ⟨s, Journal.empty, t, sourceName⟩

variable {s u : σ} {t : Token} {ts : List Token}

theorem facesFor_begun (h : Supply.Yields s ts u) (t : Token) (sourceName : String) (line : Int) :
    (begun s t sourceName).FacesFor ts.length (TokenList.mk (t :: ts) line).stream := by
  refine ⟨rfl, fun i hi => ?_⟩
  rw [TokenList.get_stream line (Nat.succ_lt_succ hi)]
  exact h.pull_after hi

theorem faces_begun_tokenList (t : Token) (ts : List Token) (line : Int) (sourceName : String) :
    (begun (TokenList.mk ts line) t sourceName).Faces (TokenList.mk (t :: ts) line).stream :=
  faces_start (TokenList.mk (t :: ts) line).delivers_stream _ _

theorem twins_begun (h : Supply.Yields s ts u) (t : Token) (line : Int) (sourceName : String) :
    Twins ts.length (TokenList.mk (t :: ts) line).stream (TokenList.mk (t :: ts) line).stream
      (begun s t sourceName) (begun (TokenList.mk ts line) t sourceName) where
  faces := facesFor_begun h t sourceName line
  faces' := (faces_begun_tokenList t ts line sourceName).facesFor _
  symbol_eq _ _ := rfl
  sourceName_eq := rfl

/-- The list of some tokens has them all accepted exactly if they are viable. -/
theorem passes_begun_tokenList_iff (t : Token) (ts : List Token) (line : Int)
    (sourceName : String) :
    (begun (TokenList.mk ts line) t sourceName).Passes (TokenList.mk (t :: ts) line).stream
        ts.length (checkRule .statementPart (begun (TokenList.mk ts line) t sourceName)).2
      ↔ (Phrase.rule .statementPart).Viable ((t :: ts).map Token.symbol) := by
  have hend := ((TokenList.mk (t :: ts) line).delivers_stream.drop 1).exists_isEof
  rw [passes_checkRule_iff .statementPart (faces_begun_tokenList t ts line sourceName) hend,
    ← List.length_cons (a := t), TokenList.take_length_stream]

end Analyser

/-- **A call that has accepted all tokens before a fault of the supply** ends with the
fault. -/
theorem Call.error_of_accepted {σ : Type} [Supply σ] [LawfulSupply σ] (c : Call)
    {j : Analyser σ Journal} {ts : List Token} {ns : List Notice} {u u' : σ} {r : Raised}
    (h : Supply.Yields j.supply ts u) (hu : Supply.pull u = (.error r, u'))
    (hr : r.isSyntactic = true) (hsink : (c.run j).2.sink = j.sink.write ns)
    (hns : j.lookahead :: ts <+: ns.filterMap Notice.token?) :
    (∃ e, (c.run j).1 = .error e ∧ e.innermost = r.innermost)
      ∧ ns.filterMap Notice.token? = j.lookahead :: ts := by
  have hsame : ∀ {ms}, (c.run j).2.sink = j.sink.write ms → ns = ms := fun hms =>
    List.append_cancel_left (congrArg Journal.notices (hsink.symm.trans hms))
  -- a token behind the accepted ones would be one behind the fault
  have hlast : ∀ {us v t}, Supply.Yields j.supply us v →
      ns.filterMap Notice.token? ++ [t] ≠ j.lookahead :: us := fun hyields heq => by
    have hle := h.length_le_of_error hu hyields
    have hlen := congrArg List.length heq
    have hlt := hns.length_le
    rw [List.length_append, List.length_singleton, List.length_cons] at hlen
    rw [List.length_cons] at hlt
    omega
  cases houtcome : (c.run j).1 with
  | ok =>
    obtain ⟨ms, us, hms, hyields, htokens⟩ := c.yields_of_ok houtcome
    obtain rfl := hsame hms
    exact absurd htokens (hlast hyields)
  | error e =>
    obtain ⟨ms, hms, horigin⟩ := c.origin_of_error houtcome
    obtain rfl := hsame hms
    cases horigin with
    | mismatch _ hyields htokens => exact absurd htokens.symm (hlast hyields)
    | @supply us _ v _ hyields htokens hpull hsyntactic =>
      rw [← htokens] at hns ⊢
      obtain rfl : ts = us := (List.cons_prefix_cons.1 hns).2.eq_of_length_le
        (h.length_le_of_error hu hyields)
      obtain rfl : u = v := h.after_length.symm.trans hyields.after_length
      obtain rfl : r = _ := Except.error.inj (congrArg Prod.fst (hu.symm.trans hpull))
      exact ⟨⟨e, rfl, (hsyntactic hr).2⟩, rfl⟩

/-! ## Checks of a supply -/

section Checks

variable {σ τ : Type} [Supply σ] [Listener τ] {s s' u u' : σ} {t : Token} {ts : List Token}
  {sink : τ}

theorem checkSupply_of_pull (h : Supply.pull s = (.ok t, s')) (hsink : Calm sink)
    (sourceName : String) :
    checkSupply s sink sourceName
      = ((Call.program.run (Analyser.begun s' t sourceName)).1,
        sendAll (Call.program.run (Analyser.begun s' t sourceName)).2.sink.notices sink) := by
  rw [checkSupply_of_calm s hsink]
  unfold Analyser.start
  rw [h]
  rfl

/-- A check of a supply that raises no fault ends with a verdict on a program. -/
theorem exists_verdict_checkSupply [LawfulSupply σ] {f : Stream' Token}
    (h : Supply.Delivers s f) (hsink : Calm sink) (sourceName : String) :
    ∃ m heard, Verdict Call.program.phrase f m heard (checkSupply s sink sourceName).1
      ∧ (checkSupply s sink sourceName).2
        = sendAll (heard ++ Call.program.closing (checkSupply s sink sourceName).1) sink := by
  obtain ⟨m, heard, hverdict, hstate⟩ := Call.program.exists_verdict
    (j := Analyser.begun (Supply.after 1 s) f.head sourceName) (Analyser.faces_start h _ _)
    (h.drop 1).exists_isEof
  rw [checkSupply_of_pull h.pull_eq hsink, hstate]
  exact ⟨m, heard, hverdict, rfl⟩

/-- **Tokens that are not viable** may as well be taken from a list. -/
theorem checkSupply_eq_of_not_viable [LawfulSupply σ] (h : Supply.Yields s ts u)
    (hend : (∃ t ∈ ts, t.isEof = true) → ∃ t u', Supply.pull u = (.ok t, u'))
    (hviable : ¬ (Phrase.rule .statementPart).Viable (ts.map Token.symbol)) (hsink : Calm sink)
    (sourceName : String) :
    checkSupply s sink sourceName = checkSupply (TokenList.ofList ts) sink sourceName := by
  cases h with
  | nil => exact absurd (Phrase.exists_derives rfl) hviable
  | @cons _ s' _ t ts hpull hrest =>
    let line := (TokenList.ofList (t :: ts)).lastLine
    have hlist : Supply.pull (TokenList.ofList (t :: ts)) = (.ok t, TokenList.mk ts line) := rfl
    have htwins := Analyser.twins_begun hrest t line sourceName
    rw [checkSupply_of_pull hpull hsink, checkSupply_of_pull hlist hsink]
    have hsame := htwins.run_program rfl
      (mt (Analyser.passes_begun_tokenList_iff t ts line sourceName).1 hviable)
      fun m hm heof => ⟨?_, _, _, rfl⟩
    · rw [hsame.1, hsame.2]
    · have hlt : m < (t :: ts).length := Nat.lt_succ_of_le hm
      rw [TokenList.get_stream line hlt] at heof
      rcases Nat.lt_or_eq_of_le hm with hm | rfl
      · exact ⟨_, _, Prod.ext (hrest.pull_after hm) rfl⟩
      · show ∃ v u', Supply.pull (Supply.after ts.length s') = (.ok v, u')
        rw [hrest.after_length]
        exact hend ⟨_, List.getElem_mem hlt, heof⟩

/-- **Tokens that are viable** are all accepted, and then comes the fault of the
supply. -/
theorem exists_error_of_viable [LawfulSupply σ] {r : Raised} (h : Supply.Yields s ts u)
    (hts : ts ≠ []) (hu : Supply.pull u = (.error r, u')) (hr : r.isSyntactic = true)
    (hviable : (Phrase.rule .statementPart).Viable (ts.map Token.symbol))
    (sourceName : String) :
    ∃ e record, checkSupply s Sink.recorder sourceName = (.error e, .recording record)
      ∧ e.innermost = r.innermost ∧ record.terminals = ts := by
  cases h with
  | nil => exact absurd rfl hts
  | @cons _ s' _ t ts hpull hrest =>
    let line := (TokenList.ofList (t :: ts)).lastLine
    let f := (TokenList.mk (t :: ts) line).stream
    let j := Analyser.begun s' t sourceName
    have hpass : j.Passes f ts.length (Call.program.run j).2 := by
      have hrule := (Analyser.accords_checkRule .statementPart
        (Analyser.twins_begun hrest t line sourceName)).passes
        ((Analyser.passes_begun_tokenList_iff t ts line sourceName).2 hviable)
      have hcheck : j.Passes f ts.length (Call.program.check j).2 :=
        hrule.andThen fun k => (Analyser.Runs.lockstep.terminal .eof k).sink_eq
      rw [Call.run_eq_check]
      exact hcheck.grow rfl
    obtain ⟨ns, hsink, htokens⟩ := hpass
    rw [← List.length_cons (a := t), TokenList.take_length_stream] at htokens
    obtain ⟨⟨e, he, hinner⟩, haccepted⟩ :=
      Call.program.error_of_accepted hrest hu hr hsink htokens
    refine ⟨e, ns.foldl Recording.hear Recording.empty, ?_, hinner, ?_⟩
    · rw [checkSupply_of_pull hpull Sink.calm_recorder, he, hsink]
      exact congrArg (Prod.mk _) (sendAll_recording ns Recording.empty)
    · rw [Recording.terminals_foldl_hear, haccepted]
      rfl

end Checks

/-! ## Checks of a list -/

section Lists

variable {ts : List Token}

/-- If tokens without an end of the input are not viable, a check of their list ends
with an error about one of them. -/
theorem exists_accused_of_not_viable {τ : Type} [Listener τ] {sink : τ}
    (hts : ∀ t ∈ ts, t.isEof = false)
    (hviable : ¬ (Phrase.rule .statementPart).Viable (ts.map Token.symbol)) (hsink : Calm sink)
    (sourceName : String) :
    ∃ e t, (checkSupply (TokenList.ofList ts) sink sourceName).1 = .error e
      ∧ t ∈ ts ∧ e.Accuses t := by
  let f := (TokenList.ofList ts).stream
  have htake : f.take ts.length = ts := TokenList.take_length_stream ts _
  obtain ⟨m, heard, hverdict, -⟩ := exists_verdict_checkSupply
    (TokenList.ofList ts).delivers_stream hsink sourceName
  have heof : .eof ∉ ts.map Token.symbol := fun h => by
    obtain ⟨t, ht, hsymbol⟩ := List.mem_map.1 h
    have hfalse := hts t ht
    rw [Token.isEof, hsymbol] at hfalse
    cases hfalse
  generalize (checkSupply (TokenList.ofList ts) sink sourceName).1 = o at hverdict ⊢
  have hlt : m < ts.length := by
    by_contra hle
    refine hviable (viable_of_viable_program ?_ heof)
    rw [← htake, ← take_symbols]
    cases o with
    | ok => exact hverdict.1.viable_iff.2 (Nat.le_of_not_lt hle)
    | error e => exact (hverdict.1.viable_iff rfl).2 (Nat.le_of_not_lt hle)
  cases o with
  | error e =>
    have hmem : f.get m ∈ ts := by
      rw [← htake]
      exact List.mem_of_getElem? (Stream'.getElem?_take hlt)
    exact ⟨e, f.get m, rfl, hmem, hverdict.2.2⟩
  | ok =>
    -- what is checked well ends with the end of the input
    obtain ⟨v, -, hv⟩ := derives_program_iff.1 hverdict.1.1
    refine absurd ?_ heof
    have hprefix := ((Stream'.take_prefix _ _ f).2 (Nat.le_of_lt hlt)).map Token.symbol
    rw [htake, ← take_symbols, hv] at hprefix
    exact hprefix.subset (List.mem_append_right v (List.mem_singleton.2 rfl))

/-- If the list of some tokens and an end of the input is checked well, then these are
the tokens that are recorded. -/
theorem terminals_of_checkSupply_ok {t : Token} (hts : ∀ u ∈ ts, u.isEof = false)
    (ht : t.isEof = true) {sourceName : String}
    (h : (checkSupply (TokenList.ofList (ts ++ [t])) Sink.recorder sourceName).1 = .ok ()) :
    ∃ record, (checkSupply (TokenList.ofList (ts ++ [t])) Sink.recorder sourceName).2
        = .recording record ∧ record.terminals = ts ++ [t] := by
  let s := TokenList.ofList (ts ++ [t])
  have hlist : s.stream.take (ts ++ [t]).length = ts ++ [t] := TokenList.take_length_stream _ _
  obtain ⟨-, htake, hget⟩ := eq_of_take_eq_concat hlist
  obtain ⟨m, heard, hverdict, hsink⟩ :=
    exists_verdict_checkSupply s.delivers_stream Sink.calm_recorder sourceName
  rw [h] at hverdict hsink
  obtain ⟨-, trees, hbuilds, htokens, rfl⟩ := hverdict
  obtain ⟨tree, -, hspelled, rfl⟩ := exists_of_builds_take hbuilds htokens
    (htake.symm ▸ hts) (hget.symm ▸ ht)
  refine ⟨_, hsink.trans (sendAll_recording _ Recording.empty), ?_⟩
  rw [Recording.terminals_foldl_hear, List.filterMap_append, terminals_events,
    Call.filterMap_closing, List.append_nil]
  show [] ++ tokensAll [tree, .leaf _] = _
  rw [List.nil_append, tokensAll, hspelled, htake, hget]
  rfl

end Lists

/-! ## Texts -/

/-- **A check of a text makes of its tokens what a check of their list makes.** If the
text has a list of tokens, the two checks end in the same way and record the same, and
a check that ends well has recorded all the tokens. If there is a lexical error in the
text, the tokens before it decide. Without any, the check comes to the lexical error
and nothing else. If they can become a program, the check accepts them all and ends
with an error that goes back to the lexical one. If they cannot, it is a check of their
list, and ends with an error about one of them. -/
theorem lexing_on_demand (text sourceName : String) :
    let result := checkText text Sink.recorder sourceName
    (∀ ts, tokensOf text = .ok ts →
        result = checkSupply (TokenList.ofList ts) Sink.recorder sourceName
          ∧ (result.1 = .ok () →
            ∃ record, result.2 = .recording record ∧ record.terminals = ts))
      ∧ (∀ e, tokensOf text = .error e ↔ ∃ ts, Lexer.BreaksOff text ts e)
      ∧ ∀ ts e, Lexer.BreaksOff text ts e →
        (ts = [] → result = (.error (Raised.fresh (.lexical e)), Sink.recorder))
          ∧ (ts ≠ [] → (∃ w, IsProgram (ts.map Token.symbol ++ w)) →
            ∃ r record, result = (.error r, .recording record)
              ∧ r.innermost = .lexical e ∧ record.terminals = ts)
          ∧ ((¬ ∃ w, IsProgram (ts.map Token.symbol ++ w)) →
            result = checkSupply (TokenList.ofList ts) Sink.recorder sourceName
              ∧ ∃ r t, result.1 = .error r ∧ t ∈ ts ∧ r.Accuses t) := by
  intro result
  refine ⟨fun ts hlist => ?_, fun e => Lexer.tokensOf_eq_error_iff, fun ts e hbreaks => ?_⟩
  · obtain ⟨us, t, l', rfl, hus, ht, hyields, hend⟩ := Lexer.yields_of_drain rfl hlist
    have hsame : result = checkSupply (TokenList.ofList (us ++ [t])) Sink.recorder sourceName :=
      checkSupply_eq_of_not_viable hyields
        (fun _ => ⟨_, _, Lexer.pull_eq_ok_iff.2 hend.next_eq⟩)
        (not_viable_of_isEof (List.mem_append_right us (List.mem_singleton.2 rfl)) ht)
        Sink.calm_recorder sourceName
    refine ⟨hsame, fun hok => ?_⟩
    rw [hsame] at hok ⊢
    exact terminals_of_checkSupply_ok hus ht hok
  · have hts := hbreaks.isEof_eq_false
    obtain ⟨l, l', hyields, hnext⟩ := hbreaks
    have hpull : Supply.pull l = (.error (Raised.fresh (.lexical e)), l') :=
      Lexer.pull_eq_error_iff.2 ⟨e, rfl, hnext⟩
    refine ⟨?_, fun hne hviable => ?_, fun hviable => ?_⟩
    · rintro rfl
      cases hyields
      show checkSupply _ _ _ = _
      unfold checkSupply Analyser.start
      rw [hpull]
    · exact exists_error_of_viable hyields hne hpull rfl hviable sourceName
    · have hsame : result = checkSupply (TokenList.ofList ts) Sink.recorder sourceName :=
        checkSupply_eq_of_not_viable hyields
          (fun ⟨t, ht, heof⟩ => absurd heof (Bool.eq_false_iff.1 (hts t ht)))
          hviable Sink.calm_recorder sourceName
      rw [hsame]
      exact ⟨rfl, exists_accused_of_not_viable hts hviable Sink.calm_recorder sourceName⟩

/-- A program, a text that begins with an error, one that may become a program before
its error, and one that may not. -/
theorem lexing_on_demand_four_texts :
    (∃ ts, tokensOf "begin x:=y end" = .ok ts
        ∧ checkText "begin x:=y end" Sink.recorder "p"
          = checkSupply (TokenList.ofList ts) Sink.recorder "p"
        ∧ (checkText "begin x:=y end" Sink.recorder "p").1 = .ok ()
        ∧ ∃ record, (checkText "begin x:=y end" Sink.recorder "p").2 = .recording record
          ∧ record.terminals = ts)
      ∧ (∃ e, Lexer.BreaksOff "?" [] e
        ∧ checkText "?" Sink.recorder "p" = (.error (Raised.fresh (.lexical e)), Sink.recorder))
      ∧ (∃ ts e, Lexer.BreaksOff "begin ?" ts e ∧ ts ≠ []
        ∧ (∃ w, IsProgram (ts.map Token.symbol ++ w))
        ∧ ∃ r record, checkText "begin ?" Sink.recorder "p" = (.error r, .recording record)
          ∧ r.innermost = .lexical e ∧ record.terminals = ts)
      ∧ ∃ ts e, Lexer.BreaksOff "x ?" ts e ∧ (¬ ∃ w, IsProgram (ts.map Token.symbol ++ w))
        ∧ checkText "x ?" Sink.recorder "p"
          = checkSupply (TokenList.ofList ts) Sink.recorder "p"
        ∧ ∃ r t, (checkText "x ?" Sink.recorder "p").1 = .error r ∧ t ∈ ts ∧ r.Accuses t := by
  have hlist : tokensOf "begin x:=y end" = .ok [⟨.kwBegin, "begin", 1, 1⟩,
      ⟨.identifier, "x", 1, 7⟩, ⟨.becomes, ":=", 1, 8⟩, ⟨.identifier, "y", 1, 10⟩,
      ⟨.kwEnd, "end", 1, 12⟩, .endOfInput 1 15] := by
    have h₁ : (Lexer.ofText "begin x:=y end").next
        = (.ok ⟨.kwBegin, "begin", 1, 1⟩, ⟨⟨" x:=y end".toList, 5, 1, 6⟩, none⟩) := rfl
    have h₂ : (⟨⟨" x:=y end".toList, 5, 1, 6⟩, none⟩ : Lexer).next
        = (.ok ⟨.identifier, "x", 1, 7⟩, ⟨⟨":=y end".toList, 7, 1, 8⟩, none⟩) := rfl
    have h₃ : (⟨⟨":=y end".toList, 7, 1, 8⟩, none⟩ : Lexer).next
        = (.ok ⟨.becomes, ":=", 1, 8⟩, ⟨⟨"y end".toList, 9, 1, 10⟩, none⟩) := rfl
    have h₄ : (⟨⟨"y end".toList, 9, 1, 10⟩, none⟩ : Lexer).next
        = (.ok ⟨.identifier, "y", 1, 10⟩, ⟨⟨" end".toList, 10, 1, 11⟩, none⟩) := rfl
    have h₅ : (⟨⟨" end".toList, 10, 1, 11⟩, none⟩ : Lexer).next
        = (.ok ⟨.kwEnd, "end", 1, 12⟩, ⟨⟨[], 14, 1, 15⟩, none⟩) := rfl
    have h₆ : (⟨⟨[], 14, 1, 15⟩, none⟩ : Lexer).next
        = (.ok (.endOfInput 1 15), ⟨⟨[], 14, 1, 15⟩, none⟩) := rfl
    rw [tokensOf, Lexer.drain_ok h₁, Lexer.drain_ok h₂, Lexer.drain_ok h₃, Lexer.drain_ok h₄,
      Lexer.drain_ok h₅, Lexer.drain_ok h₆]
    rfl
  have hquery : Lexer.BreaksOff "?" [] ⟨"Unexpected character '?'", 1, 1, "?"⟩ :=
    ⟨_, _, .nil _, rfl⟩
  have hbegin : Lexer.BreaksOff "begin ?" [⟨.kwBegin, "begin", 1, 1⟩]
      ⟨"Unexpected character '?'", 1, 7, "?"⟩ := ⟨_, _, .cons rfl (.nil _), rfl⟩
  have hx : Lexer.BreaksOff "x ?" [⟨.identifier, "x", 1, 1⟩]
      ⟨"Unexpected character '?'", 1, 3, "?"⟩ := ⟨_, _, .cons rfl (.nil _), rfl⟩
  have hviable : (Phrase.rule .statementPart).Viable [.kwBegin] :=
    Phrase.viable_singleton (p := .rule .statementPart) trivial (by decide)
  have hunviable : ¬ ∃ w, IsProgram ([.identifier] ++ w) := fun ⟨w, hw⟩ =>
    absurd (hw.mem_starters rfl) (by decide)
  obtain ⟨hlisted, -, -⟩ := lexing_on_demand "begin x:=y end" "p"
  obtain ⟨hsame, hterminals⟩ := hlisted _ hlist
  have hok : (checkText "begin x:=y end" Sink.recorder "p").1 = .ok () := by
    rw [hsame]
    decide +kernel
  refine ⟨⟨_, hlist, hsame, hok, hterminals hok⟩, ⟨_, hquery, ?_⟩,
    ⟨_, _, hbegin, List.cons_ne_nil _ _, hviable, ?_⟩, _, _, hx, hunviable, ?_⟩
  · exact ((lexing_on_demand "?" "p").2.2 _ _ hquery).1 rfl
  · exact ((lexing_on_demand "begin ?" "p").2.2 _ _ hbegin).2.1 (List.cons_ne_nil _ _) hviable
  · exact ((lexing_on_demand "x ?" "p").2.2 _ _ hx).2.2 hunviable

end SyntaxChecker
