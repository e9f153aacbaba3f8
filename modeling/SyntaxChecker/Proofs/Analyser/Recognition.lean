import Mathlib.Data.List.TakeWhile
import SyntaxChecker.Check
import SyntaxChecker.Proofs.Analyser.Prediction

/-!
# The checker recognises the programs

A list of tokens is checked up to the first end of the input in it, or up to
the one that is put behind it. The check ends well exactly if the symbols of
the tokens before that end are a program, and then the record of it is the
depth-first walk through the derivation tree of the program, with the end of
the input for the last event (`checkSupply_tokenList`).

Nothing new is proved about the checker for this. That the check ends well with
a sentence, and with the walk through a tree of it, is its verdict; that it
ends well with every sentence is the maximality of the longest viable prefix;
and the tree is the only one because the grammar is unambiguous.
-/

namespace SyntaxChecker

open Listener SyntaxChecker.Tree

/-! ## The tokens before the end of the input -/

namespace TokenList

/-- The tokens before the first end of the input. -/
def beforeEnd (ts : List Token) : List Token := ts.takeWhile fun t => !t.isEof

/-- The first end of the input among some tokens, or the one that is put behind
them. -/
def firstEnd (ts : List Token) : Token :=
  (ts.find? Token.isEof).getD (Token.endOfInput (ofList ts).lastLine 1)

theorem isEof_of_mem_beforeEnd {ts : List Token} {t : Token} (h : t ∈ beforeEnd ts) :
    t.isEof = false := by
  simpa using List.mem_takeWhile_imp h

theorem isEof_firstEnd (ts : List Token) : (firstEnd ts).isEof = true := by
  unfold firstEnd
  cases h : ts.find? Token.isEof with
  | none => rfl
  | some t => exact List.find?_some h

theorem stream_cons (t : Token) (ts : List Token) (line : Int) :
    (TokenList.mk (t :: ts) line).stream = (TokenList.mk ts line).stream.cons t := by
  funext n
  cases n <;> rfl

/-- The stream of a list of tokens begins with those before the end of the
input, and the end. -/
theorem take_stream (ts : List Token) (line : Int) :
    (TokenList.mk ts line).stream.take ((beforeEnd ts).length + 1)
      = beforeEnd ts ++ [(ts.find? Token.isEof).getD (Token.endOfInput line 1)] := by
  induction ts with
  | nil => rfl
  | cons t ts ih =>
    rw [stream_cons]
    cases ht : t.isEof with
    | true => simp [beforeEnd, ht]
    | false => simpa [beforeEnd, ht] using ih

end TokenList

/-- A stream that begins with some tokens and then another one. -/
theorem eq_of_take_eq_concat {α : Type} {f : Stream' α} {u : List α} {t : α} {m : ℕ}
    (h : f.take m = u ++ [t]) : m = u.length + 1 ∧ f.take u.length = u ∧ f.get u.length = t := by
  have hlen := congrArg List.length h
  rw [Stream'.length_take, List.length_append, List.length_singleton] at hlen
  subst hlen
  rw [Stream'.take_succ'] at h
  obtain ⟨hu, ht⟩ := List.append_inj' h rfl
  exact ⟨rfl, hu, List.singleton_inj.1 ht⟩

/-- The first end of the input in a stream is at one place only. -/
theorem eq_of_first_isEof {f : Stream' Token} {k l : ℕ}
    (hk : ∀ t ∈ f.take k, t.isEof = false) (hk' : (f.get k).isEof = true)
    (hl : ∀ t ∈ f.take l, t.isEof = false) (hl' : (f.get l).isEof = true) : k = l := by
  have hmem : ∀ {m n : ℕ}, m < n → f.get m ∈ f.take n :=
    fun h => List.mem_of_getElem? (Stream'.getElem?_take h)
  rcases Nat.lt_trichotomy k l with h | h | h
  · rw [hl _ (hmem h)] at hk'
    cases hk'
  · exact h
  · rw [hk _ (hmem h)] at hl'
    cases hl'

namespace TokenList

/-- What a list of tokens delivers before the first end of the input, and that
end. -/
theorem take_length_beforeEnd (ts : List Token) :
    (ofList ts).stream.take (beforeEnd ts).length = beforeEnd ts
      ∧ (ofList ts).stream.get (beforeEnd ts).length = firstEnd ts :=
  (eq_of_take_eq_concat (take_stream ts _)).2

end TokenList

/-! ## Programs and the end of the input -/

theorem derives_program_iff {w : List Symbol} :
    Call.program.phrase.Derives w ↔ ∃ v, IsProgram v ∧ w = v ++ [.eof] := by
  constructor
  · intro h
    cases h with
    | seq hv hw =>
      cases hw
      exact ⟨_, hv, rfl⟩
  · rintro ⟨v, hv, rfl⟩
    exact .seq hv (.terminal .eof)

/-- The trees of a program with the end of the input behind it. -/
theorem exists_of_builds_program {xs : List Tree} (h : Call.program.phrase.Builds xs) :
    ∃ tree t, tree.DerivationOf .statementPart ∧ t.isEof = true ∧ xs = [tree, .leaf t] := by
  cases h with
  | seq hx hy =>
    cases hx with
    | rule hx =>
      cases hy with
      | terminal ht => exact ⟨_, _, .rule hx, by rw [Token.isEof, ht]; rfl, rfl⟩

theorem Tree.DerivationOf.derives {r : Rule} {tree : Tree} (h : tree.DerivationOf r) :
    (Phrase.rule r).Derives (tree.tokens.map Token.symbol) := by
  rw [← tokensAll_singleton]
  exact Phrase.Builds.derives h

/-- No leaf of a tree for a rule is the end of the input. -/
theorem Tree.DerivationOf.isEof_eq_false {r : Rule} {tree : Tree} (h : tree.DerivationOf r)
    {t : Token} (ht : t ∈ tree.tokens) : t.isEof = false :=
  Bool.eq_false_iff.2 fun heof =>
    h.derives.eof_not_mem rfl (List.mem_map.2 ⟨t, ht, eq_of_beq heof⟩)

/-- **The grammar is unambiguous.** -/
theorem Tree.DerivationOf.unique {r : Rule} {tree tree' : Tree} (h : tree.DerivationOf r)
    (h' : tree'.DerivationOf r) (htokens : tree.tokens = tree'.tokens) : tree = tree' := by
  have hall : tokensAll [tree] = tokensAll [tree'] := by
    rw [tokensAll_singleton, tokensAll_singleton, htokens]
  exact List.singleton_inj.1 (Phrase.Builds.unique h trivial h' hall)

/-- A stream that the checker rejects is not a program up to an end of the
input. -/
theorem not_isProgram_of_rejects {f : Stream' Token} {m n : ℕ}
    (h : Call.program.phrase.Rejects (symbols f) m) (hn : (f.get n).isEof = true) :
    ¬ IsProgram ((f.take n).map Token.symbol) := by
  intro hprogram
  have hderives : Call.program.phrase.Derives ((symbols f).take (n + 1)) := by
    rw [take_symbols, Stream'.take_succ', List.map_append]
    exact derives_program_iff.2 ⟨_, hprogram, by rw [List.map_singleton, eq_of_beq hn]⟩
  -- a sentence is the longest viable prefix, and that is what was rejected
  have haccepts := Phrase.Accepts.of_derives (by decide) rfl hderives
  have hiff : ∀ k, k ≤ n + 1 ↔ k ≤ m := fun k =>
    haccepts.viable_iff.symm.trans (h.viable_iff rfl)
  obtain rfl : n + 1 = m :=
    Nat.le_antisymm ((hiff _).1 (Nat.le_refl _)) ((hiff _).2 (Nat.le_refl _))
  exact h.2.1 hderives

/-- The trees of a program in a stream end with the first end of the input. -/
theorem exists_of_builds_take {f : Stream' Token} {m n : ℕ} {trees : List Tree}
    (h : Call.program.phrase.Builds trees) (htokens : tokensAll trees = f.take m)
    (hn : ∀ t ∈ f.take n, t.isEof = false) (hn' : (f.get n).isEof = true) :
    ∃ tree : Tree, tree.DerivationOf .statementPart ∧ tree.tokens = f.take n
      ∧ trees = [tree, .leaf (f.get n)] := by
  obtain ⟨tree, t, htree, ht, rfl⟩ := exists_of_builds_program h
  obtain ⟨rfl, htake, hget⟩ := eq_of_take_eq_concat (f := f) (u := tree.tokens) htokens.symm
  have hlen : tree.tokens.length = n := by
    refine eq_of_first_isEof (f := f) ?_ (by rw [hget, ht]) hn hn'
    rw [htake]
    exact fun s hs => htree.isEof_eq_false hs
  rw [hlen] at htake hget
  exact ⟨tree, htree, htake.symm, by rw [hget]⟩

/-! ## What is recorded -/

/-- A sink that records hears the walk through a tree. -/
theorem sendAll_events (es : List Event) (r : Recording) :
    sendAll (es.map Notice.event) (Sink.recording r)
      = Sink.recording { r with events := r.events ++ es.toArray } := by
  induction es generalizing r with
  | nil => simp
  | cons e es ih =>
    rw [List.map_cons]
    refine (ih (r.hear (Notice.event e))).trans ?_
    simp [Recording.hear]

/-! ## Recognition -/

/-- **The checker recognises the programs.** Let `w` be the tokens before the
first end of the input. The check ends well exactly if `w` is a program. Then it
records the walk through a derivation tree of `w`, the end of the input, and
that it succeeded; and no other tree is a derivation of `w`. -/
theorem checkSupply_tokenList (ts : List Token) (sourceName : String) :
    let w := TokenList.beforeEnd ts
    let result := checkSupply (TokenList.ofList ts) Sink.recorder sourceName
    (result.1 = .ok () ↔ IsProgram (w.map Token.symbol))
      ∧ (result.1 = .ok () → ∃ tree : Tree,
        tree.DerivationOf .statementPart ∧ tree.tokens = w
          ∧ result.2 = .recording
            ⟨(tree.events ++ [Event.terminal (TokenList.firstEnd ts)]).toArray, true, none⟩
          ∧ ∀ other : Tree, other.DerivationOf .statementPart → other.tokens = w →
            other = tree) := by
  intro w result
  have hdelivers := (TokenList.ofList ts).delivers_stream
  let f := (TokenList.ofList ts).stream
  let a : Analyser TokenList Sink :=
    ⟨Supply.after 1 (TokenList.ofList ts), Sink.recorder, f.head, sourceName⟩
  have hresult : result = ((Call.program.run a).1, (Call.program.run a).2.sink) := by
    show checkSupply _ _ _ = _
    unfold checkSupply
    rw [Analyser.start_of_delivers hdelivers]
    rfl
  have htake : f.take w.length = w := (TokenList.take_length_beforeEnd ts).1
  have hget : f.get w.length = TokenList.firstEnd ts := (TokenList.take_length_beforeEnd ts).2
  have hw : ∀ t ∈ f.take w.length, t.isEof = false := by
    rw [htake]
    exact fun t ht => TokenList.isEof_of_mem_beforeEnd ht
  have hend : (f.get w.length).isEof = true := by
    rw [hget]
    exact TokenList.isEof_firstEnd ts
  obtain ⟨m, heard, hverdict, hstate⟩ := Call.program.exists_verdict (j := a.journaled) (f := f)
    ⟨rfl, hdelivers.drop 1⟩ (hdelivers.drop 1).exists_isEof
  rw [hresult, Call.program.run_eq_replay a (Sink.calm_recording _), hstate]
  generalize (Call.program.run a.journaled).1 = o at hverdict ⊢
  cases o with
  | error e =>
    refine ⟨iff_of_false nofun ?_, nofun⟩
    rw [← htake]
    exact not_isProgram_of_rejects hverdict.1 hend
  | ok =>
    obtain ⟨-, trees, hbuilds, htokens, rfl⟩ := hverdict
    obtain ⟨tree, htree, hspelled, rfl⟩ := exists_of_builds_take hbuilds htokens hw hend
    rw [htake] at hspelled
    rw [hget]
    refine ⟨iff_of_true rfl ?_, fun _ => ⟨tree, htree, hspelled, ?_, ?_⟩⟩
    · rw [← hspelled]
      exact htree.derives
    · show sendAll (Journal.empty.write _).notices Sink.recorder = _
      rw [Journal.write, Journal.empty, List.nil_append, sendAll_append, eventsAll,
        eventsAll_leaf, Sink.recorder, sendAll_events]
      show Sink.recording ⟨#[] ++ _, true, none⟩ = _
      rw [Array.empty_append]
    · exact fun other hother hsame => hother.unique htree (hsame.trans hspelled.symm)

/-- The program of one assignment. What stands behind the end of the input is of
no concern. -/
theorem checkSupply_tokenList_assignment :
    let w : List Token := [⟨.kwBegin, "begin", 1, 1⟩, ⟨.identifier, "x", 2, 1⟩,
      ⟨.becomes, ":=", 2, 3⟩, ⟨.numberConstant, "1", 2, 6⟩, ⟨.kwEnd, "end", 3, 1⟩]
    let ts := w ++ [Token.endOfInput 3 4, ⟨.comma, ",", 9, 9⟩]
    let result := checkSupply (TokenList.ofList ts) Sink.recorder "p"
    result.1 = .ok () ∧ IsProgram (w.map Token.symbol) ∧ ∃ tree : Tree,
      tree.DerivationOf .statementPart ∧ tree.tokens = w
        ∧ result.2 = .recording
          ⟨(tree.events ++ [Event.terminal (Token.endOfInput 3 4)]).toArray, true, none⟩
        ∧ ∀ other : Tree, other.DerivationOf .statementPart → other.tokens = w →
          other = tree := by
  intro w ts result
  have hok : result.1 = .ok () := rfl
  obtain ⟨hiff, htree⟩ := checkSupply_tokenList ts "p"
  exact ⟨hok, hiff.1 hok, htree hok⟩

/-- A program with every statement, and the walk through its derivation. -/
example :
    let t : Symbol → Tree := fun s => leaf ⟨s, "", 1, 1⟩
    let name := t .identifier
    let number := t .numberConstant
    let string := t .stringConstant
    let factor := fun operand => node .factor [operand]
    let sum := node .expression [node .term [factor name], t .plus, node .term [factor number]]
    let product := node .expression [node .term [factor name, t .times,
      node .factor [t .leftParenthesis, sum, t .rightParenthesis], t .divide, factor number]]
    let assignment := fun value => node .assignmentStatement [name, t .becomes, value]
    let condition := fun operator operand =>
      node .condition [name, node .conditionalOperator [t operator], operand]
    let call := node .statement [node .procedureStatement [t .kwCall, name, t .leftParenthesis,
      node .argumentList [name, t .comma, name], t .rightParenthesis]]
    let body := node .statementList [call]
    let tree := node .statementPart [t .kwBegin,
      node .statementList [node .statement [assignment product], t .semicolon, call, t .semicolon,
        node .statement [node .ifStatement [t .kwIf, condition .greaterThan name, t .kwThen, body,
          t .kwElse, body, t .kwEnd, t .kwIf]], t .semicolon,
        node .statement [node .whileStatement [t .kwWhile, condition .notEqual number, t .kwLoop,
          body, t .kwEnd, t .kwLoop]], t .semicolon,
        node .statement [node .untilStatement [t .kwDo, body, t .kwUntil,
          condition .equal string]], t .semicolon,
        node .statement [node .forStatement [t .kwFor, t .leftParenthesis, assignment string,
          t .semicolon, condition .lessEqual name, t .semicolon, assignment string,
          t .rightParenthesis, t .kwDo, body, t .kwEnd, t .kwLoop]]],
      t .kwEnd]
    let result := checkSupply (TokenList.ofList tree.tokens) Sink.recorder "p"
    result.1 = .ok () ∧ (result.2.record?.map fun r => r.events.toList)
      = some (tree.events ++ [Event.terminal (Token.endOfInput 1 1)]) := by
  decide +kernel

end SyntaxChecker
