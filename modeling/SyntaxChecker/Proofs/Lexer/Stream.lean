import Mathlib.Data.Stream.Init
import SyntaxChecker.Proofs.Lexer.Yield

/-!
# A lexer is a stream

A lexer is asked for one token after the other, and it may be asked for ever. What
it delivers is its `Lexer.stream`. A stream has no state, so all that can be said
about the state of a lexer is what happens to the stream: to deliver a token takes
the first element away, and to tell a token leaves the stream as it is
(`Lexer.stream_peek`). The second is not obvious, since a lexer that was made to
tell a token keeps it, and one that failed to tell a token has moved over the gap.

The stream of a text comes to rest (`Lexer.stream_settles`). Behind its tokens it
repeats the end of the input, or else the error that no list of all tokens exists
because of. Where the text is said to begin only shows in the places of tokens and
errors (`Lexer.stream_startingAt`): all lines are moved by the same number, and so
are the columns on the first line.
-/

namespace SyntaxChecker

/-! ## Places in a text that begins elsewhere -/

/-- A place in a text that begins at the place `p`, given where it would be if the
text began at the first place of a file. -/
def Place.moved (p q : Place) : Place :=
  ⟨q.line + (p.line - 1), if q.line = 1 then q.col + (p.col - 1) else q.col⟩

/-- **Only the first line is moved to the side.** -/
theorem Place.moved_after (p : Place) (text : List Char) :
    p.moved (first.after text) = p.after text := by
  unfold moved after first
  by_cases htext : '\n' ∈ text
  · have hpos := List.count_pos_iff.2 htext
    rw [if_pos htext, if_pos htext, if_neg (by dsimp only; omega)]
    congr 1
    dsimp only
    omega
  · have hzero := List.count_eq_zero.2 htext
    rw [if_neg htext, if_neg htext, if_pos (by dsimp only; omega)]
    congr 1 <;> dsimp only <;> omega

/-- The token of a text that begins at the place `p`, given the token of a text that
begins at the first place of a file. -/
def Token.moved (p : Place) (t : Token) : Token :=
  { t with line := (p.moved ⟨t.line, t.col⟩).line, col := (p.moved ⟨t.line, t.col⟩).col }

/-- The error in a text that begins at the place `p`, given the error in a text that
begins at the first place of a file. -/
def LexicalError.moved (p : Place) (e : LexicalError) : LexicalError :=
  { e with line := (p.moved ⟨e.line, e.col⟩).line, col := (p.moved ⟨e.line, e.col⟩).col }

theorem Token.moved_after (p : Place) (before : List Char) (s : Symbol) (text : String) :
    Token.moved p ⟨s, text, (Place.first.after before).line, (Place.first.after before).col⟩
      = ⟨s, text, (p.after before).line, (p.after before).col⟩ := by
  rw [← p.moved_after before]
  rfl

theorem LexicalError.moved_refusal (p : Place) (before : List Char) (c : Char)
    (rest : List Char) :
    LexicalError.moved p (refusal (Place.first.after before) c rest)
      = refusal (p.after before) c rest := by
  rw [← p.moved_after before]
  unfold refusal
  split <;> rfl

namespace Lexer

/-- An outcome for a text that begins at the place `p`, given the outcome for a text
that begins at the first place of a file. -/
def moved (p : Place) : Except LexicalError Token → Except LexicalError Token
  | .ok t => .ok (t.moved p)
  | .error e => .error (e.moved p)

/-! ## Streams -/

/-- What a lexer delivers, if it is asked for the next token over and over. -/
def stream (l : Lexer) : Stream' (Except LexicalError Token) := Stream'.corec' next l

variable {l l' : Lexer} {o : Except LexicalError Token}

theorem stream_cons (l : Lexer) : l.stream = l.next.2.stream.cons l.next.1 :=
  Stream'.corec'_eq next l

theorem head_stream (l : Lexer) : l.stream.head = l.next.1 := rfl

theorem tail_stream (l : Lexer) : l.stream.tail = l.next.2.stream := by
  rw [stream_cons]
  rfl

theorem stream_of_next (h : l.next = (o, l')) : l.stream = l'.stream.cons o := by
  rw [stream_cons, h]

/-- A lexer that stays where it is delivers the same for ever. -/
theorem stream_eq_const (h : l.next = (o, l)) : l.stream = Stream'.const o := by
  refine Stream'.ext fun n => ?_
  induction n with
  | zero => rw [stream_of_next h]; rfl
  | succ n ih =>
    rw [stream_of_next h]
    exact ih

end Lexer

/-! ## Telling changes nothing -/

/-- Behind a gap there is no other gap. -/
theorem gapLength_drop (inComment : Bool) (rest : List Char) :
    gapLength false (rest.drop (gapLength inComment rest)) = 0 := by
  fun_induction gapLength inComment rest with
  | case1 => rfl
  | case2 rest ih => exact ih
  | case3 d rest _ ih => exact ih
  | case4 d rest _ ih => exact ih
  | case5 d rest _ _ ih => exact ih
  | case6 d rest hd hcomment => rw [List.drop_zero, gapLength, if_neg hd, if_neg hcomment]

namespace Cursor

variable {c c' : Cursor} {e : LexicalError}

theorem skipGap_skipGap (c : Cursor) : c.skipGap.skipGap = c.skipGap := by
  have hgap : gapLength false c.skipGap.rest = 0 := by
    rw [skipGap, rest_advance]
    exact gapLength_drop false c.rest
  rw [skipGap, hgap, advance]

/-- A reader that fails stays where it is. -/
theorem eq_of_readToken_error (h : c.readToken = (.error e, c')) : c' = c := by
  unfold readToken at h
  split at h
  · cases h
  · split at h
    · cases h
    · exact (Prod.mk.inj h).2.symm

/-- **A failure repeats itself**: only the gap was passed over. -/
theorem scan_of_scan_error (h : c.scan = (.error e, c')) : c'.scan = (.error e, c') := by
  obtain rfl := eq_of_readToken_error h
  rw [scan, skipGap_skipGap]
  exact h

end Cursor

namespace Lexer

variable {l l' : Lexer} {e : LexicalError}

theorem next_of_peeked_eq_some {t : Token} (h : l.peeked = some t) :
    l.next = (.ok t, ⟨l.cursor, none⟩) := by
  unfold next
  rw [h]

theorem next_of_scan {o : Except LexicalError Token} {c : Cursor} (h : l.peeked = none)
    (hscan : l.cursor.scan = (o, c)) : l.next = (o, ⟨c, none⟩) := by
  rw [next_of_peeked_eq_none h, show l.cursor.skipGap.readToken = (o, c) from hscan]

/-- **What is told is delivered next.** -/
theorem peek_fst_eq (l : Lexer) : l.peek.1 = l.next.1 := by
  unfold peek next
  split
  · rfl
  · rcases l.cursor.scan with ⟨_ | _, c⟩ <;> rfl

/-- **To have told a token makes no difference** to what is delivered. -/
theorem next_peek (l : Lexer) : l.peek.2.next = l.next := by
  unfold peek
  cases hpeeked : l.peeked with
  | some t => rfl
  | none =>
    rcases hscan : l.cursor.scan with ⟨e | t, c⟩
    · rw [next_of_scan hpeeked hscan]
      exact next_of_scan rfl (Cursor.scan_of_scan_error hscan)
    · rw [next_of_scan hpeeked hscan]
      rfl

theorem stream_peek (l : Lexer) : l.peek.2.stream = l.stream := by
  rw [stream_cons, next_peek, ← stream_cons]

/-! ## What a stream comes to -/

/-- An error is raised again and again. -/
theorem next_of_next_error (h : l.next = (.error e, l')) : l'.next = (.error e, l') := by
  cases hpeeked : l.peeked with
  | some t =>
    rw [next_of_peeked_eq_some hpeeked] at h
    cases h
  | none =>
    rcases hscan : l.cursor.scan with ⟨o, c⟩
    rw [next_of_scan hpeeked hscan] at h
    cases h
    exact next_of_scan rfl (Cursor.scan_of_scan_error hscan)

/-- The end of the input is delivered again and again. -/
theorem next_of_next_eof {t : Token} (hpeeked : l.peeked = none) (h : l.next = (.ok t, l'))
    (ht : t.isEof = true) : l'.next = (.ok t, l') := by
  obtain ⟨hend, rfl⟩ := atEnd_of_next hpeeked h ht
  exact hend.next_eq

/-- **A stream comes to rest.** If there is a list of all tokens, it delivers these,
and repeats the last of them, which is the end of the input. If there is none, it
delivers tokens that are not the end of the input, and then repeats the error. -/
theorem stream_settles (hpeeked : l.peeked = none) :
    (∃ ts t, l.drain.1 = .ok (ts ++ [t]) ∧ (∀ u ∈ ts, u.isEof = false) ∧ t.isEof = true
        ∧ l.stream = ts.map .ok ++ₛ Stream'.const (.ok t))
      ∨ ∃ (ts : List Token) (e : LexicalError), l.drain.1 = .error e ∧ (∀ u ∈ ts, u.isEof = false)
        ∧ l.stream = ts.map .ok ++ₛ Stream'.const (.error e) := by
  induction hn : l.pending using Nat.strong_induction_on generalizing l with
  | _ n ih =>
    subst hn
    rcases hnext : l.next with ⟨e | t, l'⟩
    · refine .inr ⟨[], e, ?_, nofun, ?_⟩
      · rw [drain_error hnext]
      · rw [stream_of_next hnext, stream_eq_const (next_of_next_error hnext)]
        exact (Stream'.const_eq _).symm
    · cases ht : t.isEof with
      | true =>
        refine .inl ⟨[], t, ?_, nofun, ht, ?_⟩
        · rw [drain_ok hnext, if_pos ht]
          rfl
        · rw [stream_of_next hnext, stream_eq_const (next_of_next_eof hpeeked hnext ht)]
          exact (Stream'.const_eq _).symm
      | false =>
        have hdrain : l.drain.1 = l'.drain.1.map (t :: ·) := by
          rw [drain_ok hnext, if_neg (by rw [ht]; exact Bool.false_ne_true)]
        rw [hdrain, stream_of_next hnext]
        rcases ih _ (pending_next_lt hnext ht) (peeked_of_next hnext) rfl with
          ⟨ts, u, hlist, hts, hu, hstream⟩ | ⟨ts, e, herror, hts, hstream⟩
        · exact .inl ⟨t :: ts, u, by rw [hlist]; rfl, List.forall_mem_cons.2 ⟨ht, hts⟩, hu,
            by rw [hstream]; rfl⟩
        · exact .inr ⟨t :: ts, e, by rw [herror]; rfl, List.forall_mem_cons.2 ⟨ht, hts⟩,
            by rw [hstream]; rfl⟩

end Lexer

/-! ## Where a text begins -/

/-- **Two readers of one text**, of which the second says that it begins at the place
`p`, find the same at places that are moved accordingly. -/
theorem Cursor.Stands.scan_moved {p : Place} {before rest : List Char} {c c' : Cursor}
    (h : c.Stands Place.first before rest) (h' : c'.Stands p before rest) :
    c'.scan.1 = Lexer.moved p c.scan.1 ∧ ∃ before rest,
      c.scan.2.Stands Place.first before rest ∧ c'.scan.2.Stands p before rest := by
  have hskip := h.skipGap
  have hskip' := h'.skipGap
  generalize before ++ rest.take _ = before at hskip hskip'
  generalize rest.drop _ = rest at hskip hskip'
  unfold Cursor.scan
  cases rest with
  | nil =>
    rw [hskip.readToken_nil, hskip'.readToken_nil]
    refine ⟨?_, _, _, hskip, hskip'⟩
    exact congrArg Except.ok (Token.moved_after p before .eof "").symm
  | cons x rest =>
    cases hlexeme : lexeme? (x :: rest) with
    | none =>
      rw [hskip.readToken_error hlexeme, hskip'.readToken_error hlexeme]
      refine ⟨?_, _, _, hskip, hskip'⟩
      exact congrArg Except.error (LexicalError.moved_refusal p before x rest).symm
    | some l =>
      obtain ⟨-, rest', hsplit⟩ := lexeme?_heads hlexeme
      rw [← hsplit] at hskip hskip' hlexeme
      rw [hskip.readToken_ok hlexeme, hskip'.readToken_ok hlexeme]
      refine ⟨?_, _, _, hskip.advance, hskip'.advance⟩
      exact congrArg Except.ok (Token.moved_after p before l.symbol _).symm

namespace Lexer

theorem stream_of_stands {p : Place} {before rest : List Char} {c c' : Cursor}
    (h : c.Stands Place.first before rest) (h' : c'.Stands p before rest) :
    (Lexer.mk c' none).stream = (Lexer.mk c none).stream.map (moved p) := by
  refine Stream'.ext fun n => ?_
  rw [Stream'.get_map]
  induction n generalizing before rest c c' with
  | zero => exact (h.scan_moved h').1
  | succ n ih =>
    obtain ⟨-, before, rest, hscan, hscan'⟩ := h.scan_moved h'
    rw [← Stream'.get_tail, ← Stream'.get_tail, tail_stream, tail_stream]
    exact ih hscan hscan'

/-- **Where a text is said to begin only shows in places.** -/
theorem stream_startingAt (text : String) (line col : ℤ) :
    (startingAt text line col).stream = (ofText text).stream.map (moved ⟨line, col⟩) :=
  stream_of_stands (Cursor.stands_start text.toList 1 1) (Cursor.stands_start text.toList line col)

end Lexer

end SyntaxChecker
