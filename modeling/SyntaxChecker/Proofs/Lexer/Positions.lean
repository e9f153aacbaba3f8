import SyntaxChecker.Proofs.Lexer.Session

/-!
# Positions

A lexer counts lines and columns as it goes, for every piece of text that it moves
over, and differently for pieces with and without line feeds. Where a place is, on the
other hand, is a matter of the text alone: of how many line feeds there are before it,
and of where the last of them is (`Place.OfOffset`).

The two agree, whatever the lexer was asked (`Session.positions_of_text`). This holds of
the cursor, of the tokens that are delivered or told, and of the errors. A query that
fails has moved the cursor as well, over the gap before the character that it fails at,
and the places are still right behind it.
-/

namespace SyntaxChecker

/-! ## The place of an offset -/

/-- **The place of an offset** in a text that begins at the place `p`. The line feeds
before the offset tell the line, and the last of them tells the column. -/
structure Place.OfOffset (p : Place) (text : List Char) (offset : ℕ) (q : Place) : Prop where
  le_length : offset ≤ text.length
  line_eq : q.line = p.line + (text.take offset).count '\n'
  /-- On the first line, columns are counted from where the text begins. -/
  col_first : '\n' ∉ text.take offset → q.col = offset + p.col
  /-- On other lines, they are counted from the line feed before the line. -/
  col_later : '\n' ∈ text.take offset → ∃ i < offset, text[i]? = some '\n'
    ∧ (∀ j, i < j → j < offset → text[j]? ≠ some '\n') ∧ q.col = offset - i

/-- A text that holds a line feed has a last one. -/
theorem exists_last_newline {text : List Char} (h : '\n' ∈ text) :
    ∃ above left, text = above ++ '\n' :: left ∧ '\n' ∉ left
      ∧ (text.reverse.takeWhile (· != '\n')).length = left.length := by
  obtain ⟨left, above, hsplit, hleft⟩ := List.eq_append_cons_of_mem (List.mem_reverse.2 h)
  refine ⟨above.reverse, left.reverse, ?_, by rwa [List.mem_reverse], ?_⟩
  · rw [← List.reverse_reverse text, hsplit]
    simp
  · rw [hsplit, List.takeWhile_append_of_pos (by simpa using List.forall_mem_ne'.2 hleft)]
    simp

/-- **Where a text ends is the place of its end**, in whatever text it stands. -/
theorem Place.ofOffset_after (p : Place) (before rest : List Char) :
    p.OfOffset (before ++ rest) before.length (p.after before) := by
  refine ⟨by simp, ?_, fun hmem => ?_, fun hmem => ?_⟩
  all_goals rw [List.take_left] at *
  · rfl
  · rw [after, if_neg hmem]
    exact Int.add_comm ..
  · obtain ⟨above, left, rfl, hleft, hlength⟩ := exists_last_newline hmem
    refine ⟨above.length, by simp, by simp, fun j hij hj heq => hleft ?_, ?_⟩
    · obtain ⟨k, rfl⟩ := Nat.exists_eq_add_of_lt hij
      have hk : k < left.length := by
        simp only [List.length_append, List.length_cons] at hj
        omega
      refine List.mem_of_getElem? (i := k) ?_
      rw [← heq, List.append_assoc, Nat.add_assoc,
        List.getElem?_append_right (Nat.le_add_right ..), Nat.add_sub_cancel_left,
        List.cons_append, List.getElem?_cons_succ, List.getElem?_append_left hk]
    · rw [after, if_pos hmem, hlength]
      simp only [List.length_append, List.length_cons]
      omega

/-! ## Who stands where -/

/-- **A cursor is in a text** that begins at the place `p`. -/
structure Cursor.IsIn (p : Place) (text : List Char) (c : Cursor) : Prop where
  rest_eq : c.rest = text.drop c.index
  place : p.OfOffset text c.index ⟨c.line, c.col⟩

/-- **A token stands at an offset** of a text that begins at the place `p`. -/
structure Token.StandsAt (p : Place) (text : List Char) (offset : ℕ) (t : Token) : Prop where
  text_eq : (text.drop offset).take t.text.length = t.text.toList
  place : p.OfOffset text offset ⟨t.line, t.col⟩

/-- **A cursor has stopped at an error**, on the first character that is at fault. -/
structure Cursor.StopsAt (c : Cursor) (e : LexicalError) : Prop where
  line_eq : c.line = e.line
  col_eq : c.col = e.col
  nonempty : e.text ≠ ""
  isPrefix : e.text.toList <+: c.rest

section

variable {p : Place} {text before rest : List Char}

theorem Cursor.Stands.isIn {c : Cursor} (h : c.Stands p before rest) :
    c.IsIn p (before ++ rest) := by
  refine ⟨?_, ?_⟩
  · rw [h.rest_eq, h.index_eq, List.drop_left]
  · rw [h.line_eq, h.col_eq, h.index_eq]
    exact p.ofOffset_after before rest

/-- A token that is an answer about a text stands in it. -/
theorem Token.standsAt_of_answers {stop : ℕ} {t : Token} (h : Answers p text stop (.ok t)) :
    ∃ offset, offset + t.text.length = stop ∧ t.StandsAt p text offset := by
  obtain ⟨before, rest, rfl, hstop, hfound⟩ := h
  refine ⟨before.length, hstop, ?_, ?_⟩
  · rw [List.drop_left, ← String.length_toList, List.take_left]
  · rw [hfound.line_eq, hfound.col_eq]
    exact p.ofOffset_after before _

/-- A lexer whose last answer is an error has stopped there. -/
theorem Lexer.Tracks.stopsAt {l : Lexer} {e : LexicalError} (h : l.Tracks p text)
    (he : Answers p text l.cursor.index (.error e)) : l.cursor.StopsAt e := by
  obtain ⟨before, c, rest, htext, hlength, hc, rfl⟩ := he
  obtain ⟨before', rest', htext', hstands⟩ := h.stands
  obtain ⟨rfl, rfl⟩ := List.append_inj (htext.symm.trans htext')
    (hlength.trans hstands.index_eq)
  obtain ⟨hline, hcol⟩ := refusal_place (p.after before) c rest
  obtain ⟨piece, behind, hsplit, -, hne, hpiece, -⟩ := refusal_text (p.after before) hc rest
  refine ⟨hstands.line_eq.trans hline.symm, hstands.col_eq.trans hcol.symm, ?_, ?_⟩
  · rwa [hpiece, Ne, String.ofList_eq_empty_iff]
  · rw [hpiece, String.toList_ofList, hstands.rest_eq, hsplit]
    exact List.prefix_append ..

end

/-! ## One token behind the other -/

namespace Cursor

/-- Characters are not lost on the way. -/
theorem index_add_length_advance (n : ℕ) (c : Cursor) :
    (c.advance n).index + (c.advance n).rest.length = c.index + c.rest.length := by
  induction n generalizing c with
  | zero => rfl
  | succ n ih =>
    rw [advance, ih]
    unfold step
    split
    · rfl
    all_goals
      next hrest =>
      rw [hrest, List.length_cons]
      dsimp only
      omega

theorem index_advance (n : ℕ) (c : Cursor) :
    (c.advance n).index = c.index + min n c.rest.length := by
  have htotal := c.index_add_length_advance n
  rw [rest_advance, List.length_drop] at htotal
  omega

/-- **Reading moves on**, by as many characters as the token has at least. -/
theorem index_scan_le {c c' : Cursor} {o : Except LexicalError Token} (h : c.scan = (o, c')) :
    c.index ≤ c'.index ∧ ∀ t, o = .ok t → c.index + t.text.length ≤ c'.index := by
  have hgap : c.index ≤ c.skipGap.index := by
    rw [skipGap, index_advance]
    exact Nat.le_add_right ..
  unfold scan readToken at h
  split at h
  · cases h
    refine ⟨hgap, ?_⟩
    rintro t ⟨⟩
    exact hgap
  · next x rest hrest =>
    split at h
    · next l hlexeme =>
      cases h
      obtain ⟨-, behind, hsplit⟩ := lexeme?_heads hlexeme
      have hindex : (c.skipGap.advance l.text.length).index
          = c.skipGap.index + l.text.length := by
        rw [index_advance, hrest, ← hsplit, List.length_append, Nat.min_eq_left (by omega)]
      rw [hindex]
      refine ⟨by omega, ?_⟩
      rintro t ⟨⟩
      rw [tokenOf, String.length_ofList]
      omega
    · cases h
      refine ⟨hgap, ?_⟩
      rintro t ⟨⟩

end Cursor

namespace Lexer

variable {p : Place} {text : List Char}

theorem index_next_le {l l' : Lexer} {o : Except LexicalError Token} (hpeeked : l.peeked = none)
    (h : l.next = (o, l')) : l.cursor.index ≤ l'.cursor.index
      ∧ ∀ t, o = .ok t → l.cursor.index + t.text.length ≤ l'.cursor.index := by
  rcases hscan : l.cursor.scan with ⟨o', c⟩
  rw [next_of_scan hpeeked hscan] at h
  cases h
  exact Cursor.index_scan_le hscan

/-- **Tokens stand in a text in the order in which they are delivered**, and they do not
overlap. -/
theorem exists_standsAt_stream {l : Lexer} (h : l.Tracks p text) (hpeeked : l.peeked = none)
    (n : ℕ) : ∃ found : List (ℕ × Token),
      found.map Prod.snd = (l.stream.take n).filterMap Except.toOption
        ∧ (∀ x ∈ found, l.cursor.index ≤ x.1 ∧ x.2.StandsAt p text x.1)
        ∧ found.Pairwise fun x y => x.1 + x.2.text.length ≤ y.1 := by
  induction n generalizing l with
  | zero => exact ⟨[], rfl, nofun, .nil⟩
  | succ n ih =>
    obtain ⟨hanswer, htracks⟩ := h.answers_next
    rw [Stream'.take_succ, head_stream, tail_stream]
    rcases hnext : l.next with ⟨o, l'⟩
    rw [hnext] at hanswer htracks
    obtain ⟨hle, htoken⟩ := index_next_le hpeeked hnext
    obtain ⟨found, hmap, hfound, hpairwise⟩ := ih htracks (peeked_of_next hnext)
    have hbehind : ∀ x ∈ found, l.cursor.index ≤ x.1 ∧ x.2.StandsAt p text x.1 :=
      fun x hx => ⟨hle.trans (hfound x hx).1, (hfound x hx).2⟩
    cases o with
    | error e => exact ⟨found, hmap, hbehind, hpairwise⟩
    | ok t =>
      obtain ⟨offset, hstop, hstands⟩ := Token.standsAt_of_answers hanswer
      dsimp only at hstop
      have hstart : l.cursor.index ≤ offset := by
        have hlength := htoken t rfl
        omega
      refine ⟨(offset, t) :: found, congrArg (t :: ·) hmap,
        List.forall_mem_cons.2 ⟨⟨hstart, hstands⟩, hbehind⟩,
        List.pairwise_cons.2 ⟨fun x hx => ?_, hpairwise⟩⟩
      exact hstop.trans_le (hfound x hx).1

end Lexer

/-! ## Sessions -/

namespace Session

variable {p : Place} {text : List Char} {s : Session}

/-- **Whatever a session is asked, its lexer stays in the text**, and what is heard of
the text is an answer about it. -/
theorem ask_tracks (h : s.lexer.Tracks p text) {q : Query} (hq : q.isReset = false) :
    (s.ask q).2.lexer.Tracks p text ∧ ∀ o, (s.ask q).1.outcome? = some o →
      Answers p text (s.ask q).2.lexer.cursor.index o := by
  rcases s.ask_cases hq with ⟨hreply, hlexer⟩ | ⟨hreply, hlexer⟩ | ⟨hreply, hlexer⟩
  · rw [hreply, hlexer]
    refine ⟨h.answers_next.2, ?_⟩
    rintro o ⟨⟩
    exact h.answers_next.1
  · rw [hreply, hlexer]
    refine ⟨h.answers_peek.2, ?_⟩
    rintro o ⟨⟩
    exact h.answers_peek.1
  · rw [hreply, hlexer]
    exact ⟨h, nofun⟩

theorem askAll_tracks {qs : List Query} (hqs : ∀ q ∈ qs, q.isReset = false)
    (h : s.lexer.Tracks p text) : (s.askAll qs).2.lexer.Tracks p text
      ∧ ∀ r ∈ (s.askAll qs).1, ∀ o, r.outcome? = some o → ∃ stop, Answers p text stop o := by
  induction qs generalizing s with
  | nil => exact ⟨h, nofun⟩
  | cons q qs ih =>
    obtain ⟨hq, hqs⟩ := List.forall_mem_cons.1 hqs
    obtain ⟨htracks, hanswer⟩ := ask_tracks h hq
    obtain ⟨hrun, hanswers⟩ := ih hqs htracks
    exact ⟨hrun, List.forall_mem_cons.2 ⟨fun o ho => ⟨_, hanswer o ho⟩, hanswers⟩⟩

/-- **Positions are right at any time.** Let a lexer be bound to a text that is said to
begin at some place, whatever happened before, and then be put any queries, whether they
fail or not. The cursor is in the text, and its line and column are those of its offset.
Every token that is delivered or told stands in the text at an offset whose line and
column it carries. Tokens that are delivered stand one behind the other. And when a query
fails, the cursor stands where the error says, before the text that is at fault. -/
theorem positions_of_text (text : String) (line col : ℤ) (s₀ : Session) (qs : List Query)
    (hqs : ∀ q ∈ qs, q.isReset = false) :
    let p : Place := ⟨line, col⟩
    let run := (s₀.ask (.reset text line col)).2.askAll qs
    run.2.lexer.cursor.IsIn p text.toList
      ∧ (∀ r ∈ run.1, ∀ t, r.outcome? = some (.ok t) →
        ∃ offset, t.StandsAt p text.toList offset)
      ∧ (∃ found : List (ℕ × Token),
        found.map Prod.snd = (deliveries run.1).filterMap Except.toOption
          ∧ (∀ x ∈ found, x.2.StandsAt p text.toList x.1)
          ∧ found.Pairwise fun x y => x.1 + x.2.text.length ≤ y.1)
      ∧ ∀ q, q.isReset = false → ∀ e, (run.2.ask q).1.outcome? = some (.error e) →
        (run.2.ask q).2.lexer.cursor.StopsAt e := by
  intro p run
  have hbound : (s₀.ask (.reset text line col)).2.lexer.Tracks p text.toList :=
    Lexer.tracks_startingAt text line col
  obtain ⟨htracks, hanswers⟩ := askAll_tracks hqs hbound
  refine ⟨?_, fun r hr t ht => ?_, ?_, fun q hq e he => ?_⟩
  · obtain ⟨before, rest, htext, hstands⟩ := htracks.stands
    rw [htext]
    exact hstands.isIn
  · obtain ⟨stop, hanswer⟩ := hanswers r hr _ ht
    obtain ⟨offset, -, hstands⟩ := Token.standsAt_of_answers hanswer
    exact ⟨offset, hstands⟩
  · obtain ⟨found, hmap, hfound, hpairwise⟩ :=
      Lexer.exists_standsAt_stream hbound rfl (deliveries run.1).length
    rw [← (askAll_stream hqs _).1] at hmap
    exact ⟨found, hmap, fun x hx => (hfound x hx).2, hpairwise⟩
  · obtain ⟨hafter, hanswer⟩ := ask_tracks htracks hq
    exact hafter.stopsAt (hanswer _ he)

/-- A name that a walk takes after it was told, and on the next line, behind a gap, a
character that begins no token. -/
theorem positions_of_text_name_and_mark :
    let s₀ : Session := ⟨(Lexer.ofText "BEGIN").peek.2, []⟩
    let qs : List Query := [.walk, .peek, .advance 0]
    let run := (s₀.ask (.reset "x\n  ?" 5 3)).2.askAll qs
    let t : Token := ⟨.identifier, "x", 5, 3⟩
    let e : LexicalError := ⟨"Unexpected character '?'", 6, 3, "?"⟩
    (∀ q ∈ qs, q.isReset = false)
      ∧ run.1 = [.silence, .told (.ok t), .delivered (.ok t)]
      ∧ run.2.lexer.cursor.IsIn ⟨5, 3⟩ "x\n  ?".toList
      ∧ (∃ offset, t.StandsAt ⟨5, 3⟩ "x\n  ?".toList offset)
      ∧ (run.2.ask .next).1.outcome? = some (.error e)
      ∧ (run.2.ask .next).2.lexer.cursor.StopsAt e := by
  intro s₀ qs run t e
  have hqs : ∀ q ∈ qs, q.isReset = false := by decide
  have hrun : run.1 = [.silence, .told (.ok t), .delivered (.ok t)] := rfl
  have herror : (run.2.ask .next).1.outcome? = some (.error e) := rfl
  obtain ⟨hcursor, htokens, -, herrors⟩ := positions_of_text "x\n  ?" 5 3 s₀ qs hqs
  exact ⟨hqs, hrun, hcursor, htokens (.told (.ok t)) (.tail _ (.head _)) t rfl, herror,
    herrors .next rfl e herror⟩

end Session

end SyntaxChecker
