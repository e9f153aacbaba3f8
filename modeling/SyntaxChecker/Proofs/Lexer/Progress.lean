import SyntaxChecker.Proofs.Lexer.Yield

/-!
# Lexing makes progress

A lexer has two loops. One delivers a token at a time until the input ends, and inside it
another skips what is in front of the token. Both get on because whatever they take is not
empty: a token has a text, except for the end of the input, and the gap is skipped in steps
(`skips`), each of which is a run of blanks or a comment. So a text has no more tokens than
characters, and one more for its end.
-/

namespace SyntaxChecker

/-! ## Gaps, step by step -/

/-- The steps in which the gap at the head of a text is skipped: a run of blanks, as long as it
goes, or a comment up to the end of its line. -/
def skips : List Char → List (List Char)
  | [] => []
  | c :: rest =>
    if isBlank c then (c :: rest.takeWhile isBlank) :: skips (rest.dropWhile isBlank)
    else if c == '-' && rest.head? == some '-' then
      (c :: rest.takeWhile (· != '\n')) :: skips (rest.dropWhile (· != '\n'))
    else []
termination_by text => text.length
decreasing_by
  · exact Nat.lt_succ_of_le (List.dropWhile_suffix _).length_le
  · exact Nat.lt_succ_of_le (List.dropWhile_suffix _).length_le

/-- **Every step gets on.** -/
theorem ne_nil_of_mem_skips {text x : List Char} (h : x ∈ skips text) : x ≠ [] := by
  fun_induction skips text with
  | case1 => cases h
  | case2 c rest _ ih | case3 c rest _ _ ih =>
    rcases List.mem_cons.1 h with rfl | h
    · exact List.cons_ne_nil _ _
    · exact ih h
  | case4 => cases h

/-- A run of blanks is part of the gap. -/
theorem gapLength_blanks {x : List Char} (hx : ∀ c ∈ x, isBlank c = true) (rest : List Char) :
    gapLength false (x ++ rest) = x.length + gapLength false rest := by
  induction x with
  | nil => exact (Nat.zero_add _).symm
  | cons c x ih =>
    obtain ⟨hc, hx⟩ := List.forall_mem_cons.1 hx
    rw [List.cons_append, gapLength, if_pos hc, ih hx, List.length_cons]
    omega

/-- Where the line ends, the comment does, and the gap may go on. -/
theorem gapLength_line (rest : List Char) :
    gapLength true (rest.dropWhile (· != '\n')) = gapLength false (rest.dropWhile (· != '\n')) := by
  cases h : rest.dropWhile (· != '\n') with
  | nil => rfl
  | cons c tail =>
    have hc := List.head_dropWhile_not (· != '\n') (h ▸ List.cons_ne_nil c tail)
    simp only [h, List.head_cons, bne_eq_false_iff_eq] at hc
    rw [hc, gapLength_newline, gapLength_newline]

/-- A comment is part of the gap. -/
theorem gapLength_cons_comment {rest : List Char}
    (h : ('-' == '-' && rest.head? == some '-') = true) :
    gapLength false ('-' :: rest) = ('-' :: rest.takeWhile (· != '\n')).length
      + gapLength false (rest.dropWhile (· != '\n')) := by
  have hbody : '\n' ∉ rest.takeWhile (· != '\n') := fun hmem => by
    simpa using List.mem_takeWhile_imp hmem
  have hcomment : gapLength false ('-' :: rest) = gapLength true rest + 1 := by
    rw [gapLength, if_neg (by decide), if_pos h]
  have hsplit := gapLength_body hbody (rest.dropWhile (· != '\n'))
  rw [List.takeWhile_append_dropWhile, gapLength_line] at hsplit
  rw [hcomment, hsplit, List.length_cons]
  omega

/-- **The steps make up the gap.** -/
theorem flatten_skips (text : List Char) :
    (skips text).flatten = text.take (gapLength false text) := by
  fun_induction skips text with
  | case1 => rfl
  | case2 c rest hc ih =>
    have hrun : ∀ d ∈ c :: rest.takeWhile isBlank, isBlank d = true :=
      List.forall_mem_cons.2 ⟨hc, fun d hd => List.mem_takeWhile_imp hd⟩
    have hsplit := gapLength_blanks hrun (rest.dropWhile isBlank)
    have htext : c :: rest = (c :: rest.takeWhile isBlank) ++ rest.dropWhile isBlank := by
      rw [List.cons_append, List.takeWhile_append_dropWhile]
    rw [List.flatten_cons, ih, htext, hsplit, List.take_length_add_append]
  | case3 c rest hc hcomment ih =>
    obtain rfl : c = '-' := by
      simp only [Bool.and_eq_true, beq_iff_eq] at hcomment
      exact hcomment.1
    have htext : '-' :: rest
        = ('-' :: rest.takeWhile (· != '\n')) ++ rest.dropWhile (· != '\n') := by
      rw [List.cons_append, List.takeWhile_append_dropWhile]
    rw [List.flatten_cons, ih, gapLength_cons_comment hcomment, ← List.take_length_add_append,
      ← htext]
  | case4 c rest hc hcomment => rw [gapLength, if_neg hc, if_neg hcomment]; rfl

/-- A cursor moves over the gap in these steps. -/
theorem Cursor.rest_eq_skips (c : Cursor) : c.rest = (skips c.rest).flatten ++ c.skipGap.rest := by
  rw [flatten_skips, skipGap, rest_advance, List.take_append_drop]

/-! ## Tokens, one by one -/

/-- **A token has a text**, unless it is the end of the input. -/
theorem Cursor.text_ne_empty_of_readToken {c c' : Cursor} {t : Token}
    (h : c.readToken = (.ok t, c')) (ht : t.isEof = false) : t.text ≠ "" := by
  unfold readToken at h
  split at h
  · cases h
    simp [Token.isEof, Token.endOfInput] at ht
  · next heq =>
    split at h
    · next l hl =>
      cases h
      intro hempty
      exact (lexeme?_heads hl).1 (String.ofList_eq_empty_iff.1 hempty)
    · cases h

namespace Lexer

variable {l l' : Lexer} {ts : List Token}

theorem text_ne_empty_of_yields (hpeeked : l.peeked = none) (h : Supply.Yields l ts l')
    (hts : ∀ t ∈ ts, t.isEof = false) : ∀ t ∈ ts, t.text ≠ "" := by
  induction h with
  | nil => exact List.forall_mem_nil _
  | cons hpull _ ih =>
    obtain ⟨ht, hts⟩ := List.forall_mem_cons.1 hts
    have hnext := pull_eq_ok_iff.1 hpull
    refine List.forall_mem_cons.2 ⟨?_, ih (peeked_of_next hnext) hts⟩
    rw [next_of_peeked_eq_none hpeeked] at hnext
    exact Cursor.text_ne_empty_of_readToken (Prod.ext (Prod.mk.inj hnext).1 rfl) ht

/-- **Lexing comes to an end.** A text has no more tokens than characters. Behind them comes the
end of the input, or an error. -/
theorem exists_yields_tokensOf (text : String) :
    ∃ ts l, Supply.Yields (ofText text) ts l ∧ (∀ t ∈ ts, t.isEof = false ∧ t.text ≠ "")
      ∧ ts.length ≤ text.length
      ∧ ((∃ t, t.isEof = true ∧ tokensOf text = .ok (ts ++ [t]))
        ∨ ∃ e l', l.next = (.error e, l') ∧ tokensOf text = .error e) := by
  have hfew {ts : List Token} {l : Lexer} (hyields : Supply.Yields (ofText text) ts l)
      (hts : ∀ t ∈ ts, t.isEof = false) :
      (∀ t ∈ ts, t.isEof = false ∧ t.text ≠ "") ∧ ts.length ≤ text.length := by
    refine ⟨fun t ht => ⟨hts t ht, text_ne_empty_of_yields rfl hyields hts t ht⟩, ?_⟩
    have hle := hyields.pending_add_length_le hts
    have hpending : Supply.pending (ofText text) = text.length := by
      show text.toList.length + 0 = _
      rw [String.length_toList, Nat.add_zero]
    omega
  cases htokens : tokensOf text with
  | ok all =>
    obtain ⟨ts, t, l', rfl, hts, ht, hall, -⟩ := yields_of_drain rfl htokens
    obtain ⟨l, hyields, -⟩ := hall.of_append
    obtain ⟨hts, hle⟩ := hfew hyields hts
    exact ⟨ts, l, hyields, hts, hle, .inl ⟨t, ht, rfl⟩⟩
  | error e =>
    obtain ⟨ts, l, l', hyields, hl⟩ := (drain_eq_error_iff rfl).1 htokens
    obtain ⟨hts, hle⟩ := hfew hyields (isEof_eq_false_of_yields rfl hyields hl)
    exact ⟨ts, l, hyields, hts, hle, .inr ⟨e, l', hl, rfl⟩⟩

end Lexer

end SyntaxChecker
