import Mathlib.Data.List.Induction
import SyntaxChecker.Proofs.Lexer.Yield

/-!
# Texts one below the other

Put one text below another, with a line feed between them. The tokens of the whole are
those of the upper text, without its end of the input, and those of the lower one, which
have only moved down (`tokensOf_append_newline`). If the upper text has a lexical error,
so has the whole, and it is the same one; otherwise an error of the lower text is an
error of the whole, further down.

Why this is so depends on what the lexer meets at the seam. Lexemes and errors are about
one line, so none of them is longer for what is below (`lexeme?_append_newline`). A gap
is not about one line. The last gap of the upper text, the line feed and the first gap
of the lower text make up a single gap; but the lexer begins to read the lower text
where that line feed has ended whatever comment there was (`gapLength_append_newline`).
-/

namespace SyntaxChecker

/-! ## What is read at the head of a text -/

/-- **A gap that covers a text goes on below it**, and every other gap stays as it is. -/
theorem gapLength_append_newline (inComment : Bool) (upper lower : List Char) :
    gapLength inComment (upper ++ '\n' :: lower)
      = if gapLength inComment upper = upper.length then
          upper.length + 1 + gapLength false lower
        else gapLength inComment upper := by
  -- one more character of a gap is one more on both sides
  have hsucc : ∀ g n k : ℕ, (if g = n then n + 1 + k else g) + 1
      = if g + 1 = n + 1 then n + 1 + 1 + k else g + 1 := fun g n k => by
    simp only [Nat.add_right_cancel_iff]
    split <;> omega
  have hdouble : ∀ rest : List Char,
      ((rest ++ '\n' :: lower).head? == some '-') = (rest.head? == some '-') := fun rest => by
    cases rest <;> rfl
  fun_induction gapLength inComment upper with
  | case1 inComment =>
    rw [List.nil_append, gapLength_newline, List.length_nil, if_pos rfl]
    omega
  | case2 rest ih =>
    rw [List.cons_append, gapLength_newline, ih]
    exact hsucc ..
  | case3 c rest hc ih =>
    rw [List.cons_append, gapLength_comment hc, ih]
    exact hsucc ..
  | case4 c rest hc ih =>
    rw [List.cons_append, gapLength, if_pos hc, ih]
    exact hsucc ..
  | case5 c rest hc hdash ih =>
    rw [List.cons_append, gapLength, if_neg hc, hdouble, if_pos hdash, ih]
    exact hsucc ..
  | case6 c rest hc hdash =>
    have hlength : 0 ≠ (c :: rest).length := (Nat.succ_ne_zero _).symm
    rw [List.cons_append, gapLength, if_neg hc, hdouble, if_neg hdash, if_neg hlength]

/-- A head of a text that is on one line has nothing of what is below. -/
theorem prefix_append_newline_iff {x : List Char} (hx : '\n' ∉ x) (upper lower : List Char) :
    x <+: upper ++ '\n' :: lower ↔ x <+: upper := by
  refine ⟨fun h => ?_, fun h => h.trans (List.prefix_append ..)⟩
  rcases List.prefix_or_prefix_of_prefix h (List.prefix_append ..) with hle | ⟨rest, rfl⟩
  · exact hle
  · cases rest with
    | nil => simp
    | cons c rest =>
      obtain ⟨rfl, -⟩ := List.cons_prefix_cons.1 ((List.prefix_append_right_inj upper).1 h)
      exact absurd (List.mem_append_right upper List.mem_cons_self) hx

/-- **No lexeme is longer for what is below.** -/
theorem lexeme?_append_newline (upper lower : List Char) :
    lexeme? (upper ++ '\n' :: lower) = lexeme? upper := by
  have hhead : ∀ y, IsSomeLexeme y → (y <+: upper ++ '\n' :: lower ↔ y <+: upper) :=
    fun y ⟨_, hy⟩ => prefix_append_newline_iff hy.newline_not_mem upper lower
  refine Option.ext fun l => ?_
  rw [lexeme?_eq_some_iff, lexeme?_eq_some_iff]
  refine and_congr_right fun hl => ⟨fun h => ?_, fun h => ?_⟩
  · exact ⟨(hhead _ h.holds).1 h.head, h.holds, fun y hy hrest =>
      h.longest y hy ((hhead y hy).2 hrest)⟩
  · exact ⟨(hhead _ h.holds).2 h.head, h.holds, fun y hy hrest =>
      h.longest y hy ((hhead y hy).1 hrest)⟩

/-- **No error is longer for what is below**, either. -/
theorem refusal_append_newline (p : Place) (c : Char) (upper lower : List Char) :
    refusal p c (upper ++ '\n' :: lower) = refusal p c upper := by
  have hline : (c :: upper ++ '\n' :: lower).takeWhile (· != '\n')
      = (c :: upper).takeWhile (· != '\n') := by
    rw [List.takeWhile_append]
    split
    · next hall =>
      rw [List.takeWhile_cons_of_neg (by simp), List.append_nil,
        (List.takeWhile_prefix _).eq_of_length hall]
    · rfl
  unfold refusal
  rw [← List.cons_append, hline]

/-! ## Places in the lower text -/

/-- The number of lines of a text: one more than there are line feeds. -/
def lineCount (text : List Char) : ℕ := 1 + text.count '\n'

/-- The same token some lines further down. -/
def Token.lowered (n : ℕ) (t : Token) : Token := { t with line := t.line + n }

/-- The same error some lines further down. -/
def LexicalError.lowered (n : ℕ) (e : LexicalError) : LexicalError :=
  { e with line := e.line + n }

/-- **Below a text, only lines are moved**, and all by the number of lines above. -/
theorem Place.first_after_append_newline (upper before : List Char) :
    first.after (upper ++ '\n' :: before)
      = ⟨(first.after before).line + lineCount upper, (first.after before).col⟩ := by
  induction before using List.reverseRecOn with
  | nil =>
    rw [after_newline, after_nil, after, first, lineCount]
    congr 1
    dsimp only
    omega
  | append_singleton before c ih =>
    rw [← List.cons_append, ← List.append_assoc]
    by_cases hc : c = '\n'
    · rw [hc, after_newline, after_newline, ih]
      congr 1
      dsimp only
      omega
    · rw [after_concat _ _ hc, after_concat _ _ hc, ih]

theorem tokensAfter_append_newline (upper before : List Char) (ps : List Piece) :
    tokensAfter .first (upper ++ '\n' :: before) ps
      = (tokensAfter .first before ps).map (Token.lowered (lineCount upper)) := by
  induction ps generalizing before with
  | nil => rfl
  | cons x ps ih =>
    have happend : ∀ u v : List Char,
        upper ++ '\n' :: before ++ u ++ v = upper ++ '\n' :: (before ++ u ++ v) := by simp
    have hplace := Place.first_after_append_newline upper (before ++ x.gap)
    rw [tokensAfter, tokensAfter, List.map_cons, happend, ih, List.append_assoc,
      List.cons_append, hplace]
    rfl

/-- **A text that is below another delivers the same further down.** -/
theorem Reading.outcome_append_newline (upper : List Char) {text : List Char}
    (r : Reading text) :
    r.outcome .first (upper ++ ['\n'])
      = match r.outcome .first [] with
        | .ok ts => .ok (ts.map (Token.lowered (lineCount upper)))
        | .error e => .error (e.lowered (lineCount upper)) := by
  have happend : ∀ u, upper ++ ['\n'] ++ u = upper ++ '\n' :: u := by simp
  cases htail : r.tail with
  | nil =>
    rw [outcome_of_tail_eq_nil htail, outcome_of_tail_eq_nil htail, happend,
      Place.first_after_append_newline, tokensAfter_append_newline]
    simp [Token.lowered, Token.endOfInput]
  | cons c rest =>
    rw [outcome_of_tail_eq_cons htail, outcome_of_tail_eq_cons htail, happend,
      Place.first_after_append_newline]
    unfold refusal
    split <;> rfl

/-! ## Across the seam -/

namespace Cursor

variable {p : Place} {before upper lower : List Char} {c : Cursor}

/-- A cursor above the seam comes to stand below it. -/
theorem Stands.of_append_newline (h : Stands p before (upper ++ '\n' :: lower) c) :
    Stands p (before ++ (upper ++ ['\n'])) lower (c.advance (upper ++ ['\n']).length) := by
  refine Stands.advance ?_
  rwa [List.append_assoc]

/-- **If there is only a gap above the seam**, a cursor may as well begin below it. -/
theorem Stands.scan_of_gap (h : Stands p before (upper ++ '\n' :: lower) c)
    (hgap : gapLength false upper = upper.length) :
    c.scan = (c.advance (upper ++ ['\n']).length).scan := by
  unfold Cursor.scan Cursor.skipGap
  rw [h.of_append_newline.rest_eq, ← advance_add, h.rest_eq, gapLength_append_newline,
    if_pos hgap, List.length_append]
  rfl

/-- **If there is more above the seam than a gap**, a cursor reads there what it would read
if nothing were below. -/
theorem Stands.scan_of_no_gap {c' : Cursor} (h : Stands p before upper c)
    (h' : Stands p before (upper ++ '\n' :: lower) c')
    (hgap : gapLength false upper ≠ upper.length) :
    (∃ e, c.scan.1 = .error e ∧ c'.scan.1 = .error e)
      ∨ ∃ t before' rest, c.scan.1 = .ok t ∧ c'.scan.1 = .ok t ∧ t.isEof = false
        ∧ before ++ upper = before' ++ rest ∧ rest.length < upper.length
        ∧ c.scan.2.Stands p before' rest ∧ c'.scan.2.Stands p before' (rest ++ '\n' :: lower) := by
  have hle := gapLength_le_length false upper
  have hskip := h.skipGap
  have hskip' := h'.skipGap
  have hsplit := List.take_append_drop (gapLength false upper) upper
  have hlen := List.length_drop (l := upper) (i := gapLength false upper)
  rw [gapLength_append_newline, if_neg hgap, List.take_append_of_le_length hle,
    List.drop_append_of_le_length hle] at hskip'
  unfold Cursor.scan
  -- what is above the seam is the gap and the text behind it, and that is not empty
  generalize upper.take _ = gap at hskip hskip' hsplit
  generalize upper.drop _ = tail at hskip hskip' hsplit hlen
  cases tail with
  | nil =>
    rw [List.length_nil] at hlen
    omega
  | cons x tail =>
    cases hlexeme : lexeme? (x :: tail) with
    | none =>
      have hlexeme' := (lexeme?_append_newline (x :: tail) lower).trans hlexeme
      refine .inl ⟨refusal (p.after (before ++ gap)) x tail, ?_, ?_⟩
      · rw [hskip.readToken_error hlexeme]
      · rw [List.cons_append] at hskip' hlexeme'
        rw [hskip'.readToken_error hlexeme', refusal_append_newline]
    | some l =>
      obtain ⟨hne, rest, hrest⟩ := lexeme?_heads hlexeme
      have hlexeme' := (lexeme?_append_newline (x :: tail) lower).trans hlexeme
      have hpos := List.length_pos_iff.2 hne
      rw [← hrest] at hskip hskip' hsplit hlen hlexeme hlexeme'
      rw [List.append_assoc] at hskip' hlexeme'
      rw [hskip.readToken_ok hlexeme, hskip'.readToken_ok hlexeme']
      refine .inr ⟨_, _, rest, rfl, rfl, ?_, ?_, ?_, hskip.advance, hskip'.advance⟩
      · exact beq_eq_false_iff_ne.2 (lexeme?_isLexeme hlexeme).ne_eof
      · rw [← hsplit]
        simp
      · rw [← hsplit]
        simp only [List.length_append]
        omega

end Cursor

namespace Lexer

/-- What a lexer delivers is told by its next token and what comes then. -/
theorem drain_congr {l l' : Lexer} (h : l.next = l'.next) : l.drain.1 = l'.drain.1 := by
  rcases hnext : l'.next with ⟨e | t, m⟩
  · rw [drain_error hnext, drain_error (h.trans hnext)]
  · rw [drain_ok hnext, drain_ok (h.trans hnext)]

/-- There is always a token to deliver, if only the end of the input. -/
theorem drain_ne_nil {l : Lexer} {ts : List Token} (hpeeked : l.peeked = none)
    (h : l.drain.1 = .ok ts) : ts ≠ [] := by
  obtain ⟨us, t, -, rfl, -⟩ := yields_of_drain hpeeked h
  simp

/-- A lexer that has not read ahead delivers what its cursor scans. -/
theorem next_of_scan_fst {c : Cursor} {o : Except LexicalError Token} (h : c.scan.1 = o) :
    (Lexer.mk c none).next = (o, ⟨c.scan.2, none⟩) := by
  rw [← h]
  rfl

/-- **A lexer goes on below a text**, behind what it delivers for the text. -/
theorem drain_append_newline {p : Place} {before upper lower : List Char} {c c' : Cursor}
    (h : c.Stands p before upper) (h' : c'.Stands p before (upper ++ '\n' :: lower))
    (r : Reading lower) :
    (Lexer.mk c' none).drain.1 = (Lexer.mk c none).drain.1.bind fun ts =>
      (r.outcome p (before ++ (upper ++ ['\n']))).map (ts.dropLast ++ ·) := by
  induction hn : upper.length using Nat.strong_induction_on generalizing before upper c c' with
  | _ n ih =>
    subst hn
    by_cases hgap : gapLength false upper = upper.length
    · -- of the upper text only the end of the input is left, and that is dropped
      obtain ⟨r', hr'⟩ := exists_reading (l := ⟨_, none⟩) rfl h'.of_append_newline
      have hnext : (Lexer.mk c' none).next
          = (Lexer.mk (c'.advance (upper ++ ['\n']).length) none).next := by
        rw [next_of_scan_fst rfl, next_of_scan_fst rfl, h'.scan_of_gap hgap]
      have hend := h.skipGap
      rw [hgap, List.drop_length] at hend
      rw [drain_congr hnext, hr', Subsingleton.elim r' r,
        drain_ok (next_of_scan_fst (congrArg Prod.fst hend.readToken_nil))]
      cases r.outcome p (before ++ (upper ++ ['\n'])) <;> rfl
    · rcases h.scan_of_no_gap h' hgap with
        ⟨e, he, he'⟩ | ⟨t, before', rest, ht, ht', heof, hsame, hlt, hstands, hstands'⟩
      · rw [drain_error (next_of_scan_fst he), drain_error (next_of_scan_fst he')]
        rfl
      · have hbefore : before' ++ (rest ++ ['\n']) = before ++ (upper ++ ['\n']) := by
          rw [← List.append_assoc, ← hsame, List.append_assoc]
        have hrest := ih _ hlt hstands hstands' rfl
        rw [drain_ok (next_of_scan_fst ht), drain_ok (next_of_scan_fst ht'), heof, hrest, hbefore]
        cases hdrain : (Lexer.mk c.scan.2 none).drain.1 with
        | error e => rfl
        | ok ts =>
          have hne := drain_ne_nil rfl hdrain
          cases r.outcome p (before ++ (upper ++ ['\n'])) with
          | error e => rfl
          | ok us =>
            show Except.ok _ = Except.ok _
            rw [List.dropLast_cons_of_ne_nil hne]
            rfl

end Lexer

/-! ## Two texts -/

/-- **Texts can be read one by one.** Let one text be put below another, with a line feed
between them. If both have their tokens, the whole has those of the upper text without the
last one, which is the end of the input, and then those of the lower text, lowered by the
lines of the upper one. If the upper text has a lexical error, the whole has the same one.
If only the lower text has one, the whole has that one, lowered like this. -/
theorem tokensOf_append_newline (upper lower : String) :
    (∀ ts t us, tokensOf upper = .ok (ts ++ [t]) → tokensOf lower = .ok us →
        tokensOf (upper ++ "\n" ++ lower)
          = .ok (ts ++ us.map (Token.lowered (lineCount upper.toList))))
      ∧ (∀ e, tokensOf upper = .error e → tokensOf (upper ++ "\n" ++ lower) = .error e)
      ∧ ∀ ts e, tokensOf upper = .ok ts → tokensOf lower = .error e →
        tokensOf (upper ++ "\n" ++ lower) = .error (e.lowered (lineCount upper.toList)) := by
  obtain ⟨r, hr⟩ := exists_reading_tokensOf lower
  have hsplit : (upper ++ "\n" ++ lower).toList = upper.toList ++ '\n' :: lower.toList := by
    simp
  have hwhole : tokensOf (upper ++ "\n" ++ lower) = (tokensOf upper).bind fun ts =>
      (r.outcome .first (upper.toList ++ ['\n'])).map (ts.dropLast ++ ·) := by
    refine Lexer.drain_append_newline (Cursor.stands_start upper.toList 1 1) ?_ r
    rw [← hsplit]
    exact Cursor.stands_start _ 1 1
  rw [hwhole, r.outcome_append_newline, ← hr]
  refine ⟨fun ts t us hupper hlower => ?_, fun e hupper => ?_, fun ts e hupper hlower => ?_⟩
  · rw [hupper, hlower]
    show Except.ok ((ts ++ [t]).dropLast ++ _) = _
    rw [List.dropLast_concat]
  · rw [hupper]
    rfl
  · rw [hupper, hlower]
    rfl

/-- A text that ends in a comment, above another one and above an error, and that error above
a text. -/
theorem tokensOf_append_newline_comment :
    let x : Token := ⟨.identifier, "x", 1, 1⟩
    let e : LexicalError := ⟨"Unterminated string constant", 1, 2, "\x22--"⟩
    let below : List Token := [⟨.identifier, "y", 1, 3⟩, .endOfInput 1 4]
    tokensOf "x --" = .ok ([x] ++ [.endOfInput 1 5]) ∧ tokensOf "  y" = .ok below
      ∧ tokensOf " \x22--" = .error e
      ∧ tokensOf ("x --" ++ "\n" ++ "  y")
        = .ok ([x] ++ below.map (Token.lowered (lineCount "x --".toList)))
      ∧ tokensOf (" \x22--" ++ "\n" ++ "  y") = .error e
      ∧ tokensOf ("x --" ++ "\n" ++ " \x22--")
        = .error (e.lowered (lineCount "x --".toList)) := by
  intro x e below
  have hupper : tokensOf "x --" = .ok ([x] ++ [.endOfInput 1 5]) := by
    have h₁ : (Lexer.ofText "x --").next = (.ok x, ⟨⟨" --".toList, 1, 1, 2⟩, none⟩) := rfl
    have h₂ : (⟨⟨" --".toList, 1, 1, 2⟩, none⟩ : Lexer).next
        = (.ok (.endOfInput 1 5), ⟨⟨[], 4, 1, 5⟩, none⟩) := rfl
    rw [tokensOf, Lexer.drain_ok h₁, Lexer.drain_ok h₂]
    rfl
  have hlower : tokensOf "  y" = .ok below := by
    have h₁ : (Lexer.ofText "  y").next
        = (.ok ⟨.identifier, "y", 1, 3⟩, ⟨⟨[], 3, 1, 4⟩, none⟩) := rfl
    have h₂ : (⟨⟨[], 3, 1, 4⟩, none⟩ : Lexer).next
        = (.ok (.endOfInput 1 4), ⟨⟨[], 3, 1, 4⟩, none⟩) := rfl
    rw [tokensOf, Lexer.drain_ok h₁, Lexer.drain_ok h₂]
    rfl
  have hunclosed : tokensOf " \x22--" = .error e := by
    have h₁ : (Lexer.ofText " \x22--").next
        = (.error e, ⟨⟨"\x22--".toList, 1, 1, 2⟩, none⟩) := rfl
    rw [tokensOf, Lexer.drain_error h₁]
  exact ⟨hupper, hlower, hunclosed, (tokensOf_append_newline _ _).1 _ _ _ hupper hlower,
    (tokensOf_append_newline _ _).2.1 _ hunclosed,
    (tokensOf_append_newline _ _).2.2 _ _ hupper hunclosed⟩

end SyntaxChecker
