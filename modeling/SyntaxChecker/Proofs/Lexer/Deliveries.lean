import SyntaxChecker.Proofs.Lexer.Tokenization

/-!
# What a lexer answers

A lexer can be asked for its next token, and it can be asked to tell that token
and keep it, in any order and as often as one likes. Whatever it was asked
before, its answer is about the text (`Lexer.Tracks.answers_next`,
`Lexer.Tracks.answers_peek`). A token has its lexeme in the text right before the
offset where the cursor stands, and the line and column of the token are those
of that lexeme. An error is about the character behind the cursor.

No answer is about more than one line. A lexeme holds no line feed, and neither
does a line feed stop the lexer, since it belongs to the gap.
-/

namespace SyntaxChecker

/-! ## Nothing that is answered spans two lines -/

/-- **A lexeme stays on its line.** -/
theorem IsLexeme.newline_not_mem {s : Symbol} {x : List Char} (h : IsLexeme s x) : '\n' ∉ x := by
  have hpunctuation : ∀ p ∈ Symbol.punctuation, '\n' ∉ p.1.toList := by decide
  have hkeywords : ∀ p ∈ Symbol.keywords, '\n' ∉ p.1.toList := by decide
  have hdigit : ∀ {ds : List Char}, (∀ c ∈ ds, c.isDigit = true) → '\n' ∉ ds :=
    fun hds hmem => absurd (hds _ hmem) (by decide)
  cases h with
  | mark hmark => exact hpunctuation _ hmark
  | string hbody =>
    have hbody : '\n' ∉ _ := fun hmem => (hbody _ hmem).2 rfl
    simp [hbody]
  | whole _ hdigits => exact hdigit hdigits
  | decimal _ hdigits _ hdecimals => simp [hdigit hdigits, hdigit hdecimals]
  | keyword hkeyword => exact hkeywords _ hkeyword
  | identifier hw _ =>
    match x, hw with
    | c :: w, ⟨hc, hw⟩ =>
      rw [List.mem_cons, not_or]
      refine ⟨?_, fun hmem => absurd (hw _ hmem) (by decide)⟩
      rintro rfl
      exact absurd hc (by decide)

/-- Behind the gap at the head of a text there is no blank. -/
theorem isBlank_eq_false_of_drop (inComment : Bool) {rest tail : List Char} {c : Char}
    (h : rest.drop (gapLength inComment rest) = c :: tail) : isBlank c = false := by
  fun_induction gapLength inComment rest with
  | case1 => cases h
  | case2 rest ih => exact ih h
  | case3 d rest _ ih => exact ih h
  | case4 d rest _ ih => exact ih h
  | case5 d rest _ _ ih => exact ih h
  | case6 d rest hd _ =>
    obtain ⟨rfl, -⟩ := List.cons.inj h
    exact Bool.eq_false_iff.2 hd

/-! ## Refusals -/

theorem refusal_place (p : Place) (c : Char) (rest : List Char) :
    (refusal p c rest).line = p.line ∧ (refusal p c rest).col = p.col := by
  unfold refusal
  split <;> exact ⟨rfl, rfl⟩

/-- The messages of the two kinds of lexical errors differ. -/
theorem refusal_message {p : Place} {c : Char} {rest : List Char}
    (h : (refusal p c rest).message = "Unterminated string constant") : c = '\x22' := by
  unfold refusal at h
  split at h
  · assumption
  · have hthird := congrArg (fun s => s.toList[2]?) h
    simp at hthird

/-- The text of a refusal is at the head of what is refused, and on one line. -/
theorem refusal_text (p : Place) {c : Char} (hc : c ≠ '\n') (rest : List Char) :
    ∃ piece rest', c :: rest = piece ++ rest' ∧ '\n' ∉ piece ∧ piece ≠ []
      ∧ (refusal p c rest).text = String.ofList piece
      ∧ ((refusal p c rest).message = "Unterminated string constant" →
        piece = (c :: rest).takeWhile (· != '\n')) := by
  by_cases hquote : c = '\x22'
  · refine ⟨(c :: rest).takeWhile (· != '\n'), (c :: rest).dropWhile (· != '\n'),
      List.takeWhile_append_dropWhile.symm, fun hmem => ?_, ?_, ?_, fun _ => rfl⟩
    · have hne := List.mem_takeWhile_imp hmem
      exact absurd hne (by decide)
    · rw [List.takeWhile_cons, if_pos (bne_iff_ne.2 hc)]
      exact List.cons_ne_nil _ _
    · rw [refusal, if_pos hquote]
  · refine ⟨[c], rest, rfl, ?_, List.cons_ne_nil _ _, ?_, fun h => ?_⟩
    · rw [List.mem_singleton]
      exact hc.symm
    · rw [refusal, if_neg hquote]
      rfl
    · exact absurd (refusal_message h) hquote

/-! ## Answers -/

/-- **A token was found in a text** that begins at the place `p`, between what stands
before it and what stands behind it. -/
structure Token.Found (p : Place) (before rest : List Char) (t : Token) : Prop where
  line_eq : t.line = (p.after before).line
  col_eq : t.col = (p.after before).col
  unbroken : '\n' ∉ t.text.toList
  nonempty : t.isEof = false → t.text ≠ ""
  /-- The end of the input is found where nothing is left. -/
  isEof : t.isEof = true → t.text = "" ∧ rest = []

/-- **An answer about a text**, given by a reader that then stands at the offset
`stop`. -/
def Answers (p : Place) (text : List Char) (stop : ℕ) : Except LexicalError Token → Prop
  | .ok t => ∃ before rest, text = before ++ (t.text.toList ++ rest)
      ∧ before.length + t.text.length = stop ∧ t.Found p before rest
  | .error e => ∃ before c rest, text = before ++ c :: rest ∧ before.length = stop ∧ c ≠ '\n'
      ∧ e = refusal (p.after before) c rest

namespace Cursor

variable {p : Place} {before rest : List Char} {c : Cursor}

/-- A cursor behind a gap answers about the text, and goes on in it. -/
theorem Stands.readToken (h : Stands p before rest c)
    (hrest : ∀ x tail, rest = x :: tail → isBlank x = false) :
    Answers p (before ++ rest) c.readToken.2.index c.readToken.1
      ∧ ∃ before' rest', before ++ rest = before' ++ rest'
        ∧ Stands p before' rest' c.readToken.2 := by
  cases rest with
  | nil =>
    rw [h.readToken_nil]
    refine ⟨⟨before, [], rfl, h.index_eq.symm, rfl, rfl, ?_, nofun, fun _ => ⟨rfl, rfl⟩⟩,
      _, _, rfl, h⟩
    show '\n' ∉ "".toList
    decide
  | cons x rest =>
    cases hlexeme : lexeme? (x :: rest) with
    | none =>
      rw [h.readToken_error hlexeme]
      refine ⟨⟨before, x, rest, rfl, h.index_eq.symm, ?_, rfl⟩, _, _, rfl, h⟩
      rintro rfl
      exact absurd (hrest _ _ rfl) (by decide)
    | some l =>
      obtain ⟨hne, rest', hsplit⟩ := lexeme?_heads hlexeme
      have hsymbol := lexeme?_isLexeme hlexeme
      rw [← hsplit] at h hlexeme ⊢
      rw [h.readToken_ok hlexeme]
      have hadvance := h.advance
      refine ⟨⟨before, rest', ?_, ?_, rfl, rfl, ?_, fun _ => ?_, fun heof => ?_⟩,
        _, _, ?_, hadvance⟩
      · rw [String.toList_ofList]
      · rw [hadvance.index_eq, List.length_append, String.length_ofList]
      · rw [String.toList_ofList]
        exact hsymbol.newline_not_mem
      · rwa [Ne, String.ofList_eq_empty_iff]
      · exact absurd (eq_of_beq heof) hsymbol.ne_eof
      · rw [List.append_assoc]

/-- **A cursor answers about the text**, and goes on in it. -/
theorem Stands.scan (h : Stands p before rest c) :
    Answers p (before ++ rest) c.scan.2.index c.scan.1
      ∧ ∃ before' rest', before ++ rest = before' ++ rest' ∧ Stands p before' rest' c.scan.2 := by
  have hskip := h.skipGap.readToken fun x tail => isBlank_eq_false_of_drop false
  rw [List.append_assoc, List.take_append_drop] at hskip
  exact hskip

end Cursor

/-! ## Lexers -/

namespace Lexer

/-- The states that a lexer can be brought to by asking it for tokens. -/
inductive Reached (l₀ : Lexer) : Lexer → Prop
  | start : Reached l₀ l₀
  | next {l : Lexer} : Reached l₀ l → Reached l₀ l.next.2
  | peek {l : Lexer} : Reached l₀ l → Reached l₀ l.peek.2

/-- **A lexer is in a text**, and the token that it has read ahead, if there is one,
was its last answer about it. -/
structure Tracks (p : Place) (text : List Char) (l : Lexer) : Prop where
  stands : ∃ before rest, text = before ++ rest ∧ l.cursor.Stands p before rest
  peeked : ∀ t, l.peeked = some t → Answers p text l.cursor.index (.ok t)

theorem tracks_startingAt (text : String) (line col : ℤ) :
    Tracks ⟨line, col⟩ text.toList (startingAt text line col) :=
  ⟨⟨_, _, rfl, Cursor.stands_start ..⟩, nofun⟩

namespace Tracks

variable {p : Place} {text : List Char} {l : Lexer}

theorem scan (h : l.Tracks p text) : Answers p text l.cursor.scan.2.index l.cursor.scan.1
    ∧ ∃ before rest, text = before ++ rest ∧ l.cursor.scan.2.Stands p before rest := by
  obtain ⟨before, rest, rfl, hstands⟩ := h.stands
  exact hstands.scan

/-- **The next token is an answer about the text.** -/
theorem answers_next (h : l.Tracks p text) :
    Answers p text l.next.2.cursor.index l.next.1 ∧ l.next.2.Tracks p text := by
  unfold next
  split
  · next t ht => exact ⟨h.peeked t ht, h.stands, nofun⟩
  · exact ⟨h.scan.1, h.scan.2, nofun⟩

/-- **A token that is told and kept is an answer about the text.** -/
theorem answers_peek (h : l.Tracks p text) :
    Answers p text l.peek.2.cursor.index l.peek.1 ∧ l.peek.2.Tracks p text := by
  obtain ⟨hanswer, hstands⟩ := h.scan
  unfold peek
  split
  · next t ht => exact ⟨h.peeked t ht, h⟩
  · split
    · next hscan =>
      rw [hscan] at hanswer hstands
      refine ⟨hanswer, hstands, fun t ht => ?_⟩
      obtain rfl := Option.some.inj ht
      exact hanswer
    · next hscan =>
      rw [hscan] at hanswer hstands
      exact ⟨hanswer, hstands, nofun⟩

/-- Whatever a lexer is asked, it stays in its text. -/
theorem of_reached {l₀ : Lexer} (h : l₀.Tracks p text) (hl : Reached l₀ l) : l.Tracks p text := by
  induction hl with
  | start => exact h
  | next _ ih => exact ih.answers_next.2
  | peek _ ih => exact ih.answers_peek.2

end Tracks

end Lexer

end SyntaxChecker
