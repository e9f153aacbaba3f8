import SyntaxChecker.Lexer
import SyntaxChecker.Proofs.Lexer.LexicalGrammar
import SyntaxChecker.Proofs.Lexer.Place

/-!
# The tokens of a text

A text is split into pieces, each of which is a gap and a lexeme behind it, and
each gap and each lexeme is the longest at its place. This goes on until, behind
a last gap, no lexeme begins. A `Reading` is a text with its split, and every
text has exactly one.

What the lexer delivers is told by the reading (`tokensOf_iff`). If the reading
comes to the end of the text, the lexer delivers the lexemes with their symbols
and places, and the end of the input. If it does not, the lexer raises an error
about the character that the reading stops at.
-/

namespace SyntaxChecker

/-! ## Readings -/

/-- A gap and the lexeme behind it. -/
structure Piece where
  gap : List Char
  lexeme : Lexeme
  deriving DecidableEq, Repr

/-- The text that some pieces make up. -/
def spell : List Piece → List Char
  | [] => []
  | p :: ps => p.gap ++ (p.lexeme.text ++ spell ps)

/-- **Every gap and every lexeme is the longest at its place**, in a text of some
pieces and what comes after them; and every lexeme has its symbol. -/
def Greedy : List Piece → List Char → Prop
  | [], _ => True
  | p :: ps, after =>
    Longest IsGap p.gap (p.gap ++ (p.lexeme.text ++ (spell ps ++ after)))
      ∧ Longest IsSomeLexeme p.lexeme.text (p.lexeme.text ++ (spell ps ++ after))
      ∧ IsLexeme p.lexeme.symbol p.lexeme.text
      ∧ Greedy ps after

/-- **A text as it is read**: pieces, a last gap, and the rest of the text, where no
lexeme begins. -/
structure Reading (text : List Char) where
  pieces : List Piece
  gap : List Char
  tail : List Char
  spells : spell pieces ++ (gap ++ tail) = text
  greedy : Greedy pieces (gap ++ tail)
  longest : Longest IsGap gap (gap ++ tail)
  stuck : ∀ x, IsSomeLexeme x → ¬ x <+: tail

namespace Reading

/-- A text that holds no lexeme. -/
def stop {gap tail : List Char} (hgap : Longest IsGap gap (gap ++ tail))
    (hstuck : ∀ x, IsSomeLexeme x → ¬ x <+: tail) : Reading (gap ++ tail) :=
  ⟨[], gap, tail, rfl, trivial, hgap, hstuck⟩

/-- One more piece in front. -/
def cons {gap rest : List Char} {l : Lexeme}
    (hgap : Longest IsGap gap (gap ++ (l.text ++ rest)))
    (hlongest : Longest IsSomeLexeme l.text (l.text ++ rest))
    (hlexeme : IsLexeme l.symbol l.text) (r : Reading rest) :
    Reading (gap ++ (l.text ++ rest)) where
  pieces := ⟨gap, l⟩ :: r.pieces
  gap := r.gap
  tail := r.tail
  spells := by rw [spell, List.append_assoc, List.append_assoc, r.spells]
  greedy := by
    rw [Greedy, r.spells]
    exact ⟨hgap, hlongest, hlexeme, r.greedy⟩
  longest := r.longest
  stuck := r.stuck

end Reading

/-- There is one way only to be greedy. -/
theorem Greedy.unique {ps ps' : List Piece} {gap tail gap' tail' : List Char}
    (hspell : spell ps ++ (gap ++ tail) = spell ps' ++ (gap' ++ tail'))
    (h : Greedy ps (gap ++ tail)) (h' : Greedy ps' (gap' ++ tail'))
    (hgap : Longest IsGap gap (gap ++ tail)) (hgap' : Longest IsGap gap' (gap' ++ tail'))
    (hstuck : ∀ x, IsSomeLexeme x → ¬ x <+: tail)
    (hstuck' : ∀ x, IsSomeLexeme x → ¬ x <+: tail') :
    ps = ps' ∧ gap = gap' ∧ tail = tail' := by
  induction ps generalizing ps' with
  | nil =>
    cases ps' with
    | nil =>
      change gap ++ tail = gap' ++ tail' at hspell
      rw [hspell] at hgap
      obtain rfl := hgap.unique hgap'
      exact ⟨rfl, rfl, List.append_cancel_left hspell⟩
    | cons p ps' =>
      obtain ⟨hlongest, hlexeme, -⟩ := h'
      change gap ++ tail = _ at hspell
      rw [spell, List.append_assoc, List.append_assoc] at hspell
      rw [← hspell] at hlongest
      obtain rfl := hgap.unique hlongest
      -- behind the same gap the second reading finds a lexeme where the first stops
      rw [← List.append_cancel_left hspell] at hlexeme
      exact absurd hlexeme.head (hstuck _ hlexeme.holds)
  | cons p ps ih =>
    obtain ⟨hlongest, hlexeme, hsymbol, hrest⟩ := h
    rw [spell, List.append_assoc, List.append_assoc] at hspell
    cases ps' with
    | nil =>
      change _ = gap' ++ tail' at hspell
      rw [hspell] at hlongest
      obtain rfl := hgap'.unique hlongest
      rw [List.append_cancel_left hspell] at hlexeme
      exact absurd hlexeme.head (hstuck' _ hlexeme.holds)
    | cons p' ps' =>
      obtain ⟨hlongest', hlexeme', hsymbol', hrest'⟩ := h'
      rw [spell, List.append_assoc, List.append_assoc] at hspell
      obtain ⟨g, s, x⟩ := p
      obtain ⟨g', s', x'⟩ := p'
      dsimp only at *
      rw [hspell] at hlongest
      obtain rfl : g = g' := hlongest.unique hlongest'
      have hspell := List.append_cancel_left hspell
      rw [hspell] at hlexeme
      obtain rfl : x = x' := hlexeme.unique hlexeme'
      obtain rfl : s = s' := hsymbol.symbol_unique hsymbol'
      obtain ⟨rfl, rfl, rfl⟩ := ih (List.append_cancel_left hspell) hrest hrest'
      exact ⟨rfl, rfl, rfl⟩

/-- **A text has one reading at most.** -/
instance (text : List Char) : Subsingleton (Reading text) where
  allEq r r' := by
    obtain ⟨hps, hgap, htail⟩ := r.greedy.unique (r.spells.trans r'.spells.symm) r'.greedy
      r.longest r'.longest r.stuck r'.stuck
    cases r
    cases r'
    cases hps
    cases hgap
    cases htail
    rfl

/-! ## What a reading delivers -/

/-- The tokens of some pieces, in a text that begins at the place `p`, behind a
part of it. -/
def tokensAfter (p : Place) (before : List Char) : List Piece → List Token
  | [] => []
  | x :: xs =>
    ⟨x.lexeme.symbol, String.ofList x.lexeme.text, (p.after (before ++ x.gap)).line,
        (p.after (before ++ x.gap)).col⟩
      :: tokensAfter p (before ++ x.gap ++ x.lexeme.text) xs

/-- The error at a place where the text goes on with a character that begins no
lexeme. A quotation mark begins none if it is not closed, and then the rest of
the line is at fault. -/
def refusal (p : Place) (c : Char) (rest : List Char) : LexicalError :=
  if c = '\x22' then
    ⟨"Unterminated string constant", p.line, p.col,
      String.ofList ((c :: rest).takeWhile (· != '\n'))⟩
  else
    ⟨"Unexpected character " ++ Text.quoted (String.singleton c), p.line, p.col,
      String.singleton c⟩

namespace Reading

variable {text : List Char}

/-- The part of the text that is behind the last gap. -/
def passed (r : Reading text) : List Char := spell r.pieces ++ r.gap

/-- What the lexer has to deliver for a text that is read like this. -/
def outcome (p : Place) (before : List Char) (r : Reading text) :
    Except LexicalError (List Token) :=
  match r.tail with
  | [] =>
    .ok (tokensAfter p before r.pieces
      ++ [Token.endOfInput (p.after (before ++ r.passed)).line (p.after (before ++ r.passed)).col])
  | c :: rest => .error (refusal (p.after (before ++ r.passed)) c rest)

theorem outcome_of_tail_eq_nil {r : Reading text} (h : r.tail = []) (p : Place)
    (before : List Char) :
    r.outcome p before = .ok (tokensAfter p before r.pieces
      ++ [Token.endOfInput (p.after (before ++ text)).line (p.after (before ++ text)).col]) := by
  have hpassed : r.passed = text := by
    have hspells := r.spells
    rw [h, List.append_nil] at hspells
    exact hspells
  unfold outcome
  rw [h, hpassed]

theorem outcome_of_tail_eq_cons {r : Reading text} {c : Char} {rest : List Char}
    (h : r.tail = c :: rest) (p : Place) (before : List Char) :
    r.outcome p before = .error (refusal (p.after (before ++ r.passed)) c rest) := by
  unfold outcome
  rw [h]

/-- One more piece in front is one more token in front. -/
theorem outcome_cons (p : Place) (before : List Char) {gap rest : List Char} {l : Lexeme}
    (hgap : Longest IsGap gap (gap ++ (l.text ++ rest)))
    (hlongest : Longest IsSomeLexeme l.text (l.text ++ rest))
    (hlexeme : IsLexeme l.symbol l.text) (r : Reading rest) :
    (cons hgap hlongest hlexeme r).outcome p before
      = (r.outcome p (before ++ gap ++ l.text)).map
          (⟨l.symbol, String.ofList l.text, (p.after (before ++ gap)).line,
            (p.after (before ++ gap)).col⟩ :: ·) := by
  have hpassed : before ++ (cons hgap hlongest hlexeme r).passed
      = before ++ gap ++ l.text ++ r.passed := by
    simp [passed, cons, spell]
  unfold outcome
  rw [hpassed]
  show (match r.tail with | [] => _ | c :: rest => _) = _
  cases r.tail <;> rfl

end Reading

/-! ## The lexer reads -/

/-- No lexeme is the end of the input. -/
theorem IsLexeme.ne_eof {s : Symbol} {x : List Char} (h : IsLexeme s x) : s ≠ .eof := by
  have hmarks : ∀ p ∈ Symbol.punctuation, p.2 ≠ .eof := by decide
  have hkeywords : ∀ p ∈ Symbol.keywords, p.2 ≠ .eof := by decide
  cases h with
  | mark hmark => exact hmarks _ hmark
  | string | whole | decimal | identifier => exact nofun
  | keyword hkeyword => exact hkeywords _ hkeyword

namespace Cursor

variable {p : Place} {before rest : List Char} {c : Cursor}

theorem Stands.skipGap (h : Stands p before rest c) :
    Stands p (before ++ rest.take (gapLength false rest)) (rest.drop (gapLength false rest))
      c.skipGap := by
  have hlen : (rest.take (gapLength false rest)).length = gapLength false rest :=
    List.length_take_of_le (gapLength_le_length false rest)
  have hsplit := h
  rw [← List.take_append_drop (gapLength false rest) rest] at hsplit
  have hadvance := hsplit.advance
  rw [hlen] at hadvance
  rw [Cursor.skipGap, h.rest_eq]
  exact hadvance

theorem Stands.readToken_nil (h : Stands p before [] c) :
    c.readToken = (.ok (Token.endOfInput (p.after before).line (p.after before).col), c) := by
  unfold readToken
  rw [h.rest_eq, h.line_eq, h.col_eq]

theorem Stands.readToken_error {x : Char} (h : Stands p before (x :: rest) c)
    (hnone : lexeme? (x :: rest) = none) :
    c.readToken = (.error (refusal (p.after before) x rest), c) := by
  unfold readToken
  rw [h.rest_eq]
  dsimp only
  rw [hnone]
  dsimp only [refuse, refusal]
  rw [h.rest_eq, h.line_eq, h.col_eq]

theorem Stands.readToken_ok {l : Lexeme} (h : Stands p before (l.text ++ rest) c)
    (hsome : lexeme? (l.text ++ rest) = some l) :
    c.readToken = (.ok ⟨l.symbol, String.ofList l.text, (p.after before).line,
      (p.after before).col⟩, c.advance l.text.length) := by
  unfold readToken
  rw [h.rest_eq]
  split
  · next hnil =>
    rw [hnil] at hsome
    cases hsome
  · next hcons =>
    rw [← hcons, hsome]
    dsimp only [tokenOf]
    rw [h.line_eq, h.col_eq]

end Cursor

namespace Lexer

/-- A lexer that has not read ahead delivers what its cursor reads. -/
theorem next_of_peeked_eq_none {l : Lexer} (h : l.peeked = none) :
    l.next = (l.cursor.skipGap.readToken.1, ⟨l.cursor.skipGap.readToken.2, none⟩) := by
  unfold next
  rw [h]
  rfl

theorem drain_error {l l' : Lexer} {e : LexicalError} (h : l.next = (.error e, l')) :
    l.drain = (.error e, l') := by
  rw [drain]
  split
  · next heq =>
    rw [h] at heq
    cases heq
    rfl
  · next heq =>
    rw [h] at heq
    cases heq

theorem drain_ok {l l' : Lexer} {t : Token} (h : l.next = (.ok t, l')) :
    l.drain.1 = if t.isEof then .ok [t] else l'.drain.1.map (t :: ·) := by
  rw [drain]
  split
  · next heq =>
    rw [h] at heq
    cases heq
  · next heq =>
    rw [h] at heq
    cases heq
    split
    · rfl
    · dsimp only
      split
      · next hdrain => rw [hdrain]; rfl
      · next hdrain => rw [hdrain]; rfl

/-- **The lexer delivers what the reading says**, wherever in a text it stands. -/
theorem exists_reading {p : Place} {before rest : List Char} {l : Lexer}
    (hpeeked : l.peeked = none) (h : l.cursor.Stands p before rest) :
    ∃ r : Reading rest, l.drain.1 = r.outcome p before := by
  induction hn : rest.length using Nat.strong_induction_on generalizing before rest l with
  | _ n ih =>
    subst hn
    have hskip := h.skipGap
    have hnext := next_of_peeked_eq_none hpeeked
    have hgap := longest_gap rest
    have hsplit := List.take_append_drop (gapLength false rest) rest
    -- what remains is the gap and the text behind it, and only that matters from here on
    generalize rest.take (gapLength false rest) = gap at hskip hgap hsplit
    generalize rest.drop (gapLength false rest) = tail at hskip hsplit
    subst hsplit
    cases tail with
    | nil =>
      rw [hskip.readToken_nil] at hnext
      refine ⟨.stop hgap (lexeme?_eq_none_iff.1 (by decide)), ?_⟩
      rw [drain_ok hnext]
      rfl
    | cons c tail =>
      cases hlexeme : lexeme? (c :: tail) with
      | none =>
        rw [hskip.readToken_error hlexeme] at hnext
        refine ⟨.stop hgap (lexeme?_eq_none_iff.1 hlexeme), ?_⟩
        rw [drain_error hnext]
        rfl
      | some x =>
        obtain ⟨hne, tail', htail'⟩ := lexeme?_heads hlexeme
        rw [← htail'] at hskip hgap hlexeme ih ⊢
        obtain ⟨hsymbol, hlongest⟩ := lexeme?_eq_some_iff.1 hlexeme
        rw [hskip.readToken_ok hlexeme] at hnext
        have hlt : tail'.length < (gap ++ (x.text ++ tail')).length := by
          have hpos := List.length_pos_iff.2 hne
          rw [List.length_append, List.length_append]
          omega
        -- the lexer goes on behind the lexeme
        obtain ⟨r, hr⟩ := ih _ hlt (l := ⟨_, none⟩) rfl hskip.advance rfl
        refine ⟨.cons hgap hlongest hsymbol r, ?_⟩
        have heof : (x.symbol == Symbol.eof) = false := beq_eq_false_iff_ne.2 hsymbol.ne_eof
        rw [drain_ok hnext, Reading.outcome_cons, ← hr, Token.isEof, heof]
        rfl

end Lexer

/-! ## The lexer and the readings -/

/-- **Every text has a reading**, and the lexer delivers it. -/
theorem exists_reading_tokensOf (text : String) :
    ∃ r : Reading text.toList, tokensOf text = r.outcome Place.first [] :=
  Lexer.exists_reading rfl (Cursor.stands_start text.toList 1 1)

/-- **The lexer reads as far as it can, and nothing else.** Exactly if the reading
of a text comes to its end, the lexer delivers tokens, and those are the lexemes
of the reading and the end of the input. Exactly if the reading stops before a
character, the lexer raises an error, and that is about this character. -/
theorem tokensOf_iff (text : String) :
    (∀ ts, tokensOf text = .ok ts ↔ ∃ r : Reading text.toList, r.tail = []
      ∧ ts = tokensAfter Place.first [] r.pieces
        ++ [Token.endOfInput (Place.first.after text.toList).line
              (Place.first.after text.toList).col])
    ∧ (∀ e, tokensOf text = .error e ↔ ∃ (r : Reading text.toList) (c : Char) (rest : List Char),
      r.tail = c :: rest
        ∧ e = refusal (Place.first.after (spell r.pieces ++ r.gap)) c rest) := by
  obtain ⟨r, hr⟩ := exists_reading_tokensOf text
  rw [hr]
  cases htail : r.tail with
  | nil =>
    rw [Reading.outcome_of_tail_eq_nil htail]
    refine ⟨fun ts => ⟨fun h => ⟨r, htail, (Except.ok.inj h).symm⟩, ?_⟩, fun e => ⟨nofun, ?_⟩⟩
    · rintro ⟨r', -, rfl⟩
      rw [Subsingleton.elim r r']
      rfl
    · rintro ⟨r', c, rest, htail', -⟩
      rw [← Subsingleton.elim r r', htail] at htail'
      cases htail'
  | cons c rest =>
    rw [Reading.outcome_of_tail_eq_cons htail]
    refine ⟨fun ts => ⟨nofun, ?_⟩,
      fun e => ⟨fun h => ⟨r, c, rest, htail, (Except.error.inj h).symm⟩, ?_⟩⟩
    · rintro ⟨r', htail', -⟩
      rw [← Subsingleton.elim r r', htail] at htail'
      cases htail'
    · rintro ⟨r', c', rest', htail', rfl⟩
      obtain rfl := Subsingleton.elim r r'
      rw [htail] at htail'
      cases htail'
      rfl

end SyntaxChecker
