import SyntaxChecker.Proofs.Lexer.Tokenization

/-!
# Lexemes that are printed and read back

Print some lexemes with a gap between any two. What is read of the print is those lexemes
(`tokensOf_spell`), whatever they are, as long as each gap begins with a blank and has an
end of its own: a comment in it is closed by a line feed.

The blank keeps the lexeme before it from going on. The only lexemes with a blank in them
are string constants, and those end with the quotation mark that closes them, whatever
comes behind it (`IsLexeme.longest_append`). That also keeps a hyphen from becoming the
beginning of a comment. The end of the gap, on the other side, keeps it from taking
anything of the next lexeme (`ClosedGap.gapLength_append`).
-/

namespace SyntaxChecker

open Text (isWordStart isWordPart)

/-! ## Gaps that have an end -/

/-- **A gap that takes nothing of what is behind it**: blanks, and comments that are closed by
a line feed. -/
inductive ClosedGap : List Char → Prop
  | nil : ClosedGap []
  | blank {c : Char} {g : List Char} :
      c ∈ [' ', '\t', '\x0c', '\r', '\n'] → ClosedGap g → ClosedGap (c :: g)
  | comment {body g : List Char} :
      '\n' ∉ body → ClosedGap g → ClosedGap ('-' :: '-' :: (body ++ '\n' :: g))

/-- **A gap that separates** a lexeme before it from what is behind it. -/
inductive Separates : List Char → Prop
  | intro {c : Char} {g : List Char} :
      c ∈ [' ', '\t', '\x0c', '\r', '\n'] → ClosedGap g → Separates (c :: g)

/-- The end of a text, or a blank. -/
def Clears (rest : List Char) : Prop := ∀ c ∈ rest.head?, isBlank c = true

theorem ClosedGap.gapLength_append {g : List Char} (h : ClosedGap g) (rest : List Char) :
    gapLength false (g ++ rest) = g.length + gapLength false rest := by
  induction h with
  | nil => rw [List.nil_append, List.length_nil, Nat.zero_add]
  | blank hc _ ih =>
    rw [List.cons_append, gapLength, if_pos (isBlank_iff.2 hc), ih, List.length_cons]
    omega
  | @comment body g hbody _ ih =>
    have hcomment : gapLength false ('-' :: '-' :: (body ++ '\n' :: g) ++ rest)
        = gapLength true (body ++ '\n' :: (g ++ rest)) + 1 + 1 := by
      rw [List.cons_append, List.cons_append, List.append_assoc]
      rfl
    rw [hcomment, gapLength_body hbody, gapLength_newline, ih]
    simp only [List.length_cons, List.length_append]
    omega

/-- A gap with an end is the longest in front of what is no gap. -/
theorem ClosedGap.longest {g rest : List Char} (h : ClosedGap g)
    (hrest : gapLength false rest = 0) : Longest IsGap g (g ++ rest) := by
  have hlongest := longest_gap (g ++ rest)
  rwa [h.gapLength_append, hrest, Nat.add_zero, List.take_left] at hlongest

theorem Separates.closedGap {g : List Char} (h : Separates g) : ClosedGap g := by
  cases h with
  | intro hc hg => exact .blank hc hg

theorem Separates.clears {g : List Char} (h : Separates g) (rest : List Char) :
    Clears (g ++ rest) := by
  cases h with
  | intro hc _ =>
    intro d hd
    obtain rfl := Option.some.inj hd
    exact isBlank_iff.2 hc

/-! ## What a blank ends -/

/-- A lexeme alone is read as such. -/
theorem IsLexeme.lexeme?_eq {s : Symbol} {x : List Char} (h : IsLexeme s x) :
    lexeme? x = some ⟨s, x⟩ :=
  lexeme?_eq_some_iff.2 ⟨h, List.prefix_rfl, ⟨s, h⟩, fun _ _ hy => hy.length_le⟩

theorem IsLexeme.ne_nil {s : Symbol} {x : List Char} (h : IsLexeme s x) : x ≠ [] :=
  (lexeme?_heads h.lexeme?_eq).1

/-- A character of a word. -/
theorem IsWord.start_or_part {w : List Char} (h : IsWord w) {c : Char} (hc : c ∈ w) :
    isWordStart c = true ∨ isWordPart c = true := by
  match w, h with
  | d :: w, ⟨hd, hw⟩ =>
    rcases List.mem_cons.1 hc with rfl | hc
    · exact .inl hd
    · exact .inr (hw c hc)

/-- The characters that a gap may begin with. -/
def gapStarts : List Char := [' ', '\t', '\x0c', '\r', '\n', '-']

/-- **No lexeme begins like a gap**, but for the hyphen alone. -/
theorem IsLexeme.eq_hyphen_or_head {s : Symbol} {x : List Char} (h : IsLexeme s x) :
    x = ['-'] ∨ ∀ c ∈ x.head?, c ∉ gapStarts := by
  have hwords : ∀ w, IsWord w → ∀ c ∈ w.head?, c ∉ gapStarts := by
    intro w hw c hc
    match w, hw with
    | d :: w, ⟨hd, _⟩ =>
      obtain rfl := Option.some.inj hc
      exact not_mem_of_all (p := isWordStart) hd (by decide)
  have hnumbers : ∀ digits rest : List Char, digits ≠ [] → (∀ c ∈ digits, c.isDigit = true) →
      ∀ c ∈ (digits ++ rest).head?, c ∉ gapStarts := by
    intro digits rest hne hdigits c hc
    cases digits with
    | nil => exact absurd rfl hne
    | cons d digits =>
      obtain rfl := Option.some.inj hc
      exact not_mem_of_all (hdigits d List.mem_cons_self) (by decide)
  cases h with
  | mark hmark =>
    have hmarks : ∀ p ∈ Symbol.punctuation,
        p.1.toList = ['-'] ∨ p.1.toList.head?.all (· ∉ gapStarts) = true := by decide
    refine (hmarks _ hmark).imp_right fun hall c hc => ?_
    exact of_decide_eq_true ((Option.all_eq_true _ _).1 hall c hc)
  | string => exact .inr fun c hc => by cases hc; decide
  | whole hne hdigits => exact .inr (by simpa using hnumbers _ [] hne hdigits)
  | decimal hne hdigits => exact .inr (hnumbers _ _ hne hdigits)
  | keyword hkeyword =>
    have hkeywords : ∀ p ∈ Symbol.keywords, IsWord p.1.toList := by decide
    exact .inr (hwords _ (hkeywords _ hkeyword))
  | identifier hw => exact .inr (hwords _ hw)

/-- No gap begins where a lexeme does. A hyphen has no other one behind it. -/
theorem IsLexeme.gapLength_append {s : Symbol} {x rest : List Char} (h : IsLexeme s x)
    (hrest : Clears rest) : gapLength false (x ++ rest) = 0 := by
  rcases h.eq_hyphen_or_head with rfl | hhead
  · have hnext : rest.head? ≠ some '-' := fun hdash => nomatch hrest '-' hdash
    rw [List.singleton_append, gapLength, if_neg (by decide), if_neg (by simp [hnext])]
  · cases x with
    | nil => exact absurd rfl h.ne_nil
    | cons c w =>
      have hc : c ∉ gapStarts := hhead c rfl
      have hblank : ¬ isBlank c = true := fun hb =>
        hc (List.mem_append_left ['-'] (isBlank_iff.1 hb))
      have hdash : c ≠ '-' := fun hd => hc (hd ▸ by decide)
      rw [List.cons_append, gapLength, if_neg hblank, if_neg (by simp [hdash])]

/-- The characters that no lexeme but a string constant may have in it. -/
def notInMarksOrWords : List Char := ['\x22', ' ', '\t', '\x0c', '\r', '\n']

/-- **Only a string constant has a blank or a quotation mark in it.** -/
theorem IsLexeme.exists_body {s : Symbol} {x : List Char} (h : IsLexeme s x) {c : Char}
    (hc : c ∈ x) (hmem : c ∈ notInMarksOrWords) :
    ∃ body, (∀ d ∈ body, inString d = true) ∧ x = '\x22' :: (body ++ ['\x22']) := by
  have hdigit : c.isDigit = true → c ∉ notInMarksOrWords := fun h => not_mem_of_all h (by decide)
  have hword : IsWord x → c ∉ notInMarksOrWords := fun hw =>
    (hw.start_or_part hc).elim (fun h => not_mem_of_all (p := isWordStart) h (by decide))
      fun h => not_mem_of_all (p := isWordPart) h (by decide)
  cases h with
  | string hbody => exact ⟨_, fun d hd => inString_iff.2 (hbody d hd), rfl⟩
  | mark hmark =>
    have hmarks : ∀ p ∈ Symbol.punctuation,
        p.1.toList.all (· ∉ notInMarksOrWords) = true := by decide
    exact absurd hmem (of_decide_eq_true (List.all_eq_true.1 (hmarks _ hmark) c hc))
  | whole _ hdigits => exact absurd hmem (hdigit (hdigits c hc))
  | decimal _ hdigits _ hdecimals =>
    rcases List.mem_append.1 hc with hc | hc
    · exact absurd hmem (hdigit (hdigits c hc))
    · rcases List.mem_cons.1 hc with rfl | hc
      · exact absurd hmem (by decide)
      · exact absurd hmem (hdigit (hdecimals c hc))
  | keyword hkeyword =>
    have hkeywords : ∀ p ∈ Symbol.keywords, IsWord p.1.toList := by decide
    exact absurd hmem (hword (hkeywords _ hkeyword))
  | identifier hw => exact absurd hmem (hword hw)

/-- **A lexeme is the longest one in front of a blank.** -/
theorem IsLexeme.longest_append {s : Symbol} {x rest : List Char} (h : IsLexeme s x)
    (hrest : Clears rest) : Longest IsSomeLexeme x (x ++ rest) := by
  refine ⟨List.prefix_append .., ⟨s, h⟩, ?_⟩
  rintro y ⟨s', hy⟩ hprefix
  rcases List.prefix_or_prefix_of_prefix hprefix (List.prefix_append x rest) with hle | ⟨z, rfl⟩
  · exact hle.length_le
  cases z with
  | nil => rw [List.append_nil]
  | cons c z =>
    exfalso
    obtain ⟨t, rfl⟩ := (List.prefix_append_right_inj x).1 hprefix
    -- the longer lexeme has the blank in it, so it is a string constant, and so is the shorter
    have hblank : c ∈ notInMarksOrWords :=
      List.mem_cons_of_mem _ (isBlank_iff.1 (hrest c rfl))
    obtain ⟨body, hbody, heq⟩ := hy.exists_body (List.mem_append_right x List.mem_cons_self) hblank
    have hquote : '\x22' ∈ x := by
      obtain ⟨d, w, rfl⟩ := List.exists_cons_of_ne_nil h.ne_nil
      obtain rfl : d = '\x22' := (List.cons.inj heq).1
      exact List.mem_cons_self
    obtain ⟨body', hbody', rfl⟩ := h.exists_body hquote (by decide)
    -- the quotation mark that closes one of them closes the other
    have hsame : body' ++ '\x22' :: (c :: z) = body ++ '\x22' :: [] := by
      simpa using heq
    have hdrop := congrArg (List.dropWhile inString) hsame
    rw [(takeWhile_dropWhile_append_cons hbody' (c := '\x22') rfl _).2,
      (takeWhile_dropWhile_append_cons hbody (c := '\x22') rfl _).2] at hdrop
    cases hdrop

/-! ## What is printed is read -/

/-- **Pieces with a gap between any two.** In front of the first and behind the last there may
be none. -/
structure Spaced (ps : List Piece) (last : List Char) : Prop where
  first : ∀ p ∈ ps.head?, p.gap = [] ∨ Separates p.gap
  between : ∀ p ∈ ps.tail, Separates p.gap
  last : last = [] ∨ Separates last

/-- A gap that may be missing has an end. -/
theorem closedGap_of_eq_nil_or {g : List Char} (h : g = [] ∨ Separates g) : ClosedGap g := by
  rcases h with rfl | h
  · exact .nil
  · exact h.closedGap

namespace Spaced

variable {p : Piece} {ps : List Piece} {last : List Char}

/-- Behind a lexeme comes a blank, or nothing any more. -/
theorem clears (h : Spaced (p :: ps) last) : Clears (spell ps ++ last) := by
  cases ps with
  | nil =>
    rcases h.last with rfl | hlast
    · exact nofun
    · have hclears := hlast.clears []
      rwa [List.append_nil] at hclears
  | cons q qs =>
    rw [spell, List.append_assoc]
    exact (h.between q List.mem_cons_self).clears _

theorem tail (h : Spaced (p :: ps) last) : Spaced ps last :=
  ⟨fun q hq => .inr (h.between q (List.mem_of_mem_head? hq)),
    fun q hq => h.between q (List.mem_of_mem_tail hq), h.last⟩

/-- **Every gap and every lexeme is the longest at its place**, since neither goes on in what
is behind it. -/
theorem greedy (h : Spaced ps last)
    (hps : ∀ p ∈ ps, IsLexeme p.lexeme.symbol p.lexeme.text) : Greedy ps last := by
  induction ps with
  | nil => trivial
  | cons p ps ih =>
    obtain ⟨hp, hps⟩ := List.forall_mem_cons.1 hps
    exact ⟨(closedGap_of_eq_nil_or (h.first p rfl)).longest (hp.gapLength_append h.clears),
      hp.longest_append h.clears, hp, ih h.tail hps⟩

/-- The print of some lexemes, as it is read. -/
def reading (h : Spaced ps last) (hps : ∀ p ∈ ps, IsLexeme p.lexeme.symbol p.lexeme.text) :
    Reading (spell ps ++ last) where
  pieces := ps
  gap := last
  tail := []
  spells := by rw [List.append_nil]
  greedy := by
    rw [List.append_nil]
    exact h.greedy hps
  longest := (closedGap_of_eq_nil_or h.last).longest rfl
  stuck := lexeme?_eq_none_iff.1 rfl

end Spaced

/-- What a token says, wherever it stands. -/
def Token.lexeme (t : Token) : Lexeme := ⟨t.symbol, t.text.toList⟩

theorem map_lexeme_tokensAfter (p : Place) (before : List Char) (ps : List Piece) :
    (tokensAfter p before ps).map Token.lexeme = ps.map Piece.lexeme := by
  induction ps generalizing before with
  | nil => rfl
  | cons x ps ih =>
    rw [tokensAfter, List.map_cons, ih, Token.lexeme, String.toList_ofList]
    rfl

/-- A text delivers what its reading says. -/
theorem tokensOf_ofList {text : List Char} (r : Reading text) :
    tokensOf (String.ofList text) = r.outcome Place.first [] := by
  have hsame : ∀ {cs : List Char} (r' : Reading cs), cs = text →
      r'.outcome Place.first [] = r.outcome Place.first [] := by
    rintro _ r' rfl
    rw [Subsingleton.elim r' r]
  obtain ⟨r', hr'⟩ := exists_reading_tokensOf (String.ofList text)
  rw [hr', hsame r' String.toList_ofList]

/-- What is printed of lexemes is read. -/
theorem exists_tokensOf_spell {ps : List Piece} {last : List Char} (h : Spaced ps last)
    (hps : ∀ p ∈ ps, IsLexeme p.lexeme.symbol p.lexeme.text) :
    ∃ ts, tokensOf (String.ofList (spell ps ++ last)) = .ok ts
      ∧ ts.map Token.lexeme = ps.map Piece.lexeme ++ [⟨.eof, []⟩] := by
  refine ⟨_, (tokensOf_ofList (h.reading hps)).trans (Reading.outcome_of_tail_eq_nil rfl _ _), ?_⟩
  rw [List.map_append, map_lexeme_tokensAfter]
  rfl

theorem Greedy.isLexeme {ps : List Piece} {after : List Char} (h : Greedy ps after) :
    ∀ p ∈ ps, IsLexeme p.lexeme.symbol p.lexeme.text := by
  induction ps with
  | nil => exact nofun
  | cons p ps ih => exact List.forall_mem_cons.2 ⟨h.2.2.1, ih h.2.2.2⟩

/-- What the tokens of a text say are lexemes, and behind them the end of the input. -/
theorem exists_lexemes_of_tokensOf {text : String} {ts : List Token} (h : tokensOf text = .ok ts) :
    ∃ ls : List Lexeme, (∀ l ∈ ls, IsLexeme l.symbol l.text)
      ∧ ts.map Token.lexeme = ls ++ [⟨.eof, []⟩] := by
  obtain ⟨r, hr⟩ := exists_reading_tokensOf text
  rw [hr] at h
  cases htail : r.tail with
  | nil =>
    rw [Reading.outcome_of_tail_eq_nil htail] at h
    obtain rfl := Except.ok.inj h
    refine ⟨r.pieces.map Piece.lexeme, ?_, ?_⟩
    · rw [List.forall_mem_map]
      exact r.greedy.isLexeme
    · rw [List.map_append, map_lexeme_tokensAfter]
      rfl
  | cons c rest =>
    rw [Reading.outcome_of_tail_eq_cons htail] at h
    cases h

/-! ## Lexemes alone -/

/-- **A text that is nothing but one lexeme**, as the lexer tells. -/
def Lexeme.IsAlone (l : Lexeme) : Prop :=
  ∃ t e, tokensOf (String.ofList l.text) = .ok [t, e] ∧ t.lexeme = l

theorem Lexeme.isAlone_iff {l : Lexeme} : l.IsAlone ↔ IsLexeme l.symbol l.text := by
  constructor
  · rintro ⟨t, e, htokens, rfl⟩
    obtain ⟨ls, hls, hsplit⟩ := exists_lexemes_of_tokensOf htokens
    obtain ⟨hfirst, -⟩ :=
      List.append_inj' (show [t.lexeme] ++ [e.lexeme] = _ from hsplit) rfl
    exact hls _ (hfirst ▸ List.mem_singleton_self _)
  · intro h
    have hspaced : Spaced [⟨[], l⟩] [] := ⟨fun p hp => .inl (by cases hp; rfl), nofun, .inl rfl⟩
    obtain ⟨ts, htokens, hlexemes⟩ :=
      exists_tokensOf_spell hspaced (List.forall_mem_singleton.2 h)
    obtain ⟨us, es, rfl, hus, hes⟩ := List.map_eq_append_iff.1 hlexemes
    obtain ⟨t, rfl, ht⟩ := List.map_eq_singleton_iff.1 hus
    obtain ⟨e, rfl, -⟩ := List.map_eq_singleton_iff.1 hes
    refine ⟨t, e, ?_, ht⟩
    rw [← List.singleton_append, ← htokens]
    simp [spell]

/-! ## Single blanks -/

/-- The lexemes with a blank between any two. -/
def singlySpaced : List Lexeme → List Piece
  | [] => []
  | l :: ls => ⟨[], l⟩ :: ls.map (Piece.mk [' '])

theorem spell_singlySpaced (ls : List Lexeme) :
    spell (singlySpaced ls) = [' '].intercalate (ls.map Lexeme.text) := by
  cases ls with
  | nil => rfl
  | cons l ls =>
    show [] ++ (l.text ++ spell (ls.map (Piece.mk [' ']))) = _
    induction ls generalizing l with
    | nil => simp [spell]
    | cons m ls ih =>
      have hrest := ih m
      rw [List.map_cons] at hrest
      rw [List.map_cons, List.map_cons, List.map_cons, List.intercalate_cons_cons, ← hrest]
      simp [spell]

theorem spaced_singlySpaced (ls : List Lexeme) {last : List Char}
    (hlast : last = [] ∨ Separates last) : Spaced (singlySpaced ls) last := by
  refine ⟨?_, ?_, hlast⟩
  · cases ls with
    | nil => exact nofun
    | cons l ls => exact fun p hp => .inl (by cases hp; rfl)
  · cases ls with
    | nil => exact nofun
    | cons l ls => exact List.forall_mem_map.2 fun _ _ => .intro (by decide) .nil

theorem map_lexeme_singlySpaced (ls : List Lexeme) :
    (singlySpaced ls).map Piece.lexeme = ls := by
  cases ls with
  | nil => rfl
  | cons l ls =>
    show l :: (ls.map (Piece.mk [' '])).map Piece.lexeme = _
    rw [List.map_map]
    exact congrArg _ (List.map_id ls)

/-- Lexemes with single blanks between them are read back, and a blank behind them makes no
difference. -/
theorem exists_tokensOf_intercalate {us : List Token}
    (hus : ∀ l ∈ us.map Token.lexeme, IsLexeme l.symbol l.text) {last : String}
    (hlast : last = "" ∨ last = " ") :
    ∃ ts, tokensOf (" ".intercalate (us.map Token.text) ++ last) = .ok ts
      ∧ ts.map Token.lexeme = us.map Token.lexeme ++ [⟨.eof, []⟩] := by
  have hpieces : ∀ p ∈ singlySpaced (us.map Token.lexeme),
      IsLexeme p.lexeme.symbol p.lexeme.text := fun p hp =>
    hus _ (map_lexeme_singlySpaced (us.map Token.lexeme) ▸ List.mem_map_of_mem hp)
  have hgap : last.toList = [] ∨ Separates last.toList := by
    rcases hlast with rfl | rfl
    · exact .inl rfl
    · exact .inr (.intro (by decide) .nil)
  have htext : " ".intercalate (us.map Token.text) ++ last
      = String.ofList (spell (singlySpaced (us.map Token.lexeme)) ++ last.toList) := by
    rw [spell_singlySpaced, ← String.toList_inj, String.toList_ofList, String.toList_append,
      String.toList_intercalate, List.map_map, List.map_map]
    rfl
  have hread := exists_tokensOf_spell (spaced_singlySpaced _ hgap) hpieces
  rwa [← htext, map_lexeme_singlySpaced] at hread

/-! ## Printing and reading -/

/-- **What is printed is read back.** Let lexemes be given each of which is read as itself if it
is alone, and print them with gaps between them, each of which begins with a blank and goes on
with blanks and comments that are closed by a line feed. Before the first and behind the last
there may be such a gap or none. Then those lexemes are read, and the end of the input.

So the tokens of any text can be printed with single blanks between them, with the empty text
of the last one or without it, and the same is read as before. -/
theorem tokensOf_spell :
    (∀ (ps : List Piece) (last : List Char), (∀ p ∈ ps, p.lexeme.IsAlone) → Spaced ps last →
      ∃ ts, tokensOf (String.ofList (spell ps ++ last)) = .ok ts
        ∧ ts.map Token.lexeme = ps.map Piece.lexeme ++ [⟨.eof, []⟩])
      ∧ ∀ text ts, tokensOf text = .ok ts →
        (∃ us, tokensOf (" ".intercalate (ts.map Token.text)) = .ok us
          ∧ us.map Token.lexeme = ts.map Token.lexeme)
        ∧ ∃ us, tokensOf (" ".intercalate (ts.dropLast.map Token.text)) = .ok us
          ∧ us.map Token.lexeme = ts.map Token.lexeme := by
  refine ⟨fun ps last hps hspaced =>
    exists_tokensOf_spell hspaced fun p hp => Lexeme.isAlone_iff.1 (hps p hp), ?_⟩
  intro text ts htokens
  obtain ⟨ls, hls, hlexemes⟩ := exists_lexemes_of_tokensOf htokens
  obtain ⟨us, end', rfl, rfl, hend⟩ := List.map_eq_append_iff.1 hlexemes
  obtain ⟨e, rfl, he⟩ := List.map_eq_singleton_iff.1 hend
  have htext : e.text = "" := String.toList_eq_nil_iff.1 (congrArg Lexeme.text he)
  rw [List.dropLast_concat, List.map_append, List.map_append, List.map_singleton, htext,
    List.map_singleton, he]
  have hread := exists_tokensOf_intercalate hls (.inl rfl)
  rw [String.append_empty] at hread
  refine ⟨?_, hread⟩
  -- behind the last text but one stands a blank, unless there is none
  cases us with
  | nil => exact hread
  | cons u us =>
    have hne : (u :: us).map Token.text ≠ [] := List.cons_ne_nil _ _
    rw [String.intercalate_append_of_ne_nil hne (List.cons_ne_nil _ _),
      String.intercalate_singleton, String.append_empty]
    exact exists_tokensOf_intercalate hls (.inr rfl)

/-- Hyphens that are no comments: two of them are lexemes, and two stand in a string constant.
The comment between them ends with its line. -/
theorem tokensOf_spell_hyphens :
    let hyphen : Lexeme := ⟨.minus, ['-']⟩
    let string : Lexeme := ⟨.stringConstant, "\x22-- \x22".toList⟩
    let ps : List Piece := [⟨[], hyphen⟩, ⟨" --a\n".toList, hyphen⟩, ⟨"\t".toList, string⟩]
    let ts : List Token := [⟨.identifier, "x", 1, 1⟩, ⟨.greaterEqual, ">=", 1, 2⟩, .endOfInput 1 6]
    (∀ p ∈ ps, p.lexeme.IsAlone) ∧ Spaced ps "\r\n".toList ∧ tokensOf "x>=--" = .ok ts
      ∧ (∃ us, tokensOf (String.ofList (spell ps ++ "\r\n".toList)) = .ok us
        ∧ us.map Token.lexeme = ps.map Piece.lexeme ++ [⟨.eof, []⟩])
      ∧ (∃ us, tokensOf (" ".intercalate ["x", ">=", ""]) = .ok us
        ∧ us.map Token.lexeme = ts.map Token.lexeme)
      ∧ ∃ us, tokensOf (" ".intercalate ["x", ">="]) = .ok us
        ∧ us.map Token.lexeme = ts.map Token.lexeme := by
  intro hyphen string ps ts
  have hhyphen : hyphen.IsAlone :=
    Lexeme.isAlone_iff.2 (@IsLexeme.mark "-" .minus (by decide))
  have hbody : "-- ".toList.all inString = true := by decide
  have hstring : string.IsAlone := Lexeme.isAlone_iff.2
    (@IsLexeme.string "-- ".toList fun c hc => inString_iff.1 (List.all_eq_true.1 hbody c hc))
  have hps : ∀ p ∈ ps, p.lexeme.IsAlone := by
    rw [List.forall_mem_cons, List.forall_mem_cons, List.forall_mem_singleton]
    exact ⟨hhyphen, hhyphen, hstring⟩
  have hcomment : Separates " --a\n".toList :=
    .intro (by decide) (@ClosedGap.comment ['a'] [] (by decide) .nil)
  have hspaced : Spaced ps "\r\n".toList := by
    refine ⟨fun p hp => .inl (by cases hp; rfl), ?_, ?_⟩
    · exact List.forall_mem_cons.2 ⟨hcomment, List.forall_mem_singleton.2 (.intro (by decide) .nil)⟩
    · exact .inr (.intro (by decide) (.blank (by decide) .nil))
  have htokens : tokensOf "x>=--" = .ok ts := by
    have h₁ : (Lexer.ofText "x>=--").next
        = (.ok ⟨.identifier, "x", 1, 1⟩, ⟨⟨">=--".toList, 1, 1, 2⟩, none⟩) := rfl
    have h₂ : (⟨⟨">=--".toList, 1, 1, 2⟩, none⟩ : Lexer).next
        = (.ok ⟨.greaterEqual, ">=", 1, 2⟩, ⟨⟨"--".toList, 3, 1, 4⟩, none⟩) := rfl
    have h₃ : (⟨⟨"--".toList, 3, 1, 4⟩, none⟩ : Lexer).next
        = (.ok (.endOfInput 1 6), ⟨⟨[], 5, 1, 6⟩, none⟩) := rfl
    rw [tokensOf, Lexer.drain_ok h₁, Lexer.drain_ok h₂, Lexer.drain_ok h₃]
    rfl
  obtain ⟨hprinted, hspacing⟩ := tokensOf_spell
  obtain ⟨hwhole, hbut⟩ := hspacing _ ts htokens
  exact ⟨hps, hspaced, htokens, hprinted ps _ hps hspaced, hwhole, hbut⟩

end SyntaxChecker
