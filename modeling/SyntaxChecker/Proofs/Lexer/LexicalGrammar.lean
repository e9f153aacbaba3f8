import Mathlib.Data.List.TakeWhile
import SyntaxChecker.Lexeme

/-!
# The lexical grammar

What a lexeme is, and what a gap, can be said without saying how to find one.
`IsLexeme` lists the spellings of each symbol, and `IsGap` those runs of
characters that stand for nothing. A text is read by taking the longest head
that is a gap, and then the longest head that is a lexeme (`Longest`).

The functions that read a text do just that. `longest_gap` says it of
`gapLength`, and `lexeme?_eq_some_iff` of `lexeme?`. The second is not obvious,
since the four kinds of lexemes are tried one after the other, and the first
that fits is taken. But no two kinds begin with the same character, so at most
one of them fits at all; and within a kind the longest lexeme is found, in the
case of the operators because they are listed by their lengths.
-/

namespace SyntaxChecker

open Text (isWordStart isWordPart)

/-! ## Longest heads -/

/-- The longest head of a text that has a property. -/
structure Longest (P : List Char → Prop) (x rest : List Char) : Prop where
  head : x <+: rest
  holds : P x
  longest : ∀ y, P y → y <+: rest → y.length ≤ x.length

theorem Longest.unique {P : List Char → Prop} {x y rest : List Char} (hx : Longest P x rest)
    (hy : Longest P y rest) : x = y :=
  (List.prefix_of_prefix_length_le hx.head hy.head (hy.longest x hx.holds hx.head)).eq_of_length
    (Nat.le_antisymm (hy.longest x hx.holds hx.head) (hx.longest y hy.holds hy.head))

/-- A head of certain characters is no longer than what they make up. -/
theorem length_le_takeWhile {p : Char → Bool} {x rest : List Char} (hx : ∀ c ∈ x, p c = true)
    (h : x <+: rest) : x.length ≤ (rest.takeWhile p).length := by
  obtain ⟨t, rfl⟩ := h
  rw [List.takeWhile_append_of_pos hx, List.length_append]
  exact Nat.le_add_right ..

/-- Characters of one kind in front of a character of another. -/
theorem takeWhile_dropWhile_append_cons {p : Char → Bool} {x : List Char}
    (hx : ∀ c ∈ x, p c = true) {c : Char} (hc : p c = false) (t : List Char) :
    (x ++ c :: t).takeWhile p = x ∧ (x ++ c :: t).dropWhile p = c :: t := by
  have hno : ¬ p c = true := by
    rw [hc]
    exact Bool.false_ne_true
  rw [List.takeWhile_append_of_pos hx, List.dropWhile_append_of_pos hx,
    List.takeWhile_cons_of_neg hno, List.dropWhile_cons_of_neg hno, List.append_nil]
  exact ⟨rfl, rfl⟩

/-! ## Gaps -/

/-- **Input that stands for nothing**: blanks, and comments that run from a double
hyphen at most to the end of the line. -/
inductive IsGap : List Char → Prop
  | nil : IsGap []
  | blank {c : Char} {g : List Char} :
      c ∈ [' ', '\t', '\x0c', '\r', '\n'] → IsGap g → IsGap (c :: g)
  | comment {body g : List Char} :
      '\n' ∉ body → IsGap g → IsGap ('-' :: '-' :: (body ++ g))

theorem isBlank_iff {c : Char} :
    isBlank c = true ↔ c ∈ [' ', '\t', '\x0c', '\r', '\n'] := by
  simp [isBlank, or_assoc]

theorem gapLength_newline (rest : List Char) (inComment : Bool) :
    gapLength inComment ('\n' :: rest) = gapLength false rest + 1 := by
  cases inComment <;> rfl

theorem gapLength_comment {c : Char} (hc : c ≠ '\n') (rest : List Char) :
    gapLength true (c :: rest) = gapLength true rest + 1 := by
  rw [gapLength]
  exact hc

/-- A comment hides whatever a gap may hold. -/
theorem gapLength_false_le (rest : List Char) : gapLength false rest ≤ gapLength true rest := by
  induction rest with
  | nil => exact Nat.le_refl _
  | cons c rest ih =>
    by_cases hc : c = '\n'
    · rw [hc, gapLength_newline, gapLength_newline]
    · rw [gapLength_comment hc, gapLength]
      split
      · exact Nat.succ_le_succ ih
      · split
        · exact Nat.le_refl _
        · exact Nat.zero_le _

theorem gapLength_body {body : List Char} (hbody : '\n' ∉ body) (rest : List Char) :
    gapLength true (body ++ rest) = body.length + gapLength true rest := by
  induction body with
  | nil => rw [List.nil_append, List.length_nil, Nat.zero_add]
  | cons c body ih =>
    rw [List.mem_cons, not_or] at hbody
    rw [List.cons_append, gapLength_comment (Ne.symm hbody.1), ih hbody.2, List.length_cons]
    omega

theorem gapLength_le_length (inComment : Bool) (rest : List Char) :
    gapLength inComment rest ≤ rest.length := by
  induction rest generalizing inComment with
  | nil => cases inComment <;> exact Nat.le_refl _
  | cons c rest ih =>
    have hle := ih false
    have hle' := ih true
    unfold gapLength
    split <;> grind

/-- No gap at the head of a text is longer than the one that is found. -/
theorem IsGap.length_le {g rest : List Char} (h : IsGap g) (hrest : g <+: rest) :
    g.length ≤ gapLength false rest := by
  induction h generalizing rest with
  | nil => exact Nat.zero_le _
  | blank hc _ ih =>
    obtain ⟨t, rfl⟩ := hrest
    rw [List.cons_append, gapLength, if_pos (isBlank_iff.2 hc)]
    exact Nat.succ_le_succ (ih (List.prefix_append ..))
  | @comment body g hbody _ ih =>
    obtain ⟨t, rfl⟩ := hrest
    have hg := ih (List.prefix_append g t)
    have hle := gapLength_false_le (g ++ t)
    -- the comment that is found holds the body and may hold more
    have hcomment : gapLength false ('-' :: '-' :: (body ++ g) ++ t)
        = body.length + gapLength true (g ++ t) + 1 + 1 := by
      rw [← gapLength_body hbody, ← List.append_assoc]
      rfl
    rw [hcomment, List.length_cons, List.length_cons, List.length_append]
    omega

mutual

/-- What is found is a gap. -/
theorem isGap_take : (rest : List Char) → IsGap (rest.take (gapLength false rest))
  | [] => .nil
  | c :: rest => by
    by_cases hblank : isBlank c = true
    · rw [gapLength, if_pos hblank]
      exact .blank (isBlank_iff.1 hblank) (isGap_take rest)
    · rw [gapLength, if_neg hblank]
      split
      · next hdash =>
        rw [Bool.and_eq_true, beq_iff_eq, beq_iff_eq] at hdash
        obtain ⟨rfl, hrest⟩ := hdash
        -- the second hyphen belongs to the opening of the comment, not to its body
        match rest with
        | [] => cases hrest
        | d :: rest =>
          obtain rfl : d = '-' := Option.some.inj hrest
          exact isGap_take_comment rest [] List.not_mem_nil
      · exact .nil

theorem isGap_take_comment : (rest body : List Char) → '\n' ∉ body →
    IsGap ('-' :: '-' :: (body ++ rest.take (gapLength true rest)))
  | [], body, hbody => .comment hbody .nil
  | c :: rest, body, hbody => by
    by_cases hc : c = '\n'
    · rw [hc, gapLength_newline]
      exact .comment hbody (.blank (by decide) (isGap_take rest))
    · rw [gapLength_comment hc, List.take_succ_cons, List.append_cons]
      refine isGap_take_comment rest (body ++ [c]) ?_
      rw [List.mem_append, not_or, List.mem_singleton]
      exact ⟨hbody, Ne.symm hc⟩

end

/-- **The longest gap is found.** -/
theorem longest_gap (rest : List Char) :
    Longest IsGap (rest.take (gapLength false rest)) rest := by
  refine ⟨List.take_prefix .., isGap_take rest, fun g hg hrest => ?_⟩
  rw [List.length_take]
  exact Nat.le_min.2 ⟨hg.length_le hrest, hrest.length_le⟩

/-! ## Lexemes -/

/-- A word: a character that may begin one, and others that may go on with it. -/
def IsWord : List Char → Prop
  | [] => False
  | c :: w => isWordStart c = true ∧ ∀ d ∈ w, isWordPart d = true

instance : DecidablePred IsWord
  | [] => inferInstanceAs (Decidable False)
  | _ :: w =>
    have := List.decidableBAll (fun d => isWordPart d = true) w
    inferInstanceAs (Decidable (_ ∧ _))

/-- **The lexemes of each symbol.** -/
inductive IsLexeme : Symbol → List Char → Prop
  | mark {spelling : String} {s : Symbol} :
      (spelling, s) ∈ Symbol.punctuation → IsLexeme s spelling.toList
  | string {body : List Char} :
      (∀ c ∈ body, c ≠ '\x22' ∧ c ≠ '\n') →
        IsLexeme .stringConstant ('\x22' :: (body ++ ['\x22']))
  | whole {digits : List Char} :
      digits ≠ [] → (∀ c ∈ digits, c.isDigit = true) → IsLexeme .numberConstant digits
  | decimal {digits decimals : List Char} :
      digits ≠ [] → (∀ c ∈ digits, c.isDigit = true) →
        decimals ≠ [] → (∀ c ∈ decimals, c.isDigit = true) →
          IsLexeme .numberConstant (digits ++ '.' :: decimals)
  | keyword {spelling : String} {s : Symbol} :
      (spelling, s) ∈ Symbol.keywords → IsLexeme s spelling.toList
  | identifier {w : List Char} :
      IsWord w → (∀ p ∈ Symbol.keywords, p.1.toList ≠ w) → IsLexeme .identifier w

/-! ## What is read is a lexeme -/

theorem mark?_isLexeme {rest : List Char} {l : Lexeme} (h : mark? rest = some l) :
    IsLexeme l.symbol l.text := by
  obtain ⟨p, hp, rfl⟩ := Option.map_eq_some_iff.1 h
  exact .mark (List.mem_of_find?_eq_some hp)

theorem inString_iff {c : Char} : inString c = true ↔ c ≠ '\x22' ∧ c ≠ '\n' := by
  rw [inString, Bool.and_eq_true, bne_iff_ne, bne_iff_ne]

theorem stringConstant?_isLexeme {rest : List Char} {l : Lexeme}
    (h : stringConstant? rest = some l) : IsLexeme l.symbol l.text := by
  unfold stringConstant? at h
  split at h
  · split at h
    · cases h
      exact .string fun c hc => inString_iff.1 (List.mem_takeWhile_imp hc)
    · cases h
  · cases h

theorem numberConstant?_isLexeme {rest : List Char} {l : Lexeme}
    (h : numberConstant? rest = some l) : IsLexeme l.symbol l.text := by
  unfold numberConstant? at h
  split at h
  · cases h
  · next hne =>
    cases h
    have hdigits : ∀ c ∈ rest.takeWhile Char.isDigit, c.isDigit = true :=
      fun c hc => List.mem_takeWhile_imp hc
    unfold fraction
    split
    · split
      · rw [List.append_nil]
        exact .whole hne hdigits
      · next hne' => exact .decimal hne hdigits hne' fun c hc => List.mem_takeWhile_imp hc
    · rw [List.append_nil]
      exact .whole hne hdigits

theorem IsWord.isLexeme {w : List Char} (h : IsWord w) : IsLexeme (wordSymbol w) w := by
  unfold wordSymbol
  cases hw : Symbol.ofKeyword? (String.ofList w) with
  | none =>
    refine .identifier h fun p hp heq => ?_
    have := List.lookup_eq_none_iff.1 hw p hp
    simp [← heq] at this
  | some s =>
    obtain ⟨ps, qs, heq, -⟩ := List.lookup_eq_some_iff.1 hw
    have hkeyword := @IsLexeme.keyword (String.ofList w) s
      (heq ▸ List.mem_append_right ps List.mem_cons_self)
    rwa [String.toList_ofList] at hkeyword

theorem word?_isLexeme {rest : List Char} {l : Lexeme} (h : word? rest = some l) :
    IsLexeme l.symbol l.text := by
  unfold word? at h
  split at h
  · cases h
  · split at h
    · next hc =>
      cases h
      exact IsWord.isLexeme ⟨hc, fun d hd => List.mem_takeWhile_imp hd⟩
    · cases h

/-- **What is read is a lexeme.** -/
theorem lexeme?_isLexeme {rest : List Char} {l : Lexeme} (h : lexeme? rest = some l) :
    IsLexeme l.symbol l.text := by
  unfold lexeme? at h
  cases hm : mark? rest with
  | some m => rw [hm] at h; cases h; exact mark?_isLexeme hm
  | none =>
    cases hs : stringConstant? rest with
    | some m => rw [hm, hs] at h; cases h; exact stringConstant?_isLexeme hs
    | none =>
      cases hn : numberConstant? rest with
      | some m => rw [hm, hs, hn] at h; cases h; exact numberConstant?_isLexeme hn
      | none =>
        rw [hm, hs, hn] at h
        exact word?_isLexeme h

/-! ## Every lexeme is read -/

/-- A lexeme was read that is no shorter than `x`, and of class `s` if it is
`x`. -/
def Reaches (s : Symbol) (x : List Char) (read : Option Lexeme) : Prop :=
  ∃ l, read = some l ∧ x.length ≤ l.text.length ∧ (l.text = x → l.symbol = s)

theorem Reaches.or {s : Symbol} {x : List Char} {read : Option Lexeme} (h : Reaches s x read)
    (read' : Option Lexeme) : Reaches s x (read <|> read') := by
  obtain ⟨l, rfl, hl⟩ := h
  exact ⟨l, rfl, hl⟩

/-- The operators are listed by their lengths. -/
theorem pairwise_punctuation :
    Symbol.punctuation.Pairwise fun p q => q.1.toList.length ≤ p.1.toList.length := by
  decide

theorem mark?_reaches {spelling : String} {s : Symbol} {rest : List Char}
    (h : (spelling, s) ∈ Symbol.punctuation) (hrest : spelling.toList <+: rest) :
    Reaches s spelling.toList (mark? rest) := by
  have hsome : (Symbol.punctuation.find? fun p => p.1.toList.isPrefixOf rest).isSome = true :=
    List.find?_isSome.2 ⟨_, h, List.isPrefixOf_iff_prefix.2 hrest⟩
  obtain ⟨p, hp⟩ := Option.isSome_iff_exists.1 hsome
  refine ⟨⟨p.2, p.1.toList⟩, by rw [mark?, hp]; rfl, ?_, ?_⟩
  · -- an entry before the one that is found does not fit
    obtain ⟨-, ps, qs, heq, hps⟩ := List.find?_eq_some_iff_append.1 hp
    have hsorted := pairwise_punctuation
    rw [heq, List.pairwise_append, List.pairwise_cons] at hsorted
    rw [heq, List.mem_append, List.mem_cons] at h
    rcases h with h | rfl | h
    · have hno := hps _ h
      rw [List.isPrefixOf_iff_prefix.2 hrest] at hno
      cases hno
    · exact Nat.le_refl _
    · exact hsorted.2.1.1 _ h
  · have hunique : ∀ p ∈ Symbol.punctuation, ∀ q ∈ Symbol.punctuation,
        p.1.toList = q.1.toList → p.2 = q.2 := by decide
    exact hunique p (List.mem_of_find?_eq_some hp) _ h

theorem stringConstant?_reaches {body rest : List Char}
    (hbody : ∀ c ∈ body, c ≠ '\x22' ∧ c ≠ '\n')
    (hrest : '\x22' :: (body ++ ['\x22']) <+: rest) :
    Reaches .stringConstant ('\x22' :: (body ++ ['\x22'])) (stringConstant? rest) := by
  have hin : ∀ c ∈ body, inString c = true := fun c hc => inString_iff.2 (hbody c hc)
  obtain ⟨t, rfl⟩ := hrest
  obtain ⟨htake, hdrop⟩ := takeWhile_dropWhile_append_cons hin (c := '\x22') rfl t
  refine ⟨⟨.stringConstant, '\x22' :: (body ++ ['\x22'])⟩, ?_, Nat.le_refl _, fun _ => rfl⟩
  rw [List.cons_append, List.append_assoc, List.singleton_append, stringConstant?, hdrop, htake]
  rfl

theorem numberConstant?_eq {rest : List Char} (h : rest.takeWhile Char.isDigit ≠ []) :
    numberConstant? rest = some ⟨.numberConstant,
      rest.takeWhile Char.isDigit ++ fraction (rest.dropWhile Char.isDigit)⟩ := by
  unfold numberConstant?
  split
  · next hnil => exact absurd hnil h
  · rfl

theorem takeWhile_ne_nil {p : Char → Bool} {x rest : List Char} (hne : x ≠ [])
    (hx : ∀ c ∈ x, p c = true) (h : x <+: rest) : rest.takeWhile p ≠ [] :=
  List.length_pos_iff.1
    (Nat.lt_of_lt_of_le (List.length_pos_iff.2 hne) (length_le_takeWhile hx h))

theorem numberConstant?_reaches_whole {digits rest : List Char} (hne : digits ≠ [])
    (hdigits : ∀ c ∈ digits, c.isDigit = true) (hrest : digits <+: rest) :
    Reaches .numberConstant digits (numberConstant? rest) := by
  refine ⟨_, numberConstant?_eq (takeWhile_ne_nil hne hdigits hrest), ?_, fun _ => rfl⟩
  -- the digits may be followed by a fraction, which makes what is read longer
  have hle := length_le_takeWhile hdigits hrest
  rw [List.length_append]
  omega

theorem numberConstant?_reaches_decimal {digits decimals rest : List Char} (hne : digits ≠ [])
    (hdigits : ∀ c ∈ digits, c.isDigit = true) (hne' : decimals ≠ [])
    (hdecimals : ∀ c ∈ decimals, c.isDigit = true) (hrest : digits ++ '.' :: decimals <+: rest) :
    Reaches .numberConstant (digits ++ '.' :: decimals) (numberConstant? rest) := by
  refine ⟨_, numberConstant?_eq (takeWhile_ne_nil hne hdigits
    ((List.prefix_append ..).trans hrest)), ?_, fun _ => rfl⟩
  obtain ⟨t, rfl⟩ := hrest
  obtain ⟨htake, hdrop⟩ :=
    takeWhile_dropWhile_append_cons hdigits (c := '.') rfl (decimals ++ t)
  have hfraction : decimals.length + 1 ≤ (fraction ('.' :: (decimals ++ t))).length := by
    have hle := length_le_takeWhile hdecimals (List.prefix_append decimals t)
    rw [fraction]
    split
    · next hnil => exact absurd hnil (takeWhile_ne_nil hne' hdecimals (List.prefix_append ..))
    · exact Nat.succ_le_succ hle
  dsimp only
  rw [List.append_assoc, List.cons_append, htake, hdrop, List.length_append, List.length_append,
    List.length_cons]
  omega

theorem word?_reaches {s : Symbol} {w rest : List Char} (hw : IsWord w)
    (hs : wordSymbol w = s) (hrest : w <+: rest) : Reaches s w (word? rest) := by
  match w, hw with
  | c :: w, ⟨hc, hpart⟩ =>
    obtain ⟨t, rfl⟩ := hrest
    refine ⟨_, by rw [List.cons_append, word?, if_pos hc], ?_, ?_⟩
    · exact Nat.succ_le_succ (length_le_takeWhile hpart (List.prefix_append w t))
    · intro heq
      dsimp only at heq ⊢
      rw [heq, hs]

/-! ## One character decides between the kinds -/

/-- The characters that operators and separators begin with. -/
def markStarts : List Char := [':', '>', '/', '<', ';', ',', '(', ')', '+', '-', '*', '=']

theorem mark?_eq_none {c : Char} (hc : c ∉ markStarts) (rest : List Char) :
    mark? (c :: rest) = none := by
  have hstarts : ∀ p ∈ Symbol.punctuation, p.1.toList.head?.any (· ∈ markStarts) = true := by
    decide
  rw [mark?, Option.map_eq_none_iff, List.find?_eq_none]
  intro p hp hhead
  have hstart := hstarts p hp
  obtain ⟨t, ht⟩ := List.isPrefixOf_iff_prefix.1 hhead
  cases htext : p.1.toList with
  | nil =>
    rw [htext] at hstart
    cases hstart
  | cons d u =>
    rw [htext] at hstart ht
    obtain rfl : d = c := (List.cons.inj ht).1
    exact hc (of_decide_eq_true hstart)

theorem stringConstant?_eq_none {c : Char} (hc : c ≠ '\x22') (rest : List Char) :
    stringConstant? (c :: rest) = none := by
  unfold stringConstant?
  split
  · next heq => exact absurd (List.cons.inj heq).1 hc
  · rfl

theorem numberConstant?_eq_none {c : Char} (hc : c.isDigit = false) (rest : List Char) :
    numberConstant? (c :: rest) = none := by
  unfold numberConstant?
  rw [List.takeWhile_cons_of_neg (by rw [hc]; exact Bool.false_ne_true)]

theorem isWordStart_of_isDigit {c : Char} (hc : c.isDigit = true) : isWordStart c = false := by
  have hd : 48 ≤ c.toNat ∧ c.toNat ≤ 57 := by
    simpa [Char.isDigit, UInt32.le_iff_toNat_le] using hc
  have halpha : c.isAlpha = false := by
    delta Char.isAlpha Char.isUpper Char.isLower
    simp only [ge_iff_le, UInt32.le_iff_toNat_le, Bool.or_eq_false_iff, Bool.and_eq_false_iff,
      decide_eq_false_iff_not]
    show ¬ (65 ≤ c.toNat ∧ c.toNat ≤ 90) ∧ (¬ 97 ≤ c.toNat ∨ ¬ c.toNat ≤ 122)
    omega
  have hlow : c ≠ '_' := by
    rintro rfl
    cases hc
  rw [isWordStart, if_pos (by omega), halpha]
  simpa using hlow

theorem not_mem_of_all {p : Char → Bool} {c : Char} {cs : List Char} (hc : p c = true)
    (hcs : (cs.all fun d => !p d) = true) : c ∉ cs := by
  intro hmem
  have hno := List.all_eq_true.1 hcs c hmem
  rw [hc] at hno
  cases hno

theorem lexeme?_of_not_mem {c : Char} (hc : c ∉ '\x22' :: markStarts) (rest : List Char) :
    lexeme? (c :: rest) = (numberConstant? (c :: rest) <|> word? (c :: rest)) := by
  rw [List.mem_cons, not_or] at hc
  rw [lexeme?, mark?_eq_none hc.2, stringConstant?_eq_none hc.1]
  rfl

theorem lexeme?_of_isDigit {c : Char} (hc : c.isDigit = true) (rest : List Char) :
    lexeme? (c :: rest) = (numberConstant? (c :: rest) <|> word? (c :: rest)) :=
  lexeme?_of_not_mem (not_mem_of_all (p := Char.isDigit) hc (by decide)) rest

theorem lexeme?_of_isWordStart {c : Char} (hc : isWordStart c = true) (rest : List Char) :
    lexeme? (c :: rest) = word? (c :: rest) := by
  have hdigit : c.isDigit = false := Bool.eq_false_iff.2 fun hdigit => by
    rw [isWordStart_of_isDigit hdigit] at hc
    cases hc
  rw [lexeme?_of_not_mem (not_mem_of_all (p := isWordStart) hc (by decide)),
    numberConstant?_eq_none hdigit]
  rfl

theorem lexeme?_reaches_of_digits {x digits rest : List Char} (hne : digits ≠ [])
    (hdigits : ∀ c ∈ digits, c.isDigit = true) (hrest : digits <+: rest)
    (h : Reaches .numberConstant x (numberConstant? rest)) :
    Reaches .numberConstant x (lexeme? rest) := by
  obtain ⟨t, rfl⟩ := hrest
  cases digits with
  | nil => exact absurd rfl hne
  | cons c digits =>
    rw [List.cons_append, lexeme?_of_isDigit (hdigits c List.mem_cons_self)]
    exact h.or _

theorem lexeme?_reaches_of_isWord {s : Symbol} {w rest : List Char} (hw : IsWord w)
    (hs : wordSymbol w = s) (hrest : w <+: rest) : Reaches s w (lexeme? rest) := by
  have hreaches := word?_reaches hw hs hrest
  obtain ⟨t, rfl⟩ := hrest
  match w, hw with
  | c :: w, ⟨hc, _⟩ =>
    rw [List.cons_append, lexeme?_of_isWordStart hc]
    exact hreaches

/-- **Every lexeme is read**, or a longer one. -/
theorem lexeme?_reaches {s : Symbol} {x rest : List Char} (h : IsLexeme s x) (hrest : x <+: rest) :
    Reaches s x (lexeme? rest) := by
  cases h with
  | mark hmark => exact (mark?_reaches hmark hrest).or _
  | string hbody =>
    have hreaches := stringConstant?_reaches hbody hrest
    obtain ⟨t, rfl⟩ := hrest
    rw [List.cons_append] at hreaches ⊢
    rw [lexeme?, mark?_eq_none (by decide)]
    exact hreaches.or _
  | whole hne hdigits =>
    exact lexeme?_reaches_of_digits hne hdigits hrest
      (numberConstant?_reaches_whole hne hdigits hrest)
  | decimal hne hdigits hne' hdecimals =>
    exact lexeme?_reaches_of_digits hne hdigits ((List.prefix_append ..).trans hrest)
      (numberConstant?_reaches_decimal hne hdigits hne' hdecimals hrest)
  | keyword hkeyword =>
    have hwords : ∀ p ∈ Symbol.keywords, IsWord p.1.toList ∧ wordSymbol p.1.toList = p.2 := by
      decide
    obtain ⟨hw, hs⟩ := hwords _ hkeyword
    exact lexeme?_reaches_of_isWord hw hs hrest
  | identifier hw hkeyword =>
    refine lexeme?_reaches_of_isWord hw ?_ hrest
    have hlookup : Symbol.ofKeyword? (String.ofList x) = none := by
      refine List.lookup_eq_none_iff.2 fun p hp => ?_
      rw [bne_iff_ne]
      intro heq
      exact hkeyword p hp (by rw [← heq, String.toList_ofList])
    rw [wordSymbol, hlookup]
    rfl

/-! ## The longest lexeme -/

/-- A lexeme of some symbol. -/
def IsSomeLexeme (x : List Char) : Prop := ∃ s, IsLexeme s x

/-- **The longest lexeme is read**, and with its symbol. -/
theorem lexeme?_eq_some_iff {rest : List Char} {l : Lexeme} :
    lexeme? rest = some l ↔ IsLexeme l.symbol l.text ∧ Longest IsSomeLexeme l.text rest := by
  constructor
  · intro h
    have hlexeme := lexeme?_isLexeme h
    refine ⟨hlexeme, (lexeme?_heads h).2, ⟨_, hlexeme⟩, ?_⟩
    rintro y ⟨s, hy⟩ hrest
    obtain ⟨l', hl', hle, -⟩ := lexeme?_reaches hy hrest
    obtain rfl : l = l' := Option.some.inj (h.symm.trans hl')
    exact hle
  · rintro ⟨hlexeme, hlongest⟩
    obtain ⟨l', hl', hle, hsymbol⟩ := lexeme?_reaches hlexeme hlongest.head
    have hle' := hlongest.longest l'.text ⟨_, lexeme?_isLexeme hl'⟩ (lexeme?_heads hl').2
    have htext : l'.text = l.text :=
      (List.prefix_of_prefix_length_le (lexeme?_heads hl').2 hlongest.head hle').eq_of_length
        (Nat.le_antisymm hle' hle)
    obtain ⟨s, x⟩ := l
    obtain ⟨s', x'⟩ := l'
    obtain rfl : x' = x := htext
    obtain rfl : s' = s := hsymbol rfl
    exact hl'

/-- **A lexeme is of one symbol only.** -/
theorem IsLexeme.symbol_unique {s s' : Symbol} {x : List Char} (h : IsLexeme s x)
    (h' : IsLexeme s' x) : s = s' := by
  have hlongest : Longest IsSomeLexeme x x :=
    ⟨List.prefix_rfl, ⟨s, h⟩, fun y _ hy => hy.length_le⟩
  have hread := (@lexeme?_eq_some_iff x ⟨s, x⟩).2 ⟨h, hlongest⟩
  have hread' := (@lexeme?_eq_some_iff x ⟨s', x⟩).2 ⟨h', hlongest⟩
  rw [hread] at hread'
  exact congrArg Lexeme.symbol (Option.some.inj hread')

/-- Where nothing is read, no lexeme begins. -/
theorem lexeme?_eq_none_iff {rest : List Char} :
    lexeme? rest = none ↔ ∀ x, IsSomeLexeme x → ¬ x <+: rest := by
  constructor
  · rintro h x ⟨s, hx⟩ hrest
    obtain ⟨l, hl, -⟩ := lexeme?_reaches hx hrest
    rw [h] at hl
    cases hl
  · intro h
    cases hl : lexeme? rest with
    | none => rfl
    | some l => exact absurd (lexeme?_heads hl).2 (h _ ⟨_, lexeme?_isLexeme hl⟩)

end SyntaxChecker
