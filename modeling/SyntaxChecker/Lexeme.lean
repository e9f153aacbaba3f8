import SyntaxChecker.Symbol
import SyntaxChecker.Text.Word

/-!
# Lexemes and the gaps between them

A text is a sequence of lexemes with gaps around them. A gap is a run of blanks
and of comments, where a comment is everything from a double hyphen up to the
end of the line. Gaps carry no meaning, except that they end a lexeme.

A lexeme is one of four things: the spelling of an operator or separator, a
string constant, which is closed by a quotation mark on the line where it was
opened, a number constant, or a word. `lexeme?` reads the one at the head of
what remains of a text. The four kinds begin with different characters, so the
order in which they are tried does not matter, and each is read as far as it
goes.

The main statement is `lexeme?_heads`: what is read is a non-empty head of what
remains. A reader that moves behind it therefore comes to an end, and loses
nothing.
-/

namespace SyntaxChecker

open Text (isWordStart isWordPart)

/-! ## Gaps -/

/-- The characters that may stand between lexemes outside comments. -/
def isBlank (c : Char) : Bool :=
  c == ' ' || c == '\t' || c == '\x0c' || c == '\r' || c == '\n'

/-- The length of the gap at the head of a text. The flag tells whether the
head lies inside a comment; a line feed ends the comment and is a blank
itself. -/
def gapLength : Bool → List Char → Nat
  | _, [] => 0
  | true, '\n' :: rest => gapLength false rest + 1
  | true, _ :: rest => gapLength true rest + 1
  | false, c :: rest =>
    if isBlank c then gapLength false rest + 1
    else if c == '-' && rest.head? == some '-' then gapLength true rest + 1
    else 0

/-! ## The four kinds of lexemes -/

/-- A classified head of a text. -/
structure Lexeme where
  symbol : Symbol
  text : List Char
  deriving DecidableEq, Repr

/-- The operator or separator at the head of a text, the longest if several
fit. -/
def mark? (rest : List Char) : Option Lexeme :=
  (Symbol.punctuation.find? fun p => p.1.toList.isPrefixOf rest).map
    fun p => ⟨p.2, p.1.toList⟩

/-- The characters that may stand inside a string constant. -/
def inString (c : Char) : Bool := c != '\x22' && c != '\n'

/-- The string constant at the head of a text, with both its marks. -/
def stringConstant? : List Char → Option Lexeme
  | '\x22' :: rest =>
    match rest.dropWhile inString with
    | '\x22' :: _ => some ⟨.stringConstant, '\x22' :: rest.takeWhile inString ++ ['\x22']⟩
    | _ => none
  | _ => none

/-- The fraction at the head of a text: a point and at least one digit, or
nothing. -/
def fraction : List Char → List Char
  | '.' :: rest =>
    match rest.takeWhile Char.isDigit with
    | [] => []
    | digits => '.' :: digits
  | _ => []

/-- The number constant at the head of a text: digits, and perhaps a
fraction. -/
def numberConstant? (rest : List Char) : Option Lexeme :=
  match rest.takeWhile Char.isDigit with
  | [] => none
  | digits => some ⟨.numberConstant, digits ++ fraction (rest.dropWhile Char.isDigit)⟩

/-- The symbol of a word: the keyword that is spelled so, or else an
identifier. -/
def wordSymbol (w : List Char) : Symbol :=
  (Symbol.ofKeyword? (String.ofList w)).getD .identifier

/-- The word at the head of a text. -/
def word? : List Char → Option Lexeme
  | [] => none
  | c :: rest =>
    if isWordStart c then
      let w := c :: rest.takeWhile isWordPart
      some ⟨wordSymbol w, w⟩
    else none

/-- The lexeme at the head of a text. -/
def lexeme? (rest : List Char) : Option Lexeme :=
  mark? rest <|> stringConstant? rest <|> numberConstant? rest <|> word? rest

/-! ## A lexeme is a head of the text -/

/-- A classified head of a text that is not empty. -/
def Lexeme.Heads (l : Lexeme) (rest : List Char) : Prop :=
  l.text ≠ [] ∧ l.text <+: rest

theorem mark?_heads {rest : List Char} {l : Lexeme} (h : mark? rest = some l) :
    l.Heads rest := by
  obtain ⟨p, hp, rfl⟩ := Option.map_eq_some_iff.1 h
  have hhead := List.find?_some (p := fun q : String × Symbol => q.1.toList.isPrefixOf rest) hp
  refine ⟨?_, List.isPrefixOf_iff_prefix.1 hhead⟩
  have : ∀ q ∈ Symbol.punctuation, q.1.toList ≠ [] := by decide
  exact this p (List.mem_of_find?_eq_some hp)

theorem stringConstant?_heads {rest : List Char} {l : Lexeme}
    (h : stringConstant? rest = some l) : l.Heads rest := by
  unfold stringConstant? at h
  split at h
  · next r =>
    split at h
    · next tail heq =>
      cases h
      refine ⟨by simp, tail, ?_⟩
      simp only [List.cons_append, List.append_assoc, List.cons.injEq, true_and, List.nil_append]
      rw [← heq, List.takeWhile_append_dropWhile]
    · cases h
  · cases h

theorem fraction_isHead (rest : List Char) : fraction rest <+: rest := by
  unfold fraction
  split
  · next r =>
    split
    · exact List.nil_prefix
    · exact (List.prefix_cons_inj _).2 (List.takeWhile_prefix _)
  · exact List.nil_prefix

theorem numberConstant?_heads {rest : List Char} {l : Lexeme}
    (h : numberConstant? rest = some l) : l.Heads rest := by
  unfold numberConstant? at h
  split at h
  · cases h
  · next hne =>
    cases h
    refine ⟨fun he => hne (List.append_eq_nil_iff.1 he).1, ?_⟩
    have := (List.prefix_append_right_inj (rest.takeWhile Char.isDigit)).2
      (fraction_isHead (rest.dropWhile Char.isDigit))
    rwa [List.takeWhile_append_dropWhile] at this

theorem word?_heads {rest : List Char} {l : Lexeme} (h : word? rest = some l) :
    l.Heads rest := by
  unfold word? at h
  split at h
  · cases h
  · split at h
    · cases h
      exact ⟨by simp, (List.prefix_cons_inj _).2 (List.takeWhile_prefix _)⟩
    · cases h

/-- **A lexeme is a non-empty head of the text.** -/
theorem lexeme?_heads {rest : List Char} {l : Lexeme} (h : lexeme? rest = some l) :
    l.Heads rest := by
  unfold lexeme? at h
  cases hm : mark? rest with
  | some m => rw [hm] at h; cases h; exact mark?_heads hm
  | none =>
    cases hs : stringConstant? rest with
    | some m => rw [hm, hs] at h; cases h; exact stringConstant?_heads hs
    | none =>
      cases hn : numberConstant? rest with
      | some m => rw [hm, hs, hn] at h; cases h; exact numberConstant?_heads hn
      | none =>
        rw [hm, hs, hn] at h
        exact word?_heads h

end SyntaxChecker
