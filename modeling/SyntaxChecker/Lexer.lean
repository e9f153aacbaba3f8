import SyntaxChecker.Cursor
import SyntaxChecker.Fault
import SyntaxChecker.Lexeme

/-!
# The lexer

A lexer reads a text token by token. It is a cursor, and at most one token that
was read ahead: `Lexer.peek` reads without delivering, and `Lexer.next`
delivers what was read ahead before it reads on.

To read a token, the cursor first moves over the gap before it. If nothing
remains, the token is the end of the input, and stays so however often it is
asked for. If a lexeme begins there, the cursor moves behind it. Otherwise the
reading fails with a `LexicalError`, and the cursor stays on the offending
character; asking again fails again, in the same way.

Reading makes progress: `Lexer.pending` bounds the number of tokens before the
end of the input, and every other token that is delivered lowers it
(`Lexer.pending_next_lt`). So `Lexer.drain`, which delivers all that remains,
terminates.
-/

namespace SyntaxChecker

/-! ## Reading at a cursor -/

namespace Cursor

/-- Move over the gap at the cursor. -/
def skipGap (c : Cursor) : Cursor := c.advance (gapLength false c.rest)

/-- The error of a cursor that stands on a character that begins no lexeme. A
quotation mark begins none if it is not closed on its line, and then the rest
of the line is at fault. -/
def refuse (c : Cursor) (first : Char) : LexicalError :=
  if first = '\x22' then
    ⟨"Unterminated string constant", c.line, c.col,
      String.ofList (c.rest.takeWhile (· != '\n'))⟩
  else
    ⟨"Unexpected character " ++ Text.quoted (String.singleton first), c.line, c.col,
      String.singleton first⟩

/-- The token of a lexeme that was read at the cursor. -/
def tokenOf (c : Cursor) (l : Lexeme) : Token := ⟨l.symbol, String.ofList l.text, c.line, c.col⟩

/-- Read the token at a cursor that stands behind the gap. -/
def readToken (c : Cursor) : Except LexicalError Token × Cursor :=
  match c.rest with
  | [] => (.ok (Token.endOfInput c.line c.col), c)
  | first :: rest =>
    match lexeme? (first :: rest) with
    | some l => (.ok (c.tokenOf l), c.advance l.text.length)
    | none => (.error (c.refuse first), c)

/-- Read the next token. -/
def scan (c : Cursor) : Except LexicalError Token × Cursor := c.skipGap.readToken

theorem length_skipGap_le (c : Cursor) : c.skipGap.rest.length ≤ c.rest.length := by
  rw [skipGap, rest_advance, List.length_drop]
  exact Nat.sub_le ..

/-- **A token takes at least one character**, unless it is the end of the
input. -/
theorem length_readToken_lt {c c' : Cursor} {t : Token} (h : c.readToken = (.ok t, c'))
    (ht : t.isEof = false) : c'.rest.length < c.rest.length := by
  unfold readToken at h
  split at h
  · cases h
    simp [Token.isEof, Token.endOfInput] at ht
  · next first rest heq =>
    split at h
    · next l hl =>
      cases h
      have hpos : 0 < l.text.length := List.length_pos_iff.2 (lexeme?_heads hl).1
      rw [rest_advance, List.length_drop, heq]
      simp only [List.length_cons]
      omega
    · cases h

theorem length_scan_lt {c c' : Cursor} {t : Token} (h : c.scan = (.ok t, c'))
    (ht : t.isEof = false) : c'.rest.length < c.rest.length :=
  Nat.lt_of_lt_of_le (length_readToken_lt h ht) c.length_skipGap_le

end Cursor

/-! ## The lexer -/

/-- A reader of tokens: a place in the text, and the token that was read ahead
if there is one. -/
structure Lexer where
  cursor : Cursor
  peeked : Option Token
  deriving DecidableEq, Repr

namespace Lexer

/-- A lexer before the first character of a text, at the given place. -/
def startingAt (text : String) (line col : Int) : Lexer :=
  ⟨Cursor.start text.toList line col, none⟩

/-- A lexer over a text of its own. -/
def ofText (text : String) : Lexer := startingAt text 1 1

/-- Deliver the next token. -/
def next (l : Lexer) : Except LexicalError Token × Lexer :=
  match l.peeked with
  | some t => (.ok t, ⟨l.cursor, none⟩)
  | none =>
    match l.cursor.scan with
    | (outcome, c) => (outcome, ⟨c, none⟩)

/-- Tell the next token without delivering it. -/
def peek (l : Lexer) : Except LexicalError Token × Lexer :=
  match l.peeked with
  | some t => (.ok t, l)
  | none =>
    match l.cursor.scan with
    | (.ok t, c) => (.ok t, ⟨c, some t⟩)
    | (.error e, c) => (.error e, ⟨c, none⟩)

/-- A bound on the number of tokens before the end of the input. -/
def pending (l : Lexer) : Nat := l.cursor.rest.length + if l.peeked.isSome then 1 else 0

/-- **A token that is delivered is no longer pending**, unless it is the end of
the input. -/
theorem pending_next_lt {l l' : Lexer} {t : Token} (h : l.next = (.ok t, l'))
    (ht : t.isEof = false) : l'.pending < l.pending := by
  unfold next at h
  split at h
  · next u hp =>
    cases h
    simp [pending, hp]
  · next hp =>
    cases hs : l.cursor.scan with
    | mk outcome c =>
      rw [hs] at h
      cases h
      simpa [pending, hp] using Cursor.length_scan_lt hs ht

/-- Deliver all tokens that remain, with the end of the input for the last
one. -/
def drain (l : Lexer) : Except LexicalError (List Token) × Lexer :=
  match h : l.next with
  | (.error e, l') => (.error e, l')
  | (.ok t, l') =>
    if ht : t.isEof then (.ok [t], l')
    else
      have : l'.pending < l.pending := pending_next_lt h (by simpa using ht)
      match drain l' with
      | (.ok ts, l'') => (.ok (t :: ts), l'')
      | (.error e, l'') => (.error e, l'')
termination_by l.pending

end Lexer

/-- All tokens of a text, with the end of the input for the last one. -/
def tokensOf (text : String) : Except LexicalError (List Token) := (Lexer.ofText text).drain.1

/-! ## Walking over the tokens -/

/-- A walk over the tokens of a lexer, one at a time. Several walks may share a
lexer; each takes what the lexer delivers next. A walk ends when it has
delivered the end of the input, or when an error has passed through it, and an
ended walk stays so. -/
structure TokenWalk where
  ended : Bool
  deriving DecidableEq, Repr

namespace TokenWalk

/-- A walk that has not begun. -/
def start : TokenWalk := ⟨false⟩

/-- The next token of a walk, or nothing if it has ended. -/
def advance (w : TokenWalk) (l : Lexer) :
    Except LexicalError (Option Token) × TokenWalk × Lexer :=
  if w.ended then (.ok none, w, l)
  else
    match l.next with
    | (.error e, l') => (.error e, ⟨true⟩, l')
    | (.ok t, l') => (.ok (some t), ⟨t.isEof⟩, l')

end TokenWalk

end SyntaxChecker
