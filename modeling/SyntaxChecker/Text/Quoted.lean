import SyntaxChecker.Text.Printable

/-!
# Quoted text

A text is shown between quotes, in one line and in printable characters only,
so that its extent and its content can be read off exactly.

The quote is the apostrophe, unless the text holds an apostrophe and no
quotation mark. The quote in use and the backslash are written after a
backslash, line feed, carriage return and tabulator as `\n`, `\r` and `\t`, and
every other character that does not show as itself by its code point, in the
shortest of the forms `\x` with two, `\u` with four and `\U` with eight
hexadecimal digits.
-/

namespace SyntaxChecker.Text

/-- The last `width` hexadecimal digits of a number, most significant first. -/
def hexDigits : Nat → Nat → List Char
  | 0, _ => []
  | width + 1, n => hexDigits width (n / 16) ++ [Nat.digitChar (n % 16)]

/-- A code point by its number, in the shortest of the three forms. -/
def escapeByCode (n : Nat) : List Char :=
  if n < 0x100 then '\x5c' :: 'x' :: hexDigits 2 n
  else if n < 0x10000 then '\x5c' :: 'u' :: hexDigits 4 n
  else '\x5c' :: 'U' :: hexDigits 8 n

/-- How a character is written inside the given quotes. -/
def escape (quote c : Char) : List Char :=
  if c == quote || c == '\x5c' then ['\x5c', c]
  else if c == '\n' then ['\x5c', 'n']
  else if c == '\r' then ['\x5c', 'r']
  else if c == '\t' then ['\x5c', 't']
  else if isPrintable c then [c]
  else escapeByCode c.toNat

/-- The quote that surrounds a text: the apostrophe, unless the text holds an
apostrophe and no quotation mark. -/
def quoteFor (s : List Char) : Char :=
  if s.contains '\x27' && !s.contains '\x22' then '\x22' else '\x27'

/-- The characters of a text as they are shown between quotes. -/
def quotedChars (s : List Char) : List Char :=
  quoteFor s :: s.flatMap (escape (quoteFor s)) ++ [quoteFor s]

/-- A text as it is shown between quotes. -/
def quoted (s : String) : String := String.ofList (quotedChars s.toList)

theorem length_hexDigits (width n : Nat) : (hexDigits width n).length = width := by
  induction width generalizing n with
  | zero => rfl
  | succ w ih => simp [hexDigits, ih]

end SyntaxChecker.Text
