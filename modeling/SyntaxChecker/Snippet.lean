/-!
# Snippets

A snippet shows a place in a text to the reader: the line that holds it, and
below that line a caret under the column. Lines are delimited by line feeds
alone, and they and the columns are counted from one.

The line is found in two steps. `lineStart` passes over as many line feeds as
lie before the line, and stops at the end of the text if there are fewer;
`lineAround` widens an offset to the line that holds it. A number below one
therefore means the first line, and one that is too large the last. A column
below one is shown as the first, and one behind the end of the line where it
would be if the line were longer.
-/

namespace SyntaxChecker.Snippet

/-- Whether a character belongs to a line. -/
def inLine (c : Char) : Bool := c != '\n'

/-- The offset at which the line begins that lies behind `n` line feeds, or the
length of the text if it has fewer. -/
def lineStart : Nat → List Char → Nat
  | 0, _ => 0
  | _ + 1, [] => 0
  | n + 1, '\n' :: rest => lineStart n rest + 1
  | n + 1, _ :: rest => lineStart (n + 1) rest + 1

/-- The offsets at which the line around an offset begins and ends. -/
def lineAround (text : List Char) (offset : Nat) : Nat × Nat :=
  (offset - ((text.take offset).reverse.takeWhile inLine).length,
    offset + ((text.drop offset).takeWhile inLine).length)

/-- The line with the given number, without its line feed. -/
def lineText (text : List Char) (line : Int) : List Char :=
  let bounds := lineAround text (lineStart (line - 1).toNat text)
  (text.take bounds.2).drop bounds.1

/-- The blanks and the caret below a line. -/
def caret (col : Int) : List Char := List.replicate (col - 1).toNat ' ' ++ ['^']

/-- The line with the given number, and a caret under the given column. -/
def render (text : String) (line col : Int) : String :=
  String.ofList (lineText text.toList line ++ '\n' :: caret col)

/-- **The start of a line lies in the text.** -/
theorem lineStart_le (n : Nat) (text : List Char) : lineStart n text ≤ text.length := by
  fun_induction lineStart n text <;> simp_all

end SyntaxChecker.Snippet
