/-!
# A place in a text

A cursor stands before a character of a text, or behind the last one. It knows
what remains to be read, how many characters lie behind it, and the line and
column of the place, for a text whose first character has a line and column of
the reader's choice.

Line and column are kept in step one character at a time: a line feed opens the
next line at column one, and every other character moves one column to the
right. Nothing else ends a line.
-/

namespace SyntaxChecker

/-- A place in a text: what remains, and where that begins. -/
structure Cursor where
  /-- The characters from here on. -/
  rest : List Char
  /-- The number of characters behind the cursor. -/
  index : Nat
  line : Int
  col : Int
  deriving DecidableEq, Repr, Inhabited

namespace Cursor

/-- The cursor before the first character of a text, at the given place. -/
def start (text : List Char) (line col : Int) : Cursor := ⟨text, 0, line, col⟩

/-- Move behind the next character. At the end of the text there is none, and
the cursor stays. -/
def step (c : Cursor) : Cursor :=
  match c.rest with
  | [] => c
  | '\n' :: rest => ⟨rest, c.index + 1, c.line + 1, 1⟩
  | _ :: rest => ⟨rest, c.index + 1, c.line, c.col + 1⟩

/-- Move behind the next `n` characters. -/
def advance : Nat → Cursor → Cursor
  | 0, c => c
  | n + 1, c => advance n c.step

theorem rest_step (c : Cursor) : c.step.rest = c.rest.drop 1 := by
  unfold step
  split <;> simp_all

/-- **Advancing reads off a prefix** of what remains. -/
theorem rest_advance (n : Nat) (c : Cursor) : (c.advance n).rest = c.rest.drop n := by
  induction n generalizing c with
  | zero => rfl
  | succ n ih => rw [advance, ih, rest_step, List.drop_drop, Nat.add_comm]

theorem advance_add (m n : Nat) (c : Cursor) : c.advance (m + n) = (c.advance m).advance n := by
  induction m generalizing c with
  | zero => rw [Nat.zero_add]; rfl
  | succ m ih => rw [Nat.succ_add, advance, advance, ih]

end Cursor

end SyntaxChecker
