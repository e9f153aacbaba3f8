import SyntaxChecker.Cursor

/-!
# Lines and columns

A cursor counts lines and columns one character at a time. Where it stands is
nonetheless told by the text behind it alone: the line by the number of line
feeds there, and the column by the number of characters behind the last of them
(`Place.after`). A cursor that has moved over some text stands where that text
ends (`Cursor.Stands.advance`).
-/

namespace SyntaxChecker

/-- A line and a column. -/
structure Place where
  line : Int
  col : Int
  deriving DecidableEq, Repr

namespace Place

/-- The place of the first character of a file. -/
def first : Place := ⟨1, 1⟩

/-- The place behind a text that begins at the place `p`. -/
def after (p : Place) (text : List Char) : Place :=
  ⟨p.line + text.count '\n',
    if '\n' ∈ text then 1 + (text.reverse.takeWhile (· != '\n')).length
    else p.col + text.length⟩

theorem after_nil (p : Place) : p.after [] = p := by
  cases p
  simp [after]

theorem after_newline (p : Place) (text : List Char) :
    p.after (text ++ ['\n']) = ⟨(p.after text).line + 1, 1⟩ := by
  simp [after, Int.add_assoc]

theorem after_concat (p : Place) (text : List Char) {c : Char} (hc : c ≠ '\n') :
    p.after (text ++ [c]) = ⟨(p.after text).line, (p.after text).col + 1⟩ := by
  by_cases htext : '\n' ∈ text
  · simp [after, hc, hc.symm, htext, Int.add_assoc]
  · simp [after, hc, hc.symm, htext, Int.add_assoc]

end Place

namespace Cursor

/-- A cursor that stands in a text that begins at the place `p`, with `before`
behind it and `rest` ahead. -/
structure Stands (p : Place) (before rest : List Char) (c : Cursor) : Prop where
  rest_eq : c.rest = rest
  index_eq : c.index = before.length
  line_eq : c.line = (p.after before).line
  col_eq : c.col = (p.after before).col

theorem stands_start (text : List Char) (line col : Int) :
    Stands ⟨line, col⟩ [] text (start text line col) := by
  constructor
  all_goals first | rfl | rw [Place.after_nil]; rfl

variable {p : Place} {before rest : List Char} {c : Cursor}

theorem Stands.step {x : Char} (h : Stands p before (x :: rest) c) :
    Stands p (before ++ [x]) rest c.step := by
  by_cases hx : x = '\n'
  · subst hx
    have hstep : c.step = ⟨rest, c.index + 1, c.line + 1, 1⟩ := by
      unfold Cursor.step
      rw [h.rest_eq]
      rfl
    constructor
    all_goals rw [hstep]
    · rw [List.length_append, h.index_eq]
      rfl
    · rw [Place.after_newline, h.line_eq]
    · rw [Place.after_newline]
  · have hstep : c.step = ⟨rest, c.index + 1, c.line, c.col + 1⟩ := by
      unfold Cursor.step
      rw [h.rest_eq]
      split
      · next heq => cases heq
      · next heq => exact absurd (List.cons.inj heq).1 hx
      · next heq => rw [(List.cons.inj heq).2]
    constructor
    all_goals rw [hstep]
    · rw [List.length_append, h.index_eq]
      rfl
    · rw [Place.after_concat _ _ hx, h.line_eq]
    · rw [Place.after_concat _ _ hx, h.col_eq]

/-- **A cursor stands where the text behind it ends.** -/
theorem Stands.advance {x : List Char} (h : Stands p before (x ++ rest) c) :
    Stands p (before ++ x) rest (c.advance x.length) := by
  induction x generalizing before c with
  | nil =>
    rw [List.append_nil]
    exact h
  | cons y x ih =>
    rw [List.append_cons]
    exact ih h.step

end Cursor

end SyntaxChecker
