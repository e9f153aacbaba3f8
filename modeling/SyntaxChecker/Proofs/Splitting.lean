import SyntaxChecker.Proofs.Lexer.Lines

/-!
# Snippets and the parts of a text

There is a plainer way to show a line than to search for it: split the text at its line feeds,
and take the part with the number of the line. The traps are then in the open. A text that ends
with a line feed has an empty last part, the empty text has one part and not none, and a number
that is out of range has to be moved into it. `render_of_split` says that a snippet shows this
part, for every text and for all numbers.

One round of the search passes over one line feed, and so over one part (`EndsOn.behind`). Where
no line feed is left there is one part only, and the search cannot leave it (`EndsOn.only`). By
induction on the rounds, the search ends on the part with their number, or on the last one if
there are not so many (`exists_endsOn`). In the second case it may end behind the place where the
part begins. The part is shown whole nonetheless, since a place is widened to all of the line
that it lies on (`IsLine.widest`).
-/

namespace SyntaxChecker

open Snippet

variable {before line after text rest : List Char} {start offset n : ℕ}

/-! ## Ranges without a line feed -/

/-- **A range around an offset** in which a text has no line feed. The offset may be the end of
the range, which is not part of it. -/
structure Snippet.Unbroken (text : List Char) (offset : ℕ) (range : ℕ × ℕ) : Prop where
  start_le : range.1 ≤ offset
  le_stop : offset ≤ range.2
  stop_le : range.2 ≤ text.length
  no_feed : ∀ i, range.1 ≤ i → i < range.2 → text[i]? ≠ some '\n'

/-- **The widest range around an offset** in which a text has no line feed. -/
structure Snippet.Widest (text : List Char) (offset : ℕ) (range : ℕ × ℕ) : Prop
    extends Unbroken text offset range where
  widest : ∀ other, Unbroken text offset other → range.1 ≤ other.1 ∧ other.2 ≤ range.2

theorem Delimited.feed_before (h : Delimited before line after) (hne : before ≠ []) :
    (before ++ (line ++ after))[before.length - 1]? = some '\n' := by
  have hlast := List.getLast?_eq_some_getLast hne
  rw [List.getElem?_append_left (Nat.sub_one_lt (List.length_pos_iff.2 hne).ne'),
    ← List.getLast?_eq_getElem?, hlast, h.begins _ hlast]

theorem Delimited.feed_behind (h : Delimited before line after) (hne : after ≠ []) :
    (before ++ (line ++ after))[before.length + line.length]? = some '\n' := by
  have hhead := List.head?_eq_some_head hne
  rw [← List.append_assoc, ← List.length_append, List.getElem?_append_right (Nat.le_refl _),
    Nat.sub_self, ← List.head?_eq_getElem?, hhead, h.ends _ hhead]

/-- **A line is the widest range** around each of its places. -/
theorem IsLine.widest (h : IsLine text start line) (ho : OnLine start line offset) :
    Widest text offset (start, start + line.length) := by
  obtain ⟨before, after, hline, rfl, rfl⟩ := h
  obtain ⟨hstart, hstop⟩ := ho
  have hlength : (before ++ (line ++ after)).length
      = before.length + line.length + after.length := by
    rw [List.length_append, List.length_append, Nat.add_assoc]
  refine ⟨⟨hstart, hstop, by omega, fun i hi hi' hfeed => ?_⟩, fun other hother => ?_⟩
  · rw [List.getElem?_append_right hi,
      List.getElem?_append_left (Nat.sub_lt_left_of_lt_add hi hi')] at hfeed
    exact hline.unbroken (List.mem_of_getElem? hfeed)
  · obtain ⟨hleft, hright, hend, hnone⟩ := hother
    constructor
    · -- a range that begins before the line has the line feed there
      by_contra hlt
      have hne : before ≠ [] := List.ne_nil_of_length_pos (by omega)
      exact hnone _ (by omega) (by omega) (hline.feed_before hne)
    · -- and one that ends behind it has the line feed that comes next
      by_contra hlt
      have hne : after ≠ [] := List.ne_nil_of_length_pos (by omega)
      exact hnone _ (by omega) (by omega) (hline.feed_behind hne)

/-- A place is widened to the line that it lies on. -/
theorem IsLine.lineAround_of_onLine (h : IsLine text start line)
    (ho : OnLine start line offset) : lineAround text offset = (start, start + line.length) := by
  obtain ⟨before, after, hline, rfl, rfl⟩ := h
  obtain ⟨k, rfl⟩ := Nat.exists_eq_add_of_le ho.1
  exact lineAround_eq hline (Nat.le_of_add_le_add_left ho.2)

theorem IsLine.drop_take (h : IsLine text start line) :
    (text.take (start + line.length)).drop start = line := by
  obtain ⟨before, after, -, rfl, rfl⟩ := h
  rw [List.take_length_add_append, List.take_left, List.drop_left]

/-! ## Parts of a text -/

/-- The part of a text between line feeds with the given number, counted from zero. A number that
is too large means the last part. -/
def Snippet.part? (n : ℕ) (text : List Char) : Option (List Char) :=
  let parts := text.splitOn '\n'
  parts[min n (parts.length - 1)]?

theorem part?_of_notMem (h : '\n' ∉ text) (n : ℕ) : part? n text = some text := by
  rw [part?, List.splitOn_eq_singleton h, List.length_singleton, Nat.sub_self, Nat.min_zero]
  rfl

theorem part?_zero (h : '\n' ∉ line) (rest : List Char) :
    part? 0 (line ++ '\n' :: rest) = some line := by
  rw [part?, List.splitOn_append_cons_self_of_not_mem h, Nat.zero_min]
  rfl

theorem part?_succ (h : '\n' ∉ line) (n : ℕ) (rest : List Char) :
    part? (n + 1) (line ++ '\n' :: rest) = part? n rest := by
  have hpos := List.length_pos_iff.2 (List.splitOn_ne_nil '\n' rest)
  have hindex : min (n + 1) ((rest.splitOn '\n').length + 1 - 1)
      = min n ((rest.splitOn '\n').length - 1) + 1 := by omega
  rw [part?, part?, List.splitOn_append_cons_self_of_not_mem h, List.length_cons, hindex,
    List.getElem?_cons_succ]

/-- **The lines behind a line feed** are lines of the whole text. -/
theorem IsLine.behind (h : IsLine rest start line) (above : List Char) :
    IsLine (above ++ '\n' :: rest) (above.length + 1 + start) line := by
  obtain ⟨before, after, hline, rfl, rfl⟩ := h
  refine ⟨above ++ '\n' :: before, after, ⟨fun c hc => ?_, hline.unbroken, hline.ends⟩, ?_, ?_⟩
  · rw [List.getLast?_append_cons] at hc
    cases before with
    | nil => exact (Option.some.inj hc).symm
    | cons d before =>
      rw [List.getLast?_cons_cons] at hc
      exact hline.begins c hc
  · rw [List.append_assoc, List.cons_append]
  · rw [List.length_append, List.length_cons]
    omega

/-! ## The search, round by round -/

/-- **One round of the search** passes over one line feed. -/
theorem lineStart_succ_append (h : '\n' ∉ line) (n : ℕ) (rest : List Char) :
    lineStart (n + 1) (line ++ '\n' :: rest) = line.length + 1 + lineStart n rest := by
  induction line with
  | nil =>
    rw [List.nil_append, lineStart, List.length_nil]
    omega
  | cons c line ih =>
    rw [List.mem_cons, not_or] at h
    rw [List.cons_append, lineStart_cons (Ne.symm h.1), ih h.2, List.length_cons]
    omega

/-- **A search of so many rounds ends on a line**, and that is the part with their number. -/
structure EndsOn (n : ℕ) (text : List Char) (start : ℕ) (line : List Char) : Prop where
  part?_eq : part? n text = some line
  isLine : IsLine text start line
  onLine : OnLine start line (lineStart n text)

namespace EndsOn

/-- Without a line feed there is no other line to end on. -/
theorem only (h : '\n' ∉ text) (n : ℕ) : EndsOn n text 0 text where
  part?_eq := part?_of_notMem h n
  isLine := ⟨[], [], ⟨nofun, h, nofun⟩, (List.append_nil text).symm, rfl⟩
  onLine := ⟨Nat.zero_le _, (lineStart_le n text).trans (Nat.le_add_left _ _)⟩

/-- Without a round, the search ends where it begins. -/
theorem first (h : '\n' ∉ line) (rest : List Char) :
    EndsOn 0 (line ++ '\n' :: rest) 0 line where
  part?_eq := part?_zero h rest
  isLine := by
    refine ⟨[], '\n' :: rest, ⟨nofun, h, fun c hc => ?_⟩, rfl, rfl⟩
    exact (Option.some.inj hc).symm
  onLine := by
    rw [lineStart]
    exact ⟨Nat.le_refl _, Nat.zero_le _⟩

/-- A round passes over one line and over one part. -/
theorem behind {above : List Char} (habove : '\n' ∉ above) (h : EndsOn n rest start line) :
    EndsOn (n + 1) (above ++ '\n' :: rest) (above.length + 1 + start) line where
  part?_eq := (part?_succ habove n rest).trans h.part?_eq
  isLine := h.isLine.behind above
  onLine := by
    obtain ⟨hstart, hstop⟩ := h.onLine
    rw [lineStart_succ_append habove]
    exact ⟨by omega, by omega⟩

end EndsOn

/-- **Every search ends on the part with the number of its rounds**, or on the last one. -/
theorem exists_endsOn (n : ℕ) (text : List Char) : ∃ start line, EndsOn n text start line := by
  induction n generalizing text with
  | zero =>
    by_cases htext : '\n' ∈ text
    · obtain ⟨line, rest, rfl, hline⟩ := List.eq_append_cons_of_mem htext
      exact ⟨_, _, .first hline rest⟩
    · exact ⟨_, _, .only htext 0⟩
  | succ n ih =>
    by_cases htext : '\n' ∈ text
    · obtain ⟨above, rest, rfl, habove⟩ := List.eq_append_cons_of_mem htext
      obtain ⟨start, line, h⟩ := ih rest
      exact ⟨_, _, h.behind habove⟩
    · exact ⟨_, _, .only htext (n + 1)⟩

/-- **The line with a number is the part with that number.** Numbers below one mean the first. -/
theorem part?_eq_lineText (text : List Char) (line : ℤ) :
    part? (line - 1).toNat text = some (lineText text line) := by
  obtain ⟨start, shown, h⟩ := exists_endsOn (line - 1).toNat text
  rw [h.part?_eq, lineText, h.isLine.lineAround_of_onLine h.onLine]
  exact congrArg some h.isLine.drop_take.symm

/-- **The place where a search ends is widened as far as the line feeds permit.** -/
theorem widest_lineAround (n : ℕ) (text : List Char) :
    Widest text (lineStart n text) (lineAround text (lineStart n text)) := by
  obtain ⟨start, line, h⟩ := exists_endsOn n text
  rw [h.isLine.lineAround_of_onLine h.onLine]
  exact h.isLine.widest h.onLine

/-! ## The snippet -/

theorem render_eq_append (text : String) (line col : ℤ) :
    render text line col = String.ofList (lineText text.toList line) ++ "\n"
      ++ String.ofList (List.replicate (max (col - 1) 0).toNat ' ') ++ "^" := by
  have hblanks : (max (col - 1) 0).toNat = (col - 1).toNat := by omega
  rw [hblanks, ← String.toList_inj]
  simp [render, caret]

/-- **A snippet shows the part of a text with the number of the line.** Split the text at its line
feeds. The snippet for any line and any column is the part whose number is that of the line,
counted from zero and moved into the range of the parts, then a line feed, a blank for each column
before the given one, and a caret. The search for the line ends within the text, and the line is
the widest range around the place where it ends that has no line feed. -/
theorem render_of_split (text : String) (line col : ℤ) :
    let parts := (text.split '\n').toList.map String.Slice.copy
    let index := max 0 (min (line - 1) ((parts.length : ℤ) - 1))
    let offset := lineStart (line - 1).toNat text.toList
    (∃ shown, parts[index.toNat]? = some shown
      ∧ render text line col
        = shown ++ "\n" ++ String.ofList (List.replicate (max (col - 1) 0).toNat ' ') ++ "^")
    ∧ offset ≤ text.length
    ∧ Widest text.toList offset (lineAround text.toList offset) := by
  intro parts index offset
  have hparts : parts = (text.toList.splitOn '\n').map String.ofList := String.toList_split_char
  have hlength : parts.length = (text.toList.splitOn '\n').length := by
    rw [hparts, List.length_map]
  have hindex : index.toNat = min (line - 1).toNat ((text.toList.splitOn '\n').length - 1) := by
    have hpos := List.length_pos_iff.2 (List.splitOn_ne_nil '\n' text.toList)
    rw [← hlength] at hpos ⊢
    omega
  refine ⟨⟨String.ofList (lineText text.toList line), ?_, render_eq_append text line col⟩,
    (lineStart_le _ _).trans_eq String.length_toList, widest_lineAround _ _⟩
  rw [hindex, hparts, List.getElem?_map]
  exact congrArg (Option.map String.ofList) (part?_eq_lineText text.toList line)

/-- Behind a line feed at the end there is one more line, and no line behind that. -/
example : render "x\n" 7 (-2) = "\n^" := by decide

end SyntaxChecker
