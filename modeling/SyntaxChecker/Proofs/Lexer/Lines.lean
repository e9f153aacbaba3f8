import Mathlib.Data.List.DropRight
import Mathlib.Data.List.TakeWhile
import SyntaxChecker.Proofs.Lexer.Place
import SyntaxChecker.Snippet

/-!
# The lines of a text

Line feeds delimit the lines of a text, so every place in it lies on exactly one
line, if the end of a line is counted among its places (`IsLine.unique`).

There are two ways to deal with the line and the column of a place. A reader
that moves through the text keeps them in step, and a snippet is found from the
numbers alone, by a search for line feeds. The main statement is that the two
agree (`pointsAt_after`): with the line and the column that the text before some
piece ends with, the snippet shows the line that the piece stands on, and the
caret is below its first character.
-/

namespace SyntaxChecker

/-! ## Lines -/

/-- **A line**, with what stands before and behind it in a text. -/
structure Delimited (before line after : List Char) : Prop where
  /-- Before a line there is a line feed, or nothing. -/
  begins : ∀ c ∈ before.getLast?, c = '\n'
  unbroken : '\n' ∉ line
  /-- Behind a line there is a line feed, or nothing. -/
  ends : ∀ c ∈ after.head?, c = '\n'

/-- The line of a text that begins at the given offset. -/
def IsLine (text : List Char) (start : ℕ) (line : List Char) : Prop :=
  ∃ before after, Delimited before line after ∧ text = before ++ (line ++ after)
    ∧ start = before.length

/-- A place in a line, at its end at the latest. -/
def OnLine (start : ℕ) (line : List Char) (offset : ℕ) : Prop :=
  start ≤ offset ∧ offset ≤ start + line.length

open Snippet (inLine lineStart lineAround lineText render)

theorem inLine_iff {c : Char} : inLine c = true ↔ c ≠ '\n' := by
  rw [inLine, bne_iff_ne]

/-- Characters of a line in front of its end. -/
theorem takeWhile_inLine {line after : List Char} (hline : '\n' ∉ line)
    (hafter : ∀ c ∈ after.head?, c = '\n') : (line ++ after).takeWhile inLine = line := by
  rw [List.takeWhile_append_of_pos fun c hc => inLine_iff.2 fun h => hline (h ▸ hc)]
  cases after with
  | nil => exact List.append_nil _
  | cons c after =>
    obtain rfl : c = '\n' := hafter c rfl
    exact List.append_nil _

/-- **A line is what its places widen to.** -/
theorem lineAround_eq {before line after : List Char} (h : Delimited before line after) {k : ℕ}
    (hk : k ≤ line.length) :
    lineAround (before ++ (line ++ after)) (before.length + k)
      = (before.length, before.length + line.length) := by
  have htake : (before ++ (line ++ after)).take (before.length + k) = before ++ line.take k := by
    rw [List.take_length_add_append, List.take_append_of_le_length hk]
  have hdrop : (before ++ (line ++ after)).drop (before.length + k) = line.drop k ++ after := by
    rw [List.drop_length_add_append, List.drop_append_of_le_length hk]
  have hleft : ((line.take k).reverse ++ before.reverse).takeWhile inLine
      = (line.take k).reverse := by
    refine takeWhile_inLine (fun hmem => h.unbroken ?_) ?_
    · exact List.mem_of_mem_take (List.mem_reverse.1 hmem)
    · rw [List.head?_reverse]
      exact h.begins
  have hright : (line.drop k ++ after).takeWhile inLine = line.drop k :=
    takeWhile_inLine (fun hmem => h.unbroken (List.mem_of_mem_drop hmem)) h.ends
  rw [lineAround, htake, hdrop, List.reverse_append, hleft, hright, List.length_reverse,
    List.length_take_of_le hk, List.length_drop]
  exact Prod.ext (by omega) (by omega)

/-- **Every place lies on one line only.** -/
theorem IsLine.unique {text line line' : List Char} {start start' offset : ℕ}
    (h : IsLine text start line) (h' : IsLine text start' line') (ho : OnLine start line offset)
    (ho' : OnLine start' line' offset) : start = start' ∧ line = line' := by
  obtain ⟨before, after, hline, rfl, rfl⟩ := h
  obtain ⟨before', after', hline', heq, rfl⟩ := h'
  obtain ⟨k, rfl⟩ := Nat.exists_eq_add_of_le ho.1
  obtain ⟨k', hk'⟩ := Nat.exists_eq_add_of_le ho'.1
  have hbounds := lineAround_eq hline (Nat.le_of_add_le_add_left ho.2)
  rw [hk'] at ho'
  rw [heq, hk', lineAround_eq hline' (Nat.le_of_add_le_add_left ho'.2), Prod.mk.injEq] at hbounds
  obtain ⟨rfl, hrest⟩ := List.append_inj heq hbounds.1.symm
  exact ⟨rfl, List.append_inj_left hrest (by omega)⟩

/-! ## The search for a line -/

theorem lineStart_cons {c : Char} (hc : c ≠ '\n') (n : ℕ) (rest : List Char) :
    lineStart (n + 1) (c :: rest) = lineStart (n + 1) rest + 1 := by
  rw [lineStart]
  exact hc

/-- **The search stops where the line begins**, if it passes over all line feeds
before it. -/
theorem lineStart_count {before : List Char} (h : ∀ c ∈ before.getLast?, c = '\n')
    (rest : List Char) : lineStart (before.count '\n') (before ++ rest) = before.length := by
  induction before with
  | nil =>
    unfold lineStart
    rfl
  | cons c before ih =>
    cases before with
    | nil =>
      obtain rfl : c = '\n' := h c rfl
      rw [List.count_cons_self, List.cons_append, lineStart, ih nofun]
      rfl
    | cons d before =>
      rw [List.getLast?_cons_cons] at h
      by_cases hc : c = '\n'
      · rw [hc, List.count_cons_self, List.cons_append, lineStart, ih h]
        rfl
      · -- there is a line feed to come, since one is last
        have hmem : '\n' ∈ d :: before := by
          have hlast := List.getLast?_eq_some_getLast (List.cons_ne_nil d before)
          rw [← h _ hlast]
          exact List.getLast_mem _
        obtain ⟨n, hn⟩ := Nat.exists_eq_succ_of_ne_zero (List.count_pos_iff.2 hmem).ne'
        have ih := ih h
        rw [hn] at ih
        rw [List.count_cons_of_ne hc, hn, List.cons_append, lineStart_cons hc, ih]
        rfl

theorem lineText_eq {before line after : List Char} (h : Delimited before line after) :
    lineText (before ++ (line ++ after)) (1 + before.count '\n') = line := by
  have hnumber : ((1 + before.count '\n' : ℤ) - 1).toNat = before.count '\n' := by omega
  have hbounds := lineAround_eq h (Nat.zero_le line.length)
  rw [Nat.add_zero] at hbounds
  rw [lineText, hnumber, lineStart_count h.begins, hbounds]
  dsimp only
  rw [List.take_length_add_append, List.take_left, List.drop_left]

/-! ## Where the caret points -/

/-- **A line and a column point at a piece of a text**: what the snippet for them
shows is the line of the text that holds the offset of the piece, and a caret
below the first character of it. -/
structure PointsAt (text : String) (line col : ℤ) (offset : ℕ) (piece : String) (start : ℕ)
    (shown : List Char) : Prop where
  isLine : IsLine text.toList start shown
  onLine : OnLine start shown offset
  /-- No other line holds the offset. -/
  unique : ∀ start' shown', IsLine text.toList start' shown' → OnLine start' shown' offset →
    start' = start ∧ shown' = shown
  col_pos : 1 ≤ col
  start_add : start + (col - 1).toNat = offset
  render_eq : render text line col
    = String.ofList (shown ++ '\n' :: (List.replicate (col - 1).toNat ' ' ++ ['^']))
  piece_eq : (shown.drop (col - 1).toNat).take piece.length = piece.toList

/-- **Line and column tell where the line begins** that a text breaks off on. -/
theorem exists_delimited (before rest : List Char) :
    ∃ above left, before = above ++ left
      ∧ Delimited above (left ++ rest.takeWhile inLine) (rest.dropWhile inLine)
      ∧ Place.first.after before = ⟨1 + above.count '\n', 1 + left.length⟩ := by
  have hsplit : before.rdropWhile inLine ++ before.rtakeWhile inLine = before :=
    List.rdropWhile_append_rtakeWhile
  have hleft : '\n' ∉ before.rtakeWhile inLine := fun hmem =>
    inLine_iff.1 (List.mem_rtakeWhile_imp hmem) rfl
  refine ⟨_, _, hsplit.symm, ⟨fun c hc => ?_, fun hmem => ?_, fun c hc => ?_⟩, ?_⟩
  · obtain ⟨hne, rfl⟩ := List.mem_getLast?_eq_getLast hc
    by_contra hlast
    exact List.rdropWhile_last_not _ _ hne (inLine_iff.2 hlast)
  · rcases List.mem_append.1 hmem with hmem | hmem
    · exact hleft hmem
    · exact inLine_iff.1 (List.mem_takeWhile_imp hmem) rfl
  · by_contra hhead
    have hno := List.head?_dropWhile_not inLine rest
    rw [show (rest.dropWhile inLine).head? = some c from hc] at hno
    exact absurd (inLine_iff.2 hhead) (Bool.eq_false_iff.1 hno)
  · have hcount : before.count '\n' = (before.rdropWhile inLine).count '\n' := by
      have hcount := congrArg (List.count '\n') hsplit
      rw [List.count_append, List.count_eq_zero.2 hleft, Nat.add_zero] at hcount
      exact hcount.symm
    unfold Place.after
    rw [hcount]
    congr 1
    split
    · next hmem => rw [List.rtakeWhile, List.length_reverse]; rfl
    · next hmem =>
      have hall : before.rtakeWhile inLine = before :=
        List.rtakeWhile_eq_self_iff.2 fun c hc => inLine_iff.2 fun h => hmem (h ▸ hc)
      rw [hall]
      rfl

/-- **The caret is below the first character of what follows a text**, at the
line and the column that the text ends with. -/
theorem pointsAt_after {text : String} {before piece rest : List Char}
    (htext : text.toList = before ++ (piece ++ rest)) (hpiece : '\n' ∉ piece) :
    ∃ above left, before = above ++ left
      ∧ (Place.first.after before).col = 1 + left.length
      ∧ PointsAt text (Place.first.after before).line (Place.first.after before).col before.length
        (String.ofList piece) above.length (left ++ (piece ++ rest).takeWhile inLine) := by
  obtain ⟨above, left, rfl, hdelimited, hplace⟩ := exists_delimited before (piece ++ rest)
  have hcol : ((Place.first.after (above ++ left)).col - 1).toNat = left.length := by
    rw [hplace]
    dsimp only
    omega
  have hwhole : text.toList = above ++ ((left ++ (piece ++ rest).takeWhile inLine)
      ++ (piece ++ rest).dropWhile inLine) := by
    rw [htext, List.append_assoc, List.append_assoc, List.takeWhile_append_dropWhile]
  have hline : IsLine text.toList above.length (left ++ (piece ++ rest).takeWhile inLine) :=
    ⟨_, _, hdelimited, hwhole, rfl⟩
  have honLine : OnLine above.length (left ++ (piece ++ rest).takeWhile inLine)
      (above ++ left).length := by
    refine ⟨?_, ?_⟩ <;> simp only [List.length_append] <;> omega
  refine ⟨above, left, rfl, by rw [hplace], hline, honLine, ?_, ?_, ?_, ?_, ?_⟩
  · intro start' shown' hline' honLine'
    exact hline'.unique hline honLine' honLine
  · rw [hplace]
    dsimp only
    omega
  · rw [hcol, List.length_append]
  · rw [render, hwhole, hplace, lineText_eq hdelimited]
    rfl
  · rw [hcol, List.drop_left, String.length_ofList, String.toList_ofList,
      List.takeWhile_append_of_pos fun c hc => inLine_iff.2 fun h => hpiece (h ▸ hc),
      List.take_left]

end SyntaxChecker
