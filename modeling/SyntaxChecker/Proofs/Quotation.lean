import Mathlib.Algebra.Group.Nat.Defs
import SyntaxChecker.Text.Quoted

/-!
# Quoted text can be read back

Quoted text shows a text so that its extent and its content can be read off. What has to be
excluded is that a reader takes one thing for another: a character that shows as itself for
the beginning of an escaped one, the three forms of code points for each other, or a quote in
the text for the one at its end. `readChar` is such a reader, for one character, and it finds
the character that was written whatever is behind it (`readChar_escape`). The quote at the end
is the first one that is not read as part of a character (`quote_notHead_escape`). Both quotes
tell themselves which one they are, so nothing has to be known about a text to read it
(`quotedChars_append_inj`).
-/

namespace SyntaxChecker.Text

/-! ## Code points -/

/-- The value of a hexadecimal digit. -/
def digitValue (d : Char) : Nat := if d.isDigit then d.toNat - 48 else d.toNat - 87

/-- The number that hexadecimal digits stand for. -/
def hexValue (ds : List Char) : Nat := ds.foldl (fun n d => 16 * n + digitValue d) 0

theorem digitValue_digitChar : ∀ d < 16, digitValue (Nat.digitChar d) = d := by decide

/-- **The digits of a number stand for it**, if they are enough. -/
theorem hexValue_hexDigits (width n : Nat) : hexValue (hexDigits width n) = n % 16 ^ width := by
  induction width generalizing n with
  | zero => exact (Nat.mod_one n).symm
  | succ width ih =>
    have hlast : hexValue (hexDigits width (n / 16) ++ [Nat.digitChar (n % 16)])
        = 16 * hexValue (hexDigits width (n / 16)) + digitValue (Nat.digitChar (n % 16)) := by
      unfold hexValue
      rw [List.foldl_append]
      rfl
    rw [hexDigits, hlast, ih, digitValue_digitChar _ (Nat.mod_lt _ (by decide)), Nat.pow_succ',
      Nat.mod_mul, Nat.add_comm]

/-! ## One character -/

/-- The character whose code point is given by so many digits, and what is behind them. -/
def readCode (width : Nat) (s : List Char) : Option (Char × List Char) :=
  some (Char.ofNat (hexValue (s.take width)), s.drop width)

/-- Read one character of quoted text. -/
def readChar : List Char → Option (Char × List Char)
  | '\x5c' :: 'n' :: rest => some ('\n', rest)
  | '\x5c' :: 'r' :: rest => some ('\r', rest)
  | '\x5c' :: 't' :: rest => some ('\t', rest)
  | '\x5c' :: 'x' :: rest => readCode 2 rest
  | '\x5c' :: 'u' :: rest => readCode 4 rest
  | '\x5c' :: 'U' :: rest => readCode 8 rest
  | '\x5c' :: c :: rest => some (c, rest)
  | c :: rest => some (c, rest)
  | [] => none

theorem readCode_hexDigits {width : Nat} {c : Char} (h : c.toNat < 16 ^ width) (rest : List Char) :
    readCode width (hexDigits width c.toNat ++ rest) = some (c, rest) := by
  have hlength := length_hexDigits width c.toNat
  rw [readCode, List.take_left' hlength, List.drop_left' hlength, hexValue_hexDigits,
    Nat.mod_eq_of_lt h, Char.ofNat_toNat]

theorem readChar_of_ne {c : Char} (h : c ≠ '\x5c') (rest : List Char) :
    readChar (c :: rest) = some (c, rest) := by
  unfold readChar
  split <;> simp_all

/-- A code point is read back from its shortest form. -/
theorem readChar_escapeByCode (c : Char) (rest : List Char) :
    readChar (escapeByCode c.toNat ++ rest) = some (c, rest) := by
  unfold escapeByCode
  split
  · next h => exact readCode_hexDigits h rest
  · split
    · next h => exact readCode_hexDigits h rest
    · exact readCode_hexDigits (Nat.lt_of_lt_of_le c.val.toNat_lt (by decide)) rest

/-- The quotes. -/
def IsQuote (q : Char) : Prop := q = '\x27' ∨ q = '\x22'

theorem isQuote_quoteFor (s : List Char) : IsQuote (quoteFor s) := by
  unfold quoteFor
  split
  · exact .inr rfl
  · exact .inl rfl

/-- **What is written for a character is read as this character**, whatever is behind it. -/
theorem readChar_escape {quote : Char} (hquote : IsQuote quote) (c : Char) (rest : List Char) :
    readChar (escape quote c ++ rest) = some (c, rest) := by
  fun_cases escape quote c with
  | case1 hself =>
    have hc : c = '\x27' ∨ c = '\x22' ∨ c = '\x5c' := by
      rcases Bool.or_eq_true_iff.1 hself with h | h
      · rcases hquote with rfl | rfl
        · exact .inl (eq_of_beq h)
        · exact .inr (.inl (eq_of_beq h))
      · exact .inr (.inr (eq_of_beq h))
    rcases hc with rfl | rfl | rfl <;> rfl
  | case2 _ h | case3 _ _ h | case4 _ _ _ h =>
    obtain rfl := eq_of_beq h
    rfl
  | case5 hself =>
    -- a character that shows as itself is no backslash
    have hbackslash : c ≠ '\x5c' := by
      rintro rfl
      exact hself (Bool.or_true _)
    exact readChar_of_ne hbackslash rest
  | case6 => exact readChar_escapeByCode c rest

/-- **No quote begins what is written for a character.** -/
theorem quote_notHead_escape {quote : Char} (hquote : IsQuote quote) (c : Char) :
    (escape quote c).head? ≠ some quote := by
  have hbackslash : some '\x5c' ≠ some quote := by rcases hquote with rfl | rfl <;> decide
  fun_cases escape quote c with
  | case1 | case2 | case3 | case4 => exact hbackslash
  | case5 hself =>
    intro h
    obtain rfl := Option.some.inj h
    exact hself (by rw [beq_self_eq_true, Bool.true_or])
  | case6 =>
    unfold escapeByCode
    repeat' split
    all_goals exact hbackslash

/-! ## Texts -/

/-- Two texts within the same quotes are read alike, up to the quote at the end. -/
theorem flatMap_escape_inj {quote : Char} (hquote : IsQuote quote) {s s' rest rest' : List Char}
    (h : s.flatMap (escape quote) ++ quote :: rest
      = s'.flatMap (escape quote) ++ quote :: rest') : s = s' ∧ rest = rest' := by
  have hend : ∀ (c : Char) (more rest : List Char),
      escape quote c ++ more ≠ quote :: rest := fun c more rest h => by
    have hhead := quote_notHead_escape hquote c
    rcases hc : escape quote c with _ | ⟨d, ds⟩
    all_goals rw [hc] at h hhead
    · have hread := readChar_escape hquote c []
      rw [hc] at hread
      cases hread
    · cases h
      exact hhead rfl
  induction s generalizing s' with
  | nil =>
    cases s' with
    | nil => exact ⟨rfl, (List.cons.inj h).2⟩
    | cons c' s' =>
      rw [List.flatMap_cons, List.append_assoc] at h
      exact (hend _ _ _ h.symm).elim
  | cons c s ih =>
    rw [List.flatMap_cons, List.append_assoc] at h
    cases s' with
    | nil => exact (hend _ _ _ h).elim
    | cons c' s' =>
      rw [List.flatMap_cons, List.append_assoc] at h
      have hread := congrArg readChar h
      rw [readChar_escape hquote, readChar_escape hquote] at hread
      obtain ⟨rfl, hmore⟩ := Prod.mk.inj (Option.some.inj hread)
      obtain ⟨rfl, hrest⟩ := ih hmore
      exact ⟨rfl, hrest⟩

/-- **Quoted text can be read back**: it tells where it ends, and which text it shows. -/
theorem quotedChars_append_inj {s s' rest rest' : List Char}
    (h : quotedChars s ++ rest = quotedChars s' ++ rest') : s = s' ∧ rest = rest' := by
  unfold quotedChars at h
  rw [List.append_assoc, List.append_assoc, List.cons_append, List.cons_append] at h
  obtain ⟨hquote, hbody⟩ := List.cons.inj h
  rw [← hquote] at hbody
  exact flatMap_escape_inj (isQuote_quoteFor s) hbody

end SyntaxChecker.Text
