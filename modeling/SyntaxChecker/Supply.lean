import SyntaxChecker.Lexer

/-!
# Supplies of tokens

A supply is what a check takes its tokens from, one at a time. It may fail at
any of them, and it may have more to say after it failed.

A check has to know that its input is finite. So a supply also tells a bound,
`Supply.pending`, on how many tokens it may still deliver before it delivers
nothing but the end of the input; every other token that is taken lowers the
bound, and a failure does not raise it. Those are the laws of `LawfulSupply`.

There are three supplies besides the lexer: a list of tokens, a script of
tokens and faults, and one that is not there.
-/

namespace SyntaxChecker

/-- What a check takes its tokens from. -/
class Supply (σ : Type) where
  /-- Take the next token. -/
  pull : σ → Except Raised Token × σ
  /-- A bound on the tokens before the end of the input. -/
  pending : σ → Nat

/-- A supply keeps its bound: every token but the end of the input lowers it,
and nothing raises it. -/
class LawfulSupply (σ : Type) [Supply σ] : Prop where
  pending_le {s s' : σ} {outcome : Except Raised Token} :
    Supply.pull s = (outcome, s') → Supply.pending s' ≤ Supply.pending s
  pending_lt {s s' : σ} {t : Token} :
    Supply.pull s = (.ok t, s') → t.isEof = false →
      Supply.pending s' < Supply.pending s

/-! ## The lexer -/

/-- Take the next token of a lexer; its error has no further cause. -/
def Lexer.pull (l : Lexer) : Except Raised Token × Lexer :=
  match l.next with
  | (.ok t, l') => (.ok t, l')
  | (.error e, l') => (.error (Raised.fresh (.lexical e)), l')

instance : Supply Lexer := ⟨Lexer.pull, Lexer.pending⟩

/-! ## A list of tokens -/

/-- Tokens that are at hand. Behind the last of them comes the end of the input,
on the line of the last and in the first column. -/
structure TokenList where
  rest : List Token
  /-- The line of the last token. -/
  lastLine : Int
  deriving DecidableEq, Repr

namespace TokenList

/-- All of these tokens are still to come. -/
def ofList (tokens : List Token) : TokenList :=
  ⟨tokens, (tokens.getLast?.map Token.line).getD 1⟩

/-- Take the next token. -/
def next (s : TokenList) : Token × TokenList :=
  match s.rest with
  | [] => (Token.endOfInput s.lastLine 1, s)
  | t :: rest => (t, { s with rest := rest })

/-- The next `n` tokens. -/
def take : Nat → TokenList → List Token
  | 0, _ => []
  | n + 1, s => s.next.1 :: take n s.next.2

end TokenList

instance : Supply TokenList where
  pull s := (.ok s.next.1, s.next.2)
  pending s := s.rest.length

/-! ## A script -/

/-- Tokens and faults, in the order in which they are to come. Behind the last
comes the end of the input. -/
structure Script where
  items : List (Except Raised Token)

namespace Script

/-- Take the next item. -/
def next (s : Script) : Except Raised Token × Script :=
  match s.items with
  | [] => (.ok (Token.endOfInput 1 1), s)
  | item :: rest => (item, ⟨rest⟩)

end Script

instance : Supply Script := ⟨Script.next, fun s => s.items.length⟩

/-! ## No supply at all -/

/-- A supply that is not there: to take a token from it is a fault. -/
inductive NoSupply where
  | none

instance : Supply NoSupply := ⟨fun s => (.error (Raised.fresh .unimplemented), s), fun _ => 0⟩

/-! ## The bounds are kept -/

theorem Cursor.length_scan_le (c : Cursor) : c.scan.2.rest.length ≤ c.rest.length := by
  refine Nat.le_trans ?_ c.length_skipGap_le
  unfold scan readToken
  split
  · exact Nat.le_refl _
  · split
    · rw [rest_advance, List.length_drop]
      exact Nat.sub_le ..
    · exact Nat.le_refl _

theorem Lexer.pending_next_le (l : Lexer) : l.next.2.pending ≤ l.pending := by
  unfold next
  split
  · next u hp => simp [pending, hp]
  · next hp => simpa [pending, hp] using l.cursor.length_scan_le

instance : LawfulSupply Lexer where
  pending_le {s s' outcome} h := by
    have hle := s.pending_next_le
    simp only [Supply.pull, Lexer.pull] at h
    split at h
    all_goals
      next hn =>
        cases h
        rw [hn] at hle
        exact hle
  pending_lt {s s' t} h ht := by
    simp only [Supply.pull, Lexer.pull] at h
    split at h
    · next hn =>
      cases h
      exact Lexer.pending_next_lt hn ht
    · cases h

instance : LawfulSupply TokenList where
  pending_le {s s' outcome} h := by
    cases h
    simp only [Supply.pending, TokenList.next]
    split <;> simp_all
  pending_lt {s s' t} h ht := by
    simp only [Supply.pull, Prod.mk.injEq, Except.ok.injEq] at h
    obtain ⟨rfl, rfl⟩ := h
    simp only [TokenList.next] at ht
    simp only [Supply.pending, TokenList.next]
    split <;> simp_all [Token.isEof, Token.endOfInput]

instance : LawfulSupply Script where
  pending_le {s s' outcome} h := by
    simp only [Supply.pull, Script.next] at h
    split at h <;> cases h <;> simp_all [Supply.pending]
  pending_lt {s s' t} h ht := by
    simp only [Supply.pull, Script.next] at h
    split at h
    · cases h
      simp [Token.isEof, Token.endOfInput] at ht
    · next item rest heq =>
      cases h
      simp [Supply.pending, heq]

instance : LawfulSupply NoSupply where
  pending_le h := by
    cases h
    exact Nat.le_refl _
  pending_lt h := by cases h

end SyntaxChecker
