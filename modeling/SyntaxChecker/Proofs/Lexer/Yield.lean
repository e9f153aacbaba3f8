import SyntaxChecker.Proofs.Analyser.Course
import SyntaxChecker.Proofs.Lexer.Deliveries

/-!
# What a lexer yields

A check takes the tokens of a text one by one, and the list of all tokens is made
by taking them one by one as well. So the two have the same to say about a text.
If there is a list, a check is delivered its tokens in turn, and behind the last
of them the end of the input over and over (`Lexer.yields_of_drain`). If there is
none, a check is delivered some tokens, none of which is the end of the input,
and then the error that prevented the list (`Lexer.drain_eq_error_iff`).
-/

namespace SyntaxChecker.Lexer

variable {l l' l₀ : Lexer} {t : Token} {ts : List Token} {e : LexicalError}

/-! ## Taking tokens from a lexer -/

theorem pull_eq_ok_iff : Supply.pull l = (.ok t, l') ↔ l.next = (.ok t, l') := by
  show l.pull = _ ↔ _
  unfold pull
  split
  · next hnext => rw [hnext, Prod.mk.injEq, Prod.mk.injEq, Except.ok.injEq, Except.ok.injEq]
  · next hnext =>
    rw [hnext]
    constructor <;> intro h <;> cases h

theorem pull_eq_error_iff {r : Raised} : Supply.pull l = (.error r, l')
    ↔ ∃ e, r = Raised.fresh (.lexical e) ∧ l.next = (.error e, l') := by
  show l.pull = _ ↔ _
  unfold pull
  split
  · next hnext =>
    rw [hnext]
    constructor
    · intro h
      cases h
    · rintro ⟨e, -, h⟩
      cases h
  · next e l' hnext =>
    rw [hnext]
    constructor
    · rintro ⟨⟩
      exact ⟨e, rfl, rfl⟩
    · rintro ⟨e, rfl, ⟨⟩⟩
      rfl

/-- What is taken from a lexer are its answers. -/
theorem Reached.of_yields (h : Reached l₀ l) (hyields : Supply.Yields l ts l') :
    Reached l₀ l' ∧ ∀ t ∈ ts, ∃ m m', Reached l₀ m ∧ m.next = (.ok t, m') := by
  induction hyields with
  | nil => exact ⟨h, nofun⟩
  | @cons m m' _ t ts hpull _ ih =>
    have hnext := pull_eq_ok_iff.1 hpull
    have hm' : Reached l₀ m' := by
      have hreached := h.next
      rwa [hnext] at hreached
    obtain ⟨hl', hts⟩ := ih hm'
    refine ⟨hl', fun u hu => ?_⟩
    rcases List.mem_cons.1 hu with rfl | hu
    · exact ⟨m, m', h, hnext⟩
    · exact hts u hu

theorem peeked_of_next {o : Except LexicalError Token} (h : l.next = (o, l')) :
    l'.peeked = none := by
  unfold next at h
  split at h
  · cases h
    rfl
  · split at h
    cases h
    rfl

/-! ## The end of the input -/

/-- A lexer that has nothing left. -/
structure AtEnd (l : Lexer) : Prop where
  rest_eq : l.cursor.rest = []
  peeked_eq : l.peeked = none

/-- **Nothing but the end of the input comes behind it.** -/
theorem AtEnd.next_eq (h : l.AtEnd) :
    l.next = (.ok (.endOfInput l.cursor.line l.cursor.col), l) := by
  have hskip : l.cursor.skipGap = l.cursor := by
    rw [Cursor.skipGap, h.rest_eq]
    rfl
  have hread : l.cursor.readToken = (.ok (.endOfInput l.cursor.line l.cursor.col), l.cursor) := by
    unfold Cursor.readToken
    rw [h.rest_eq]
  rw [next_of_peeked_eq_none h.peeked_eq, hskip, hread, ← h.peeked_eq]

theorem atEnd_of_next (hpeeked : l.peeked = none) (h : l.next = (.ok t, l'))
    (ht : t.isEof = true) : l'.AtEnd ∧ t = .endOfInput l'.cursor.line l'.cursor.col := by
  rw [next_of_peeked_eq_none hpeeked] at h
  unfold Cursor.readToken at h
  split at h
  · next hrest =>
    cases h
    exact ⟨⟨hrest, rfl⟩, rfl⟩
  · split at h
    · next hlexeme =>
      cases h
      exact absurd (eq_of_beq ht) (lexeme?_isLexeme hlexeme).ne_eof
    · cases h

theorem AtEnd.of_yields (h : l.AtEnd) (hyields : Supply.Yields l ts l') : l'.AtEnd := by
  induction hyields with
  | nil => exact h
  | cons hpull _ ih =>
    have hnext := h.next_eq
    rw [pull_eq_ok_iff.1 hpull] at hnext
    cases hnext
    exact ih h

/-! ## The list of all tokens -/

/-- **A list of all tokens** is what the lexer delivers, up to the first end of the
input. -/
theorem yields_of_drain (hpeeked : l.peeked = none) (h : l.drain.1 = .ok ts) :
    ∃ us t l', ts = us ++ [t] ∧ (∀ u ∈ us, u.isEof = false) ∧ t.isEof = true
      ∧ Supply.Yields l ts l' ∧ l'.AtEnd := by
  induction hn : l.pending using Nat.strong_induction_on generalizing l ts with
  | _ n ih =>
    subst hn
    rcases hnext : l.next with ⟨e | u, m⟩
    · rw [drain_error hnext] at h
      cases h
    · rw [drain_ok hnext] at h
      have hpull := pull_eq_ok_iff.2 hnext
      cases hu : u.isEof with
      | true =>
        rw [if_pos hu] at h
        cases h
        exact ⟨[], u, m, rfl, nofun, hu, .cons hpull (.nil m),
          (atEnd_of_next hpeeked hnext hu).1⟩
      | false =>
        rw [if_neg (by rw [hu]; exact Bool.false_ne_true)] at h
        obtain ⟨vs, hvs, rfl⟩ : ∃ vs, m.drain.1 = .ok vs ∧ u :: vs = ts := by
          cases hdrain : m.drain.1 with
          | error e => rw [hdrain] at h; cases h
          | ok vs => rw [hdrain] at h; exact ⟨vs, rfl, Except.ok.inj h⟩
        obtain ⟨us, t, l', rfl, hus, ht, hyields, hl'⟩ :=
          ih _ (pending_next_lt hnext hu) (peeked_of_next hnext) hvs rfl
        exact ⟨u :: us, t, l', rfl, List.forall_mem_cons.2 ⟨hu, hus⟩, ht, .cons hpull hyields, hl'⟩

/-- **Where there is no list of all tokens**, the lexer delivers some tokens and then
raises the error. -/
theorem drain_eq_error_iff (hpeeked : l.peeked = none) :
    l.drain.1 = .error e ↔ ∃ ts m m', Supply.Yields l ts m ∧ m.next = (.error e, m') := by
  constructor
  · intro h
    induction hn : l.pending using Nat.strong_induction_on generalizing l with
    | _ n ih =>
      subst hn
      rcases hnext : l.next with ⟨e' | u, m⟩
      · rw [drain_error hnext] at h
        cases h
        exact ⟨[], l, m, .nil l, hnext⟩
      · rw [drain_ok hnext] at h
        cases hu : u.isEof with
        | true =>
          rw [if_pos hu] at h
          cases h
        | false =>
          rw [if_neg (by rw [hu]; exact Bool.false_ne_true)] at h
          have hdrain : m.drain.1 = .error e := by
            cases hdrain : m.drain.1 with
            | ok vs => rw [hdrain] at h; cases h
            | error e' => rw [hdrain] at h; exact congrArg _ (Except.error.inj h)
          obtain ⟨ts, k, k', hyields, hk⟩ :=
            ih _ (pending_next_lt hnext hu) (peeked_of_next hnext) hdrain rfl
          exact ⟨u :: ts, k, k', .cons (pull_eq_ok_iff.2 hnext) hyields, hk⟩
  · rintro ⟨ts, m, m', hyields, hm⟩
    induction hyields with
    | nil => rw [drain_error hm]
    | @cons k k' m u ts hpull hrest ih =>
      have hnext := pull_eq_ok_iff.1 hpull
      cases hu : u.isEof with
      | true =>
        -- behind the end of the input there is no error
        have hend := ((atEnd_of_next hpeeked hnext hu).1.of_yields hrest).next_eq
        rw [hm] at hend
        cases hend
      | false =>
        rw [drain_ok hnext, if_neg (by rw [hu]; exact Bool.false_ne_true),
          ih (peeked_of_next hnext) hm]
        rfl

/-- No token before an error is the end of the input. -/
theorem isEof_eq_false_of_yields {m m' : Lexer} (hpeeked : l.peeked = none)
    (hyields : Supply.Yields l ts m) (hm : m.next = (.error e, m')) :
    ∀ t ∈ ts, t.isEof = false := by
  induction hyields with
  | nil => exact nofun
  | @cons k k' m u ts hpull hrest ih =>
    have hnext := pull_eq_ok_iff.1 hpull
    refine List.forall_mem_cons.2 ⟨Bool.eq_false_iff.2 fun hu => ?_, ih (peeked_of_next hnext) hm⟩
    have hend := ((atEnd_of_next hpeeked hnext hu).1.of_yields hrest).next_eq
    rw [hm] at hend
    cases hend

/-- **The lexing of a text breaks off** behind some tokens with an error. -/
def BreaksOff (text : String) (ts : List Token) (e : LexicalError) : Prop :=
  ∃ m m', Supply.Yields (ofText text) ts m ∧ m.next = (.error e, m')

theorem BreaksOff.isEof_eq_false {text : String} (h : BreaksOff text ts e) :
    ∀ t ∈ ts, t.isEof = false := by
  obtain ⟨m, m', hyields, hm⟩ := h
  exact isEof_eq_false_of_yields rfl hyields hm

/-- Exactly if the lexing breaks off, there is no list of all tokens. -/
theorem tokensOf_eq_error_iff {text : String} :
    tokensOf text = .error e ↔ ∃ ts, BreaksOff text ts e :=
  drain_eq_error_iff rfl

end SyntaxChecker.Lexer
