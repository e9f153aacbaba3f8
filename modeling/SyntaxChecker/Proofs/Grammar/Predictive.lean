import SyntaxChecker.Grammar

/-!
# One symbol decides

The checker takes every decision – which side of a choice, whether to repeat –
from a single symbol of lookahead. That this loses no program is a property of
the grammar, and it can be read off the phrases: the two sides of a choice have
no starter in common, and where a phrase may end, what may follow it does not
also continue it.

The second condition needs to know how a phrase may be *continued*. A sentence
`a` of an expression is also the beginning of the longer sentence `a + b`; the
symbols that may stand behind a sentence in a longer one are the
`Phrase.continuers`. A phrase that meets the conditions is
`Phrase.Predictive`, and all productions are (`Rule.predictive_production`).

Two more tables are kept here because they are about how phrases begin and end.
`Rule.height` says how many rules may be opened, one directly inside the other,
before the first terminal. And `Phrase.mentionsEnd` says whether the end of the
input occurs in a phrase, which it does in no production.
-/

namespace SyntaxChecker

/-! ## Continuers -/

/-- The symbols that may stand behind a sentence of a rule in a longer sentence
of it. -/
def Rule.continuers : Rule → List Symbol
  | statementList => [.semicolon, .plus, .minus, .times, .divide]
  | statement | assignmentStatement | expression => [.plus, .minus, .times, .divide]
  | term => [.times, .divide]
  | argumentList => [.comma]
  | statementPart | ifStatement | whileStatement | procedureStatement | untilStatement
  | forStatement | condition | conditionalOperator | factor => []

namespace Phrase

/-- The symbols that may stand behind a sentence of a phrase in a longer
sentence of it. -/
def continuers : Phrase → List Symbol
  | empty => []
  | unmet _ => []
  | terminal _ => []
  | rule r => r.continuers
  | seq p q => if q.nullable then q.continuers ++ p.continuers else q.continuers
  | alt p q =>
    if q.nullable then p.starters ++ p.continuers ++ q.continuers
    else p.continuers ++ q.continuers
  | star p => p.starters ++ p.continuers

end Phrase

/-- **The table of continuers covers the productions.** -/
theorem Rule.continuers_production (r : Rule) :
    ∀ s ∈ r.production.continuers, s ∈ r.continuers := by
  cases r <;> decide

/-! ## Predictive phrases -/

namespace Phrase

/-- Whether a phrase has a sentence at all. Every rule has one. -/
def hasSentence : Phrase → Bool
  | empty => true
  | unmet _ => false
  | terminal _ => true
  | rule _ => true
  | seq p q => p.hasSentence && q.hasSentence
  | alt p q => p.hasSentence || q.hasSentence
  | star _ => true

/-- **One symbol decides.** In a sequence nothing that continues the first part
starts the second, and the second can be completed; the sides of a choice have
no starter in common, and the left one is not empty; and what continues the
body of a repetition does not start the body again. -/
def Predictive : Phrase → Prop
  | empty => True
  | unmet _ => True
  | terminal _ => True
  | rule _ => True
  | seq p q =>
    p.Predictive ∧ q.Predictive ∧ (∀ s ∈ p.continuers, s ∉ q.starters)
      ∧ q.hasSentence = true
  | alt p q =>
    p.Predictive ∧ q.Predictive ∧ (∀ s ∈ p.starters, s ∉ q.starters)
      ∧ p.nullable = false
  | star p =>
    p.Predictive ∧ (∀ s ∈ p.continuers, s ∉ p.starters) ∧ p.nullable = false

instance decidablePredictive : DecidablePred Predictive
  | empty => inferInstanceAs (Decidable True)
  | unmet _ => inferInstanceAs (Decidable True)
  | terminal _ => inferInstanceAs (Decidable True)
  | rule _ => inferInstanceAs (Decidable True)
  | seq p q =>
    have := decidablePredictive p
    have := decidablePredictive q
    inferInstanceAs (Decidable (_ ∧ _ ∧ _ ∧ _))
  | alt p q =>
    have := decidablePredictive p
    have := decidablePredictive q
    inferInstanceAs (Decidable (_ ∧ _ ∧ _ ∧ _))
  | star p =>
    have := decidablePredictive p
    inferInstanceAs (Decidable (_ ∧ _ ∧ _))

end Phrase

/-- **Every production is predictive.** -/
theorem Rule.predictive_production (r : Rule) : r.production.Predictive := by
  cases r <;> decide

/-! ## How phrases begin -/

/-- How many rules may be open, one directly inside the other, when the first
terminal of a rule comes: itself, and those it may begin with. -/
def Rule.height : Rule → Nat
  | statementList | expression => 3
  | statement | term => 2
  | statementPart | assignmentStatement | ifStatement | whileStatement | procedureStatement
  | untilStatement | forStatement | argumentList | condition | conditionalOperator | factor => 1

namespace Phrase

/-- How many rules may be open when the first terminal of a phrase comes. -/
def height : Phrase → Nat
  | empty => 0
  | unmet _ => 0
  | terminal _ => 0
  | rule r => r.height
  | seq p q => if p.nullable then max p.height q.height else p.height
  | alt p q => max p.height q.height
  | star p => p.height

theorem height_le (p : Phrase) : p.height ≤ 3 := by
  induction p with
  | empty | unmet | terminal => exact Nat.zero_le 3
  | rule r => cases r <;> decide
  | seq p q ihp ihq =>
    rw [height]
    split <;> omega
  | alt p q ihp ihq =>
    rw [height]
    omega
  | star p ih => exact ih

end Phrase

/-- A rule opens one level more than its production. -/
theorem Rule.height_production_lt (r : Rule) : r.production.height < r.height := by
  cases r <;> decide

/-! ## The end of the input -/

namespace Phrase

/-- Whether the end of the input occurs in a phrase. -/
def mentionsEnd : Phrase → Bool
  | empty => false
  | unmet _ => false
  | terminal s => s == .eof
  | rule _ => false
  | seq p q => p.mentionsEnd || q.mentionsEnd
  | alt p q => p.mentionsEnd || q.mentionsEnd
  | star p => p.mentionsEnd

end Phrase

/-- No production mentions the end of the input. -/
theorem Rule.mentionsEnd_production (r : Rule) : r.production.mentionsEnd = false := by
  cases r <;> rfl

/-- No sentence of a phrase that does not mention the end of the input holds
it. -/
theorem Phrase.Derives.eof_not_mem {p : Phrase} {w : List Symbol} (h : p.Derives w)
    (hp : p.mentionsEnd = false) : .eof ∉ w := by
  induction h with
  | empty | starNil => exact List.not_mem_nil
  | terminal s =>
    rw [mentionsEnd, beq_eq_false_iff_ne] at hp
    exact fun he => hp (List.mem_singleton.1 he).symm
  | @rule r w _ ih => exact ih r.mentionsEnd_production
  | seq _ _ ihp ihq =>
    rw [mentionsEnd, Bool.or_eq_false_iff] at hp
    rw [List.mem_append, not_or]
    exact ⟨ihp hp.1, ihq hp.2⟩
  | altLeft _ ih =>
    rw [mentionsEnd, Bool.or_eq_false_iff] at hp
    exact ih hp.1
  | altRight _ ih =>
    rw [mentionsEnd, Bool.or_eq_false_iff] at hp
    exact ih hp.2
  | starCons _ _ ihp ihs =>
    rw [List.mem_append, not_or]
    exact ⟨ihp hp, ihs hp⟩

end SyntaxChecker
