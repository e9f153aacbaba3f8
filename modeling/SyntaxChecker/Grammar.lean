import SyntaxChecker.Rule
import SyntaxChecker.Symbol

/-!
# The grammar

The right-hand side of a rule is a `Phrase`: terminals and rules, put together
by sequence, choice and repetition. The grammar is the function
`Rule.production`, and it is data: the checker interprets it, and so does
`Phrase.Derives`, which says which sequences of symbols a phrase stands for.

```text
statement-part       : "begin" statement-list "end" ;
statement-list       : statement (";" statement)* ;
statement            : assignment-statement | if-statement | while-statement
                     | procedure-statement | until-statement | for-statement ;
assignment-statement : IDENTIFIER ":=" (STRING_CONSTANT | expression) ;
if-statement         : "if" condition "then" statement-list
                       ("else" statement-list)? "end" "if" ;
while-statement      : "while" condition "loop" statement-list "end" "loop" ;
procedure-statement  : "call" IDENTIFIER "(" argument-list ")" ;
until-statement      : "do" statement-list "until" condition ;
for-statement        : "for" "(" assignment-statement ";" condition ";"
                       assignment-statement ")" "do" statement-list "end" "loop" ;
argument-list        : IDENTIFIER ("," IDENTIFIER)* ;
condition            : IDENTIFIER conditional-operator
                       (IDENTIFIER | NUMBER_CONSTANT | STRING_CONSTANT) ;
conditional-operator : ">" | ">=" | "=" | "/=" | "<" | "<=" ;
expression           : term (("+" | "-") term)* ;
term                 : factor (("*" | "/") factor)* ;
factor               : IDENTIFIER | NUMBER_CONSTANT | "(" expression ")" ;
```

One symbol of lookahead decides every choice: the left side is taken exactly if
the symbol is among its `Phrase.starters`, and a repetition goes on exactly if
the symbol starts its body. Where none of several alternatives fits, the
message names them together, and so a choice may end in `Phrase.unmet`, which
derives nothing and holds that wording.
-/

namespace SyntaxChecker

/-- The right-hand side of a rule. -/
inductive Phrase where
  /-- Nothing, and nothing is expected. -/
  | empty
  /-- No input fits; this is how a message says what would have. -/
  | unmet (expected : String)
  | terminal (symbol : Symbol)
  | rule (r : Rule)
  | seq (first second : Phrase)
  | alt (left right : Phrase)
  | star (body : Phrase)
  deriving DecidableEq, Repr

namespace Phrase

/-- Several phrases, one after the other. -/
def inOrder : List Phrase → Phrase
  | [] => empty
  | [p] => p
  | p :: ps => seq p (inOrder ps)

/-- One of several phrases, with the wording for none of them. -/
def oneOf (expected : String) : List Phrase → Phrase
  | [] => unmet expected
  | p :: ps => alt p (oneOf expected ps)

/-- A phrase or nothing. -/
def optional (p : Phrase) : Phrase := alt p empty

end Phrase

/-! ## The productions -/

open Phrase

/-- What a rule derives. -/
def Rule.production : Rule → Phrase
  | statementPart =>
    inOrder [terminal .kwBegin, rule statementList, terminal .kwEnd]
  | statementList =>
    seq (rule statement) (star (seq (terminal .semicolon) (rule statement)))
  | statement =>
    oneOf "<assignment>, <if>, <while>, <procedure>, <until>, or <for>"
      [rule assignmentStatement, rule ifStatement, rule whileStatement,
        rule procedureStatement, rule untilStatement, rule forStatement]
  | assignmentStatement =>
    inOrder [terminal .identifier, terminal .becomes,
      alt (terminal .stringConstant) (rule expression)]
  | ifStatement =>
    inOrder [terminal .kwIf, rule condition, terminal .kwThen, rule statementList,
      optional (seq (terminal .kwElse) (rule statementList)), terminal .kwEnd, terminal .kwIf]
  | whileStatement =>
    inOrder [terminal .kwWhile, rule condition, terminal .kwLoop, rule statementList,
      terminal .kwEnd, terminal .kwLoop]
  | procedureStatement =>
    inOrder [terminal .kwCall, terminal .identifier, terminal .leftParenthesis,
      rule argumentList, terminal .rightParenthesis]
  | untilStatement =>
    inOrder [terminal .kwDo, rule statementList, terminal .kwUntil, rule condition]
  | forStatement =>
    inOrder [terminal .kwFor, terminal .leftParenthesis, rule assignmentStatement,
      terminal .semicolon, rule condition, terminal .semicolon, rule assignmentStatement,
      terminal .rightParenthesis, terminal .kwDo, rule statementList,
      terminal .kwEnd, terminal .kwLoop]
  | argumentList =>
    seq (terminal .identifier) (star (seq (terminal .comma) (terminal .identifier)))
  | condition =>
    inOrder [terminal .identifier, rule conditionalOperator,
      oneOf "identifier, number constant or string constant"
        [terminal .identifier, terminal .numberConstant, terminal .stringConstant]]
  | conditionalOperator =>
    oneOf "> , >= , = , /= , < or <="
      [terminal .greaterThan, terminal .greaterEqual, terminal .equal, terminal .notEqual,
        terminal .lessThan, terminal .lessEqual]
  | expression =>
    seq (rule term)
      (star (seq (alt (terminal .plus) (terminal .minus)) (rule term)))
  | term =>
    seq (rule factor)
      (star (seq (alt (terminal .times) (terminal .divide)) (rule factor)))
  | factor =>
    oneOf "identifier, number constant, or '('"
      [terminal .identifier, terminal .numberConstant,
        inOrder [terminal .leftParenthesis, rule expression, terminal .rightParenthesis]]

/-! ## What a phrase starts with -/

/-- The symbols that a rule may start with. No rule derives the empty
sequence. -/
def Rule.starters : Rule → List Symbol
  | statementPart => [.kwBegin]
  | statementList | statement =>
    [.identifier, .kwIf, .kwWhile, .kwCall, .kwDo, .kwFor]
  | assignmentStatement => [.identifier]
  | ifStatement => [.kwIf]
  | whileStatement => [.kwWhile]
  | procedureStatement => [.kwCall]
  | untilStatement => [.kwDo]
  | forStatement => [.kwFor]
  | argumentList => [.identifier]
  | condition => [.identifier]
  | conditionalOperator => Symbol.conditionalOperators
  | expression | term | factor => [.identifier, .numberConstant, .leftParenthesis]

namespace Phrase

/-- Whether a phrase may stand for nothing at all. -/
def nullable : Phrase → Bool
  | empty => true
  | unmet _ => false
  | terminal _ => false
  | rule _ => false
  | seq p q => p.nullable && q.nullable
  | alt p q => p.nullable || q.nullable
  | star _ => true

/-- The symbols that a phrase may start with. -/
def starters : Phrase → List Symbol
  | empty => []
  | unmet _ => []
  | terminal s => [s]
  | rule r => r.starters
  | seq p q => if p.nullable then p.starters ++ q.starters else p.starters
  | alt p q => p.starters ++ q.starters
  | star p => p.starters

end Phrase

/-- **The table of starters fits the productions.** -/
theorem Rule.starters_production (r : Rule) : r.production.starters = r.starters := by
  cases r <;> rfl

/-- No production stands for nothing. -/
theorem Rule.nullable_production (r : Rule) : r.production.nullable = false := by
  cases r <;> rfl

/-! ## What a phrase stands for -/

/-- The sequences of symbols that a phrase stands for. -/
inductive Phrase.Derives : Phrase → List Symbol → Prop
  | empty : Derives .empty []
  | terminal (s : Symbol) : Derives (.terminal s) [s]
  | rule {r : Rule} {w : List Symbol} : Derives r.production w → Derives (.rule r) w
  | seq {p q : Phrase} {v w : List Symbol} :
      Derives p v → Derives q w → Derives (.seq p q) (v ++ w)
  | altLeft {p q : Phrase} {w : List Symbol} : Derives p w → Derives (.alt p q) w
  | altRight {p q : Phrase} {w : List Symbol} : Derives q w → Derives (.alt p q) w
  | starNil {p : Phrase} : Derives (.star p) []
  | starCons {p : Phrase} {v w : List Symbol} :
      Derives p v → Derives (.star p) w → Derives (.star p) (v ++ w)

/-- The programs of the language: what the statement part derives. -/
def IsProgram (w : List Symbol) : Prop := (Phrase.rule .statementPart).Derives w

/-- A phrase that derives the empty sequence is nullable. -/
theorem Phrase.Derives.nullable {p : Phrase} {w : List Symbol} (h : p.Derives w) (hw : w = []) :
    p.nullable = true := by
  induction h with
  | empty => rfl
  | terminal s => cases hw
  | @rule r w _ ih => simpa [Rule.nullable_production] using ih hw
  | seq _ _ ihp ihq =>
    obtain ⟨hv, hw⟩ := List.append_eq_nil_iff.1 hw
    simp [Phrase.nullable, ihp hv, ihq hw]
  | altLeft _ ih => simp [Phrase.nullable, ih hw]
  | altRight _ ih => simp [Phrase.nullable, ih hw]
  | starNil => rfl
  | starCons => rfl

/-- **What a phrase stands for starts with one of its starters.** -/
theorem Phrase.Derives.mem_starters {p : Phrase} {w : List Symbol} (h : p.Derives w)
    {s : Symbol} {rest : List Symbol} (hw : w = s :: rest) : s ∈ p.starters := by
  induction h generalizing rest with
  | empty => cases hw
  | terminal t =>
    cases hw
    exact List.mem_singleton.2 rfl
  | @rule r w _ ih =>
    rw [Phrase.starters, ← Rule.starters_production]
    exact ih hw
  | @seq p q v w hp _ ihp ihq =>
    cases v with
    | nil =>
      rw [Phrase.starters, if_pos (hp.nullable rfl)]
      exact List.mem_append_right _ (ihq hw)
    | cons x v =>
      cases hw
      have hx := ihp rfl
      rw [Phrase.starters]
      split
      · exact List.mem_append_left _ hx
      · exact hx
  | altLeft _ ih => exact List.mem_append_left _ (ih hw)
  | altRight _ ih => exact List.mem_append_right _ (ih hw)
  | starNil => cases hw
  | @starCons p v w _ _ ihp ihq =>
    cases v with
    | nil => exact ihq hw
    | cons x v =>
      cases hw
      exact ihp rfl

end SyntaxChecker
