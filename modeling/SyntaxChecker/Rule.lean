/-!
# The rules of the grammar

The grammar has fifteen rules. This module names them and says how reports
speak of them; what they derive stands in `SyntaxChecker.Grammar`.

A rule has a *label*, which marks where it is entered and left, and an
*expectation*, which an error message gives as what was expected while the rule
was open. The two differ where naming the parts of a rule helps the reader more
than naming the rule.
-/

namespace SyntaxChecker

/-- A rule of the grammar. -/
inductive Rule where
  | statementPart
  | statementList
  | statement
  | assignmentStatement
  | ifStatement
  | whileStatement
  | procedureStatement
  | untilStatement
  | forStatement
  | argumentList
  | condition
  | conditionalOperator
  | expression
  | term
  | factor
  deriving DecidableEq, Repr

namespace Rule

/-- Every rule, in the order of the grammar. -/
def all : List Rule :=
  [statementPart, statementList, statement, assignmentStatement, ifStatement, whileStatement,
    procedureStatement, untilStatement, forStatement, argumentList, condition,
    conditionalOperator, expression, term, factor]

/-- The name of a rule in lists of rules. -/
def name : Rule → String
  | statementPart => "STATEMENT_PART"
  | statementList => "STATEMENT_LIST"
  | statement => "STATEMENT"
  | assignmentStatement => "ASSIGNMENT_STATEMENT"
  | ifStatement => "IF_STATEMENT"
  | whileStatement => "WHILE_STATEMENT"
  | procedureStatement => "PROCEDURE_STATEMENT"
  | untilStatement => "UNTIL_STATEMENT"
  | forStatement => "FOR_STATEMENT"
  | argumentList => "ARGUMENT_LIST"
  | condition => "CONDITION"
  | conditionalOperator => "CONDITIONAL_OPERATOR"
  | expression => "EXPRESSION"
  | term => "TERM"
  | factor => "FACTOR"

/-- The label that marks where a rule is entered and left. -/
def label : Rule → String
  | statementPart => "<statement part>"
  | statementList => "<statement list>"
  | statement => "<statement>"
  | assignmentStatement => "<assignment statement>"
  | ifStatement => "<if statement>"
  | whileStatement => "<while statement>"
  | procedureStatement => "<procedure statement>"
  | untilStatement => "<until statement>"
  | forStatement => "<for statement>"
  | argumentList => "<argument list>"
  | condition => "<condition>"
  | conditionalOperator => "<conditional operator>"
  | expression => "<expression>"
  | term => "<term>"
  | factor => "<factor>"

/-- What was expected, says a message, while the rule was open. -/
def expectation : Rule → String
  | statementPart => "<statement list> between 'begin' and 'end'"
  | statementList => "<statement list>"
  | statement => "<assignment>, <if>, <while>, <procedure>, <until>, or <for>"
  | assignmentStatement => "<expression> or string constant"
  | ifStatement => "<if statement>"
  | whileStatement => "<while statement>"
  | procedureStatement => "<procedure statement>"
  | untilStatement => "<until statement>"
  | forStatement => "<for statement>"
  | argumentList => "<argument list>"
  | condition => "<condition>"
  | conditionalOperator => "> , >= , = , /= , < or <="
  | expression => "<term>"
  | term => "<factor>"
  | factor => "identifier, number constant, or <expression>"

end Rule

end SyntaxChecker
