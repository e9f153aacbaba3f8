/-!
# The terminal alphabet

A program is a sequence of tokens, and the grammar sees of each token only its
*symbol*. There are three open classes – identifiers, number constants and
string constants – whose members are spelled freely, the end of the input, and
a closed stock of keywords and operators, each with one fixed spelling.

The spellings live in two tables, `Symbol.keywords` and `Symbol.punctuation`,
and everything else about spelling is read from them. The operators are listed
longest spelling first, so that the first entry that matches an input is also
the longest one: `>=` is met before `>`, and `/=` before `/`.
-/

namespace SyntaxChecker

/-- The kind of a token: what the grammar sees of it. -/
inductive Symbol where
  | eof
  | identifier
  | numberConstant
  | stringConstant
  | kwBegin
  | kwEnd
  | kwIf
  | kwThen
  | kwElse
  | kwWhile
  | kwLoop
  | kwCall
  | kwDo
  | kwUntil
  | kwFor
  | becomes
  | semicolon
  | comma
  | leftParenthesis
  | rightParenthesis
  | plus
  | minus
  | times
  | divide
  | greaterThan
  | greaterEqual
  | equal
  | notEqual
  | lessThan
  | lessEqual
  deriving DecidableEq, Repr, Inhabited

namespace Symbol

/-! ## Names and codes -/

/-- Every symbol, by increasing code. -/
def all : List Symbol :=
  [eof, identifier, numberConstant, stringConstant,
    kwBegin, kwEnd, kwIf, kwThen, kwElse, kwWhile, kwLoop, kwCall, kwDo, kwUntil, kwFor,
    becomes, semicolon, comma, leftParenthesis, rightParenthesis,
    plus, minus, times, divide,
    greaterThan, greaterEqual, equal, notEqual, lessThan, lessEqual]

/-- The name under which a symbol appears in listings and traces. -/
def name : Symbol → String
  | eof => "EOF"
  | identifier => "IDENTIFIER"
  | numberConstant => "NUMBER_CONSTANT"
  | stringConstant => "STRING_CONSTANT"
  | kwBegin => "BEGIN"
  | kwEnd => "END"
  | kwIf => "IF"
  | kwThen => "THEN"
  | kwElse => "ELSE"
  | kwWhile => "WHILE"
  | kwLoop => "LOOP"
  | kwCall => "CALL"
  | kwDo => "DO"
  | kwUntil => "UNTIL"
  | kwFor => "FOR"
  | becomes => "BECOMES"
  | semicolon => "SEMICOLON"
  | comma => "COMMA"
  | leftParenthesis => "LEFT_PARENTHESIS"
  | rightParenthesis => "RIGHT_PARENTHESIS"
  | plus => "PLUS"
  | minus => "MINUS"
  | times => "TIMES"
  | divide => "DIVIDE"
  | greaterThan => "GREATER_THAN"
  | greaterEqual => "GREATER_EQUAL"
  | equal => "EQUAL"
  | notEqual => "NOT_EQUAL"
  | lessThan => "LESS_THAN"
  | lessEqual => "LESS_EQUAL"

/-- The number of a symbol. The tens digit tells its group: classes, keywords
(two decades), punctuation, arithmetic and conditional operators. -/
def code : Symbol → Nat
  | eof => 0
  | identifier => 1
  | numberConstant => 2
  | stringConstant => 3
  | kwBegin => 10
  | kwEnd => 11
  | kwIf => 12
  | kwThen => 13
  | kwElse => 14
  | kwWhile => 15
  | kwLoop => 16
  | kwCall => 17
  | kwDo => 18
  | kwUntil => 19
  | kwFor => 20
  | becomes => 30
  | semicolon => 31
  | comma => 32
  | leftParenthesis => 33
  | rightParenthesis => 34
  | plus => 40
  | minus => 41
  | times => 42
  | divide => 43
  | greaterThan => 50
  | greaterEqual => 51
  | equal => 52
  | notEqual => 53
  | lessThan => 54
  | lessEqual => 55

/-- The symbol of a given name. -/
def ofName? (n : String) : Option Symbol := all.find? (·.name == n)

/-- The symbol of a given code. -/
def ofCode? (n : Int) : Option Symbol := all.find? (fun s => (s.code : Int) == n)

theorem mem_all (s : Symbol) : s ∈ all := by cases s <;> decide

/-- **A name determines its symbol.** -/
theorem ofName?_name (s : Symbol) : ofName? s.name = some s := by cases s <;> decide

/-! ## Spellings -/

/-- The reserved words. -/
def keywords : List (String × Symbol) :=
  [("begin", kwBegin), ("end", kwEnd), ("if", kwIf), ("then", kwThen), ("else", kwElse),
    ("while", kwWhile), ("loop", kwLoop), ("call", kwCall), ("do", kwDo),
    ("until", kwUntil), ("for", kwFor)]

/-- The operators and separators, longest spelling first. -/
def punctuation : List (String × Symbol) :=
  [(":=", becomes), (">=", greaterEqual), ("/=", notEqual), ("<=", lessEqual),
    (";", semicolon), (",", comma), ("(", leftParenthesis), (")", rightParenthesis),
    ("+", plus), ("-", minus), ("*", times), ("/", divide),
    (">", greaterThan), ("=", equal), ("<", lessThan)]

/-- The keyword that is spelled exactly like this. -/
def ofKeyword? (text : String) : Option Symbol := keywords.lookup text

/-- The operator or separator that is spelled exactly like this. -/
def ofPunctuation? (text : String) : Option Symbol := punctuation.lookup text

/-- The fixed spelling of a symbol. The end of the input and the three open
classes have none. -/
def spelling? (s : Symbol) : Option String :=
  ((keywords ++ punctuation).find? (·.2 == s)).map (·.1)

/-- What a message calls a symbol: its spelling, or a description of its
class. -/
def displayName (s : Symbol) : String :=
  match s with
  | eof => "end of file"
  | identifier => "identifier"
  | numberConstant => "number constant"
  | stringConstant => "string constant"
  | s => s.spelling?.getD ""

/-! ## Operator classes -/

/-- The operators between the terms of an expression. -/
def addingOperators : List Symbol := [plus, minus]

/-- The operators between the factors of a term. -/
def multiplyingOperators : List Symbol := [times, divide]

/-- The operators between the two sides of a condition. -/
def conditionalOperators : List Symbol :=
  [greaterThan, greaterEqual, equal, notEqual, lessThan, lessEqual]

end Symbol

end SyntaxChecker
