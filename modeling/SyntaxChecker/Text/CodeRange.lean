/-!
# Sets of code points

A Unicode property is a set of code points, and it is written down as the list
of its runs: first and last member of each.
-/

namespace SyntaxChecker.Text

/-- A run of code points, given by its first and its last member. -/
abbrev CodeRange := Nat × Nat

namespace CodeRange

/-- Whether one of the runs holds the code point. -/
def covers (ranges : List CodeRange) (n : Nat) : Bool :=
  ranges.any fun r => r.1 ≤ n && n ≤ r.2

end CodeRange

end SyntaxChecker.Text
