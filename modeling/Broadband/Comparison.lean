/-!
# Comparisons

Six comparisons appear in queries, on fields and on years, and again in the conditions of the
generated statements. Both sides spell them alike, so the symbol is part of the type.

Span's type of them is `ComparisonOperator`.
-/

namespace Broadband

/-- A comparison of two values. Span's `ComparisonOperator`. -/
inductive Comparison
  | eq
  | ne
  | gt
  | ge
  | lt
  | le
  deriving DecidableEq, Repr

namespace Comparison

/-- Every comparison. -/
def values : List Comparison := [.eq, .ne, .gt, .ge, .lt, .le]

/-- The symbol that stands for the comparison in queries and in statements. -/
def symbol : Comparison → String
  | .eq => "="
  | .ne => "!="
  | .gt => ">"
  | .ge => ">="
  | .lt => "<"
  | .le => "<="

/-- The comparison that a symbol stands for. Span's `from_symbol`. -/
def ofSymbol? (s : String) : Option Comparison :=
  values.find? fun op => op.symbol == s

/-- What the comparison says of two numbers. Span's `matches`. -/
def holds (op : Comparison) (a b : Int) : Bool :=
  match op with
  | .eq => a == b
  | .ne => a != b
  | .gt => a > b
  | .ge => a ≥ b
  | .lt => a < b
  | .le => a ≤ b

end Comparison

end Broadband
