import Broadband.Comparison
import Broadband.Vocabulary

/-!
# Queries

A query asks how much of a population has something. `HAS` says what it has to have, `IN` narrows
the population, `COUNT` says what is counted, and the remaining clauses choose the rows of the
answer, their figures, their order, their number and the years. A query is a value of this type
whether it was read from text or built by a caller; only the second kind can lack a requirement,
hold negated leaves or quantify over nothing.

This is Span's `SpanQuery` and what it consists of: a `Requirement` is a `HasClause` there, a
`Criterion` an `Expr`, a `Filter` an `InFilter`, a `Sorting` a `SortClause` and a `Period` a
`ForClause`.
-/

namespace Broadband

/-! ## Criteria -/

/-- What a field is compared with. -/
inductive Value
  | number (n : Int)
  | text (s : String)
  deriving DecidableEq, Repr

/-- How a value is named in a message. -/
def Value.describe : Value → String
  | .number n => toString n
  | .text s => "\"" ++ s ++ "\""

/-- How two criteria are joined. Span's `BinaryOperator`. -/
inductive Connective
  | and
  | or
  deriving DecidableEq, Repr

/-- The word for the connective, in queries and in statements. -/
def Connective.keyword : Connective → String
  | .and => "AND"
  | .or => "OR"

/-- A criterion that a coverage row or a subscription meets or fails. A leaf may carry its negation
itself, which means the same as a `not` around it. Span's `Expr`. -/
inductive Criterion
  | technology (technology : Technology) (negated : Bool)
  | compare (field : Field) (op : Comparison) (value : Value) (negated : Bool)
  | join (op : Connective) (left right : Criterion)
  | not (inner : Criterion)
  deriving DecidableEq, Repr

/-! ## Clauses -/

/-- How many of several criteria have to be met. -/
inductive Quantifier
  | any
  | all
  | none
  deriving DecidableEq, Repr

/-- The `HAS` clause: one criterion, or several under a quantifier. Span's `HasClause`. -/
inductive Requirement
  | single (criterion : Criterion)
  | quantified (quantifier : Quantifier) (criteria : List Criterion)
  deriving DecidableEq, Repr

/-- One restriction of the `IN` clause. Span's `InFilter`. -/
inductive Filter
  | segment (segment : Segment)
  | compare (field : Field) (op : Comparison) (value : Value)
  deriving DecidableEq, Repr

/-- The `SORT` clause. Span's `SortClause`. -/
structure Sorting where
  key : SortKey := .group
  direction : Direction := .asc
  deriving DecidableEq, Repr

/-- The `FOR` clause: the years themselves, or a comparison that they have to meet. Span's
`ForClause`. -/
inductive Period
  | years (years : List Int)
  | compare (op : Comparison) (year : Int)
  deriving DecidableEq, Repr

/-! ## The query -/

/-- A query; a clause that is not written has its default. Span's `SpanQuery`. -/
structure Query where
  requirement : Option Requirement := none
  filters : List Filter := []
  metric : Metric
  grouping : Grouping := .national
  figures : Figures := .both
  sorting : Sorting := {}
  limit : Option Nat := none
  period : Option Period := none
  deriving DecidableEq, Repr

end Broadband
