import Broadband.Query
import Broadband.Text.Quoted

/-!
# Conditions of a statement

Conditions are trees whose parentheses are part of them: `group` is a pair of parentheses and means
what is inside it, and `join` is written without any. The text of a condition therefore needs no
rules of precedence to be written, and reading it back by the usual ones (`NOT` before `AND` before
`OR`) gives the same tree as long as whoever built it has grouped what needs it.

A test of membership in a subquery is not a condition but a `Predicate`: it stands only at the top
of a `WHERE`, next to conditions.

Span writes conditions as texts from the start, in `write_expr`, `join_branches` and `parenthesize`;
here the text is `Condition.text` of the tree.
-/

namespace Broadband.Sql

/-! ## Columns and literals -/

/-- A column, of a table given by its short name or of the only table that has it. -/
structure Column where
  table : Option String := none
  name : String
  deriving DecidableEq, Repr

/-- The text of a column. Span's `qualify`. -/
def Column.text (c : Column) : String :=
  match c.table with
  | some table => table ++ "." ++ c.name
  | none => c.name

/-- A constant. -/
inductive Literal
  | number (n : Int)
  | text (s : String)
  | truth (b : Bool)
  deriving DecidableEq, Repr

/-- The text of a constant. Span's `value_to_sql`. -/
def Literal.render : Literal → String
  | .number n => toString n
  | .text s => Text.quoted s
  | .truth true => "true"
  | .truth false => "false"

/-- What a column is compared with. -/
inductive Operand
  | literal (literal : Literal)
  | column (column : Column)
  deriving DecidableEq, Repr

/-- The text of an operand. -/
def Operand.text : Operand → String
  | .literal l => l.render
  | .column c => c.text

/-! ## Conditions -/

/-- A condition on rows. -/
inductive Condition
  /-- A column of truth values. -/
  | truth (column : Column)
  /-- A comparison. -/
  | compare (left : Column) (op : Comparison) (right : Operand)
  /-- A column holds one of several constants. -/
  | oneOf (left : Column) (choices : List Literal)
  /-- A condition that the caller gives as text. -/
  | verbatim (text : String)
  /-- Two conditions joined, without parentheses. -/
  | join (op : Connective) (left right : Condition)
  /-- The opposite, without parentheses. -/
  | not (inner : Condition)
  /-- A condition in parentheses. -/
  | group (inner : Condition)
  deriving DecidableEq, Repr

namespace Condition

/-- The text of a condition. -/
def text : Condition → String
  | .truth c => c.text
  | .compare left op right => left.text ++ " " ++ op.symbol ++ " " ++ right.text
  | .oneOf left choices =>
    left.text ++ " IN (" ++ ", ".intercalate (choices.map Literal.render) ++ ")"
  | .verbatim s => s
  | .join op left right => left.text ++ " " ++ op.keyword ++ " " ++ right.text
  | .not inner => "NOT " ++ inner.text
  | .group inner => "(" ++ inner.text ++ ")"

/-- The condition in parentheses, of which it gets no second pair. Span's `parenthesize`, which
looks at the first and the last character of the text. -/
def grouped : Condition → Condition
  | .group inner => .group inner
  | c => .group c

/-- One or more conditions joined from the left; one alone stands as it is. Span's
`join_branches`. -/
def joinAll (op : Connective) (first : Condition) (rest : List Condition) : Condition :=
  if rest.isEmpty then first else .group (rest.foldl (.join op) first)

end Condition

/-! ## Predicates -/

/-- A table, possibly under a short name. -/
structure Table where
  name : String
  short : Option String := none
  deriving DecidableEq, Repr

/-- The text of a table where rows are taken from it. -/
def Table.text (t : Table) : String :=
  match t.short with
  | some short => t.name ++ " " ++ short
  | none => t.name

/-- One column of the rows of a table that meet every one of some conditions. -/
structure Subquery where
  column : Column
  table : Table
  conditions : List Condition
  deriving DecidableEq, Repr

/-- The text of a subquery. -/
def Subquery.text (s : Subquery) : String :=
  "SELECT " ++ s.column.text ++ " FROM " ++ s.table.text ++ " WHERE " ++
    " AND ".intercalate (s.conditions.map Condition.text)

/-- One of the conditions of a `WHERE`. -/
inductive Predicate
  /-- A condition on the row itself. -/
  | holds (condition : Condition)
  /-- The row's key is in the subquery. -/
  | within (key : Column) (subquery : Subquery)
  /-- The row's key is not in the subquery. -/
  | outside (key : Column) (subquery : Subquery)
  /-- The row's key is in every one of the subqueries. -/
  | withinEach (key : Column) (subqueries : List Subquery)
  deriving DecidableEq, Repr

/-- The text of a predicate. -/
def Predicate.text : Predicate → String
  | .holds c => c.text
  | .within key s => key.text ++ " IN (" ++ s.text ++ ")"
  | .outside key s => key.text ++ " NOT IN (" ++ s.text ++ ")"
  | .withinEach key ss =>
    key.text ++ " IN (\n  " ++ "\n  INTERSECT\n  ".intercalate (ss.map Subquery.text) ++ "\n)"

end Broadband.Sql
