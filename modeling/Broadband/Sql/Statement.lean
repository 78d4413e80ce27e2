import Broadband.Dataset
import Broadband.Sql.Condition
import Broadband.Sql.Layout

/-!
# Statements

A statement is a list of named tables, each of which may read those before it, and a `SELECT` over
them. It is data until the very end: which files are read, which columns a table has and what is
filtered by can be read off it, and `Statement.text` is only its spelling.

Span keeps the texts of the clauses in a `Select` or a `WithQuery`; here they are trees, and their
texts are given to the layout.
-/

namespace Broadband.Sql

/-! ## Values computed from rows -/

/-- A value computed from a row or from a group of rows. -/
inductive Scalar
  | column (column : Column)
  | literal (literal : Literal)
  /-- The number of rows. -/
  | countRows
  | sum (inner : Scalar)
  | average (inner : Scalar)
  /-- The first of several that is not null. -/
  | coalesce (choices : List Operand)
  /-- A fraction as a percentage with one decimal. -/
  | percent (fraction : Scalar)
  /-- The percentage of a part in a whole, with one decimal. -/
  | percentage (part whole : Scalar)
  /-- A value for the rows that meet a condition, and null for others. -/
  | onlyIf (condition : Condition) (value : Scalar)
  /-- One of two values, by a condition. -/
  | ifElse (condition : Condition) (yes no : Scalar)
  /-- The rank of a group of rows among those that agree in some columns: the larger group first,
  and of two of a size the one whose column comes first. -/
  | sizeRank (among : List Column) (tie : Column)
  deriving DecidableEq, Repr

/-- The text of a value. -/
def Scalar.text : Scalar → String
  | .column c => c.text
  | .literal l => l.render
  | .countRows => "COUNT(*)"
  | .sum x => "SUM(" ++ x.text ++ ")"
  | .average x => "AVG(" ++ x.text ++ ")"
  | .coalesce choices => "COALESCE(" ++ ", ".intercalate (choices.map Operand.text) ++ ")"
  | .percent x => "ROUND(100.0 * " ++ x.text ++ ", 1)"
  | .percentage part whole => "ROUND(100.0 * " ++ part.text ++ " / " ++ whole.text ++ ", 1)"
  | .onlyIf c x => "CASE WHEN " ++ c.text ++ " THEN " ++ x.text ++ " END"
  | .ifElse c yes no =>
    "CASE WHEN " ++ c.text ++ " THEN " ++ yes.text ++ " ELSE " ++ no.text ++ " END"
  | .sizeRank among tie =>
    "ROW_NUMBER() OVER (PARTITION BY " ++ ", ".intercalate (among.map Column.text) ++
      " ORDER BY COUNT(*) DESC, " ++ tie.text ++ " ASC)"

/-- A column of the answer: a value, and its name where that is not the column's own. -/
structure Item where
  value : Scalar
  name : Option String := none
  deriving DecidableEq, Repr

namespace Item

/-- A column passed on under its own name. -/
def same (c : Column) : Item := ⟨.column c, none⟩

/-- A value under a name. -/
def named (value : Scalar) (name : String) : Item := ⟨value, some name⟩

/-- The text of a column of the answer. -/
def text (i : Item) : String :=
  match i.name with
  | some name => i.value.text ++ " AS " ++ name
  | none => i.value.text

end Item

/-- A value to sort by. -/
structure OrderKey where
  value : Scalar
  direction : Direction
  deriving DecidableEq, Repr

/-- The text of a value to sort by. -/
def OrderKey.text (k : OrderKey) : String := k.value.text ++ " " ++ k.direction.keyword

/-! ## Selections -/

/-- A second table whose rows are put beside those of the first where the conditions hold. -/
structure Join where
  /-- Rows without a partner are kept. -/
  outer : Bool
  table : Table
  conditions : List Condition
  deriving DecidableEq, Repr

/-- The text of a join. -/
def Join.text (j : Join) : String :=
  (if j.outer then "LEFT JOIN " else "JOIN ") ++ j.table.text ++ " ON " ++
    " AND ".intercalate (j.conditions.map Condition.text)

/-- A `SELECT` from sources of some type. No columns stands for all of them. -/
structure Select (Source : Type) where
  columns : List Item := []
  source : Source
  joins : List Join := []
  filters : List Predicate := []
  groupBy : List Scalar := []
  orderBy : List OrderKey := []
  limit : Option Nat := none
  deriving DecidableEq, Repr

/-- The text of a `SELECT`, given that of its source. -/
def Select.text {Source : Type} (sourceText : Source → String) (s : Select Source) : String :=
  Clauses.text {
    columns := s.columns.map Item.text
    source := sourceText s.source
    joins := s.joins.map Join.text
    filters := s.filters.map Predicate.text
    groupBy := s.groupBy.map Scalar.text
    orderBy := s.orderBy.map OrderKey.text
    limit := s.limit }

/-- Where a `SELECT` takes its rows from: a table, or the different rows of some of its columns. -/
inductive Source
  | table (table : Table)
  | distinct (columns : List Item) (table : Table) (short : String)
  deriving DecidableEq, Repr

/-- The text of a source. -/
def Source.text : Source → String
  | .table t => t.text
  | .distinct columns t short =>
    "(SELECT DISTINCT " ++ ", ".intercalate (columns.map Item.text) ++ " FROM " ++ t.text ++ ") " ++
      short

/-- The rows of another `SELECT`, under a short name. -/
structure Derived where
  inner : Select Source
  short : String
  deriving DecidableEq, Repr

/-- The text of a derived source, on lines of its own. -/
def Derived.text (d : Derived) : String :=
  "(\n" ++ Text.indent (d.inner.text Source.text) ++ ") " ++ d.short

/-! ## Named tables and statements -/

/-- The rows of one data file, tagged with their year. -/
structure YearFile where
  dataPath : String
  year : Int
  dataset : Dataset
  deriving DecidableEq, Repr

/-- The text that reads a data file. -/
def YearFile.text (f : YearFile) : String :=
  "SELECT *, " ++ toString f.year ++ " AS aar FROM " ++ f.dataset.source f.dataPath f.year

/-- What a named table holds. -/
inductive Body
  /-- The rows of data files. -/
  | files (files : List YearFile)
  /-- The rows of a `SELECT`. -/
  | select (select : Select Source)
  /-- The rows of a `SELECT` over another one. -/
  | nested (select : Select Derived)
  /-- All rows of several tables. -/
  | union (tables : List String)
  deriving DecidableEq, Repr

/-- The text of what a named table holds. -/
def Body.text : Body → String
  | .files fs => unionAll (fs.map YearFile.text)
  | .select s => s.text Source.text
  | .nested s => s.text Derived.text
  | .union tables => unionAll (tables.map ("SELECT * FROM " ++ ·))

/-- A named table. -/
structure Definition where
  name : String
  body : Body
  deriving DecidableEq, Repr

/-- A statement: named tables, and what is selected from them. -/
structure Statement where
  tables : List Definition
  main : Select Source
  deriving DecidableEq, Repr

/-- The text of a statement. -/
def Statement.text (s : Statement) : String :=
  withTables (s.tables.map fun d => (d.name, d.body.text)) (s.main.text Source.text)

end Broadband.Sql
