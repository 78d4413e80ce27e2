import Broadband.Text.Lines

/-!
# The layout of a statement

How a statement is put together from the texts of its clauses: one clause to a line, and the named
tables in front, their bodies moved right. The layout neither knows nor checks what the texts say;
`Broadband.Sql.Statement` is where they come from.

In Span this is `Select`, with `union_all`, and `WithQuery`.
-/

namespace Broadband.Sql

/-! ## One `SELECT` -/

/-- The texts of the clauses of a `SELECT`. Span's `Select`. -/
structure Clauses where
  columns : List String := []
  source : String
  joins : List String := []
  filters : List String := []
  groupBy : List String := []
  orderBy : List String := []
  limit : Option Nat := none
  deriving DecidableEq, Repr

/-- A clause on a line of its own, left out when it has no items. -/
def clauseLine (keyword separator : String) (items : List String) : String :=
  if items.isEmpty then "" else "\n" ++ keyword ++ " " ++ separator.intercalate items

/-- The text of a `SELECT`; without columns it selects all of them. -/
def Clauses.text (c : Clauses) : String :=
  (if c.columns.isEmpty then "SELECT *" else "SELECT " ++ ", ".intercalate c.columns) ++
    "\nFROM " ++ c.source ++
    String.join (c.joins.map ("\n" ++ ·)) ++
    clauseLine "WHERE" " AND " c.filters ++
    clauseLine "GROUP BY" ", " c.groupBy ++
    clauseLine "ORDER BY" ", " c.orderBy ++
    clauseLine "LIMIT" "" (c.limit.toList.map toString)

/-- Several statements one after the other, their rows taken together. Span's `union_all`. -/
def unionAll (parts : List String) : String := "\nUNION ALL\n".intercalate parts

/-! ## Named tables -/

/-- The definitions of named tables, each a name and the text of a statement. Span's `WithQuery`. -/
def definitions : List (String × String) → String
  | [] => ""
  | [(name, body)] => name ++ " AS (\n" ++ Text.indent body ++ ")\n"
  | (name, body) :: rest => name ++ " AS (\n" ++ Text.indent body ++ "),\n" ++ definitions rest

/-- A statement with the named tables that it reads in front of it. Span's `WithQuery.finish`. -/
def withTables (tables : List (String × String)) (main : String) : String :=
  (if tables.isEmpty then "" else "WITH ") ++ definitions tables ++ main

end Broadband.Sql
