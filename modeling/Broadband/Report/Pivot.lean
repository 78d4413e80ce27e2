import Broadband.Report.Coverage

/-!
# Coverage with the years side by side

Groups over several years are easier to compare in one row. The rows of the coverage result are
summed by group, each year into columns of its own; as a group has one row for each year, the sums
are that row's numbers. Such a report is always sorted by group.

This is Span's generator for `Strategy.Pivot`.
-/

namespace Broadband.Report

open Sql

/-- A number of the result for one year. -/
def ofYear (year : Int) (name : String) : Scalar :=
  .sum (.onlyIf (.compare ⟨none, "aar"⟩ .eq (.literal (.number year))) (column name))

/-- The columns for one year. Span's `year_columns`. -/
def yearColumns (figures : Figures) (year : Int) : List Item :=
  let covered := ofYear year "covered"
  let total := ofYear year "total"
  let named (value : Scalar) (name : String) : Item := .named value (name ++ "_" ++ toString year)
  (if figures.showsCount then [named covered "covered", named total "total"] else []) ++
    (if figures.showsPercent then [named (.percentage covered total) "percent"] else [])

/-- The columns for all years, in their order. -/
def pivotColumns (r : Report) : List Item := r.years.flatMap (yearColumns r.query.figures)

/-- One row for each group. -/
def pivotRows (r : Report) : Select Source where
  columns := .same ⟨none, "gruppe"⟩ :: r.pivotColumns
  source := .table ⟨"result", none⟩
  groupBy := [column "gruppe"]

/-- The report of coverage, one row for each group. -/
def pivot (r : Report) : Except Rejection Statement := do
  let tables ← r.coverageTables
  let limited : Select Source :=
    { r.pivotRows with orderBy := [r.groupOrder], limit := r.query.limit }
  if r.byCounty then
    let rows := if r.query.limit.isSome then limited else r.pivotRows
    let national : Select Source :=
      { columns := nationalGroup :: r.pivotColumns, source := .table ⟨"result", none⟩ }
    return {
      tables := tables ++
        [⟨"pivoted", .select rows⟩, ⟨"national", .select national⟩,
         ⟨"combined", .union ["pivoted", "national"]⟩]
      main :=
        { source := .table ⟨"combined", none⟩
          orderBy := [nationalLast, r.groupOrder] } }
  else
    return { tables, main := limited }

end Broadband.Report
