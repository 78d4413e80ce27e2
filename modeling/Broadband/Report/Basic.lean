import Broadband.Query.Resolved
import Broadband.Report.Requirement

/-!
# What all reports share

A report is the statement that answers a resolved query. Whatever is counted, the rows end up in a
table named `result` with the group, the year where there are several, the covered and the total
number and the percentage. The clauses `SHOW`, `SORT` and `TOP` are then the same for all, and so is
the row for the whole country that closes a report by county: it sums up all counties, also those
that `TOP` leaves out, and stays last however the others are sorted.

Span's generators share a `Context`, which is a `Report` here, and end in its `finish_result`.
-/

namespace Broadband

open Sql

/-- A resolved query together with the directory of the data. Span's `Context`. -/
structure Report extends Resolved where
  dataPath : String
  deriving DecidableEq, Repr

namespace Report

/-! ## Years -/

/-- Something that a report has only if it spans several years. -/
def ifMultiYear {α : Type} (r : Report) (x : α) : List α := if r.multiYear then [x] else []

/-- The report is by county. -/
def byCounty (r : Report) : Bool := r.query.grouping = .county

/-- The rows of datasets for every year, tagged with their year. Span's `Context.source`. -/
def files (r : Report) (datasets : List Dataset) : Body :=
  .files (r.years.flatMap fun year => datasets.map fun d => ⟨r.dataPath, year, d⟩)

/-- The condition that a row is of one of the years. Span's `year_filter`. -/
def yearCondition (r : Report) (qualifier : Option String) : Condition :=
  match r.years with
  | [year] => .compare ⟨qualifier, "aar"⟩ .eq (.literal (.number year))
  | years => .oneOf ⟨qualifier, "aar"⟩ (years.map .number)

/-! ## Columns and order of the result -/

/-- A column of the table in view. -/
def column (name : String) : Scalar := .column ⟨none, name⟩

/-- The column that a sort key stands for. -/
def sortColumn : SortKey → String
  | .count => "covered"
  | .percent => "percent"
  | .group => "gruppe"

/-- The order of the rows. Span's `order_keys`. -/
def order (r : Report) : List OrderKey :=
  ⟨column (sortColumn r.query.sorting.key), r.query.sorting.direction⟩ ::
    r.ifMultiYear ⟨column "aar", .asc⟩

/-- The order by group alone. -/
def groupOrder (r : Report) : OrderKey := ⟨column "gruppe", r.query.sorting.direction⟩

/-- The figures that are shown. -/
def shownFigures : Figures → List String
  | .count => ["covered", "total"]
  | .percent => ["percent"]
  | .both => ["covered", "total", "percent"]

/-- The columns that are shown. Span's `output_columns`. -/
def shownColumns (r : Report) : List Item :=
  ("gruppe" :: (r.ifMultiYear "aar" ++ shownFigures r.query.figures)).map fun name =>
    .same ⟨none, name⟩

/-! ## The row for the whole country -/

/-- Sorts the row for the whole country after all others. Span's `national_last`. -/
def nationalLast : OrderKey :=
  ⟨.ifElse (.compare ⟨none, "gruppe"⟩ .eq (.literal (.text nationalLabel)))
    (.literal (.number 1)) (.literal (.number 0)), .asc⟩

/-- The label of the row for the whole country. -/
def nationalGroup : Item := .named (.literal (.text nationalLabel)) "gruppe"

/-- The sums over all rows of the result, for each year. -/
def nationalRows (r : Report) : Select Source :=
  let covered := Scalar.sum (column "covered")
  let total := Scalar.sum (column "total")
  { columns := nationalGroup :: (r.ifMultiYear (.same ⟨none, "aar"⟩) ++
      [.named covered "covered", .named total "total",
       .named (.percentage covered total) "percent"])
    source := .table ⟨"result", none⟩
    groupBy := r.ifMultiYear (column "aar") }

/-! ## The end of a report -/

/-- A report whose rows are those of the table `result`, defined among the given tables. Span's
`finish_result`. -/
def ofResult (r : Report) (tables : List Definition) : Statement :=
  let result : Source := .table ⟨"result", none⟩
  if r.byCounty then
    let (groups, top) : String × List Definition :=
      match r.query.limit with
      | none => ("result", [])
      | some n =>
        ("top_groups",
          [⟨"top_groups", .select { source := result, orderBy := r.order, limit := some n }⟩])
    { tables := tables ++ top ++
        [⟨"national", .select r.nationalRows⟩, ⟨"combined", .union [groups, "national"]⟩]
      main :=
        { columns := r.shownColumns
          source := .table ⟨"combined", none⟩
          orderBy := nationalLast :: r.order } }
  else
    { tables
      main :=
        { columns := r.shownColumns
          source := result
          orderBy := r.order
          limit := r.query.limit } }

end Report

end Broadband
