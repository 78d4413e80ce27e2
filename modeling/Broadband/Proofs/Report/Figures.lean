import Broadband.Proofs.Report.Columns
import Broadband.Proofs.Sql.Selections

/-!
# What the end of a report selects

Behind the result a statement has a few selections, none of which joins or filters anything: the groups,
all or the first of them; the rows for the whole country; groups and country with the years side by side;
and the columns that are shown. What they yield of any result is said here in terms of the rows of the
result, its different groups and years, and sums over some of its rows (`Query.figure`).
-/

namespace Broadband

open Sql

/-! ## Sums and orders of a result -/

namespace Query

/-- What rows are sorted by: the column that is asked for, and then the year. -/
def sortColumns (q : Query) (years : List Int) : List (Direction × String) :=
  (q.sorting.direction,
    match q.sorting.key with
    | .count => "covered"
    | .percent => "percent"
    | .group => "gruppe") ::
    if 1 < years.length then [(.asc, "aar")] else []

/-- The rows stand in an order that is asked for. -/
def Sorted (e : Engine) (q : Query) (years : List Int) (rows : List (List Datum)) : Prop :=
  rows.Pairwise fun a b => e.precedes ((q.sortColumns years).map fun k =>
    (k.1, (cell (resultColumns years) · k.2))) a b = true

/-- A figure for some rows of a result. Percentages are not summed up but taken of the sums. -/
def figure (e : Engine) (years : List Int) (rows : List (List Datum)) (name : String) : Datum :=
  let total (name : String) := Datum.sum (rows.map (cell (resultColumns years) · name))
  if name = "percent" then e.percentage (total "covered") (total "total") else total name

/-- The row for the whole country in one of several years. -/
def nationalYear (e : Engine) (years : List Int) (rows : List (List Datum)) (year : Datum) : List Datum :=
  .text nationalLabel :: year :: ["covered", "total", "percent"].map
    (figure e years (having (resultColumns years) "aar" year rows))

/-- The rows for the whole country: one, or one for each year that the result has. -/
def nationalRows (e : Engine) (years : List Int) (rows : List (List Datum)) : List (List Datum) :=
  if 1 < years.length then (valuesOf (resultColumns years) "aar" rows).map (nationalYear e years rows)
  else [.text nationalLabel :: ["covered", "total", "percent"].map (figure e years rows)]

/-- Some rows of a result in one row, with the years side by side. -/
def pivotedRow (e : Engine) (q : Query) (years : List Int) (label : Datum) (rows : List (List Datum)) :
    List Datum :=
  label :: years.flatMap fun (year : Int) => (Report.shownFigures q.figures).map
    (figure e years (having (resultColumns years) "aar" (.number year) rows))

end Query

namespace Report

open Query

variable {e : Engine} {db : Database} {r : Report} {c out : Content}

/-! ## Rows that are passed on -/

theorem on_column (columns : List String) (name : String) (d : Direction) :
    OrderKey.on e columns ⟨column name, d⟩ = (d, (cell columns · name)) :=
  Prod.ext rfl (funext fun _ => value_rowFrame)

theorem order_eq (r : Report) :
    r.order = (r.query.sortColumns r.years).map fun k => ⟨column k.2, k.1⟩ := by
  have hkey : ∀ key : SortKey, sortColumn key = match key with
      | .count => "covered"
      | .percent => "percent"
      | .group => "gruppe" := by
    intro key
    cases key <;> rfl
  rw [order, sortColumns, hkey, ifMultiYear]
  by_cases hmulti : r.multiYear = true
  · rw [if_pos hmulti, if_pos (of_decide_eq_true hmulti)]
    rfl
  · rw [if_neg hmulti, if_neg (mt (decide_eq_true (p := _)) hmulti)]
    rfl

theorem local_order (r : Report) : ∀ k ∈ r.order, k.value.Local := by
  rw [order_eq, List.forall_mem_map]
  exact fun k _ => Scalar.local_column k.2

theorem map_on_order (r : Report) (columns : List String) :
    r.order.map (·.on e columns)
      = (r.query.sortColumns r.years).map fun k => (k.1, (cell columns · k.2)) := by
  rw [order_eq, List.map_map]
  exact List.map_congr_left fun k _ => on_column columns k.2 k.1

theorem shownColumns_eq (r : Report) :
    r.shownColumns = (rowColumns r.years (shownFigures r.query.figures)).map fun name =>
      .same ⟨none, name⟩ := by
  rw [rowColumns_eq]
  rfl

theorem shown_yields_iff {short : String} {source : Source} {orderBy : List OrderKey} {limit : Option Nat}
    (hcolumns : c.columns = resultColumns r.years) (hlocal : ∀ k ∈ orderBy, k.value.Local) :
    Select.Yields e db (short, c)
        { columns := r.shownColumns, source, orderBy := orderBy, limit := limit } out ↔
      out.columns = rowColumns r.years (shownFigures r.query.figures) ∧
        ∃ rows : List (List Datum), rows.Perm c.rows ∧
          rows.Pairwise (fun a b =>
            e.precedes (orderBy.map (·.on e (resultColumns r.years))) a b = true) ∧
          out.rows = (cut limit rows).map fun row =>
            (rowColumns r.years (shownFigures r.query.figures)).map (cell (resultColumns r.years) row) := by
  have hplain : r.shownColumns.any (·.value.aggregates) = false := by
    rw [shownColumns_eq, List.any_map, List.any_eq_false]
    exact fun _ _ => Bool.false_ne_true
  have hpasses : Select.PassesOn
      { columns := r.shownColumns, source, orderBy := orderBy, limit := limit } :=
    ⟨rfl, rfl, rfl, hplain, hlocal⟩
  have hne : rowColumns r.years (shownFigures r.query.figures) ≠ [] := List.cons_ne_nil _ _
  rw [hpasses.yields_same_iff hne r.shownColumns_eq, hcolumns]

/-- The first groups, in an order that is asked for. -/
theorem topGroups_yields_iff (hcolumns : c.columns = resultColumns r.years) (n : Nat) :
    Select.Yields e db ("result", c)
        { source := Source.table ⟨"result", none⟩, orderBy := r.order, limit := some n } out ↔
      out.columns = resultColumns r.years ∧
        ∃ sorted : List (List Datum), sorted.Perm c.rows ∧ r.query.Sorted e r.years sorted ∧
          out.rows = cut (some n) sorted := by
  have hpasses : Select.PassesOn
      { source := Source.table ⟨"result", none⟩, orderBy := r.order, limit := some n } :=
    ⟨rfl, rfl, rfl, rfl, r.local_order⟩
  rw [hpasses.yields_all_iff rfl, hcolumns, map_on_order]
  rfl

/-! ## The whole country -/

section

variable {gs : List (List Frame)} {short : String} {years : List Int} {rows : List (List Datum)}

theorem value_sum_figure (name : String) (hname : name ≠ "percent") :
    Scalar.value e gs (rows.map (rowFrame short (resultColumns years))) (.sum (column name))
      = figure e years rows name := by
  rw [figure, if_neg hname]
  exact value_sum

theorem value_percentage_figure :
    Scalar.value e gs (rows.map (rowFrame short (resultColumns years)))
        (.percentage (.sum (column "covered")) (.sum (column "total")))
      = figure e years rows "percent" := by
  rw [Scalar.value, value_sum_figure "covered" (by decide), value_sum_figure "total" (by decide)]
  rfl

end

theorem labels_nationalRows (r : Report) (c : Content) :
    r.nationalRows.labels db ("result", c) = resultColumns r.years :=
  r.label_rows rfl rfl rfl

/-- What is listed of some rows apart from the group and the year. -/
theorem value_nationalFigures (gs : List (List Frame)) (years : List Int) (rows : List (List Datum)) :
    [Item.named (.sum (column "covered")) "covered", .named (.sum (column "total")) "total",
      .named (.percentage (.sum (column "covered")) (.sum (column "total"))) "percent"].map
        (·.value.value e gs (rows.map (rowFrame "result" (resultColumns years))))
      = ["covered", "total", "percent"].map (figure e years rows) := by
  simp only [List.map_cons, List.map_nil, Item.named, value_percentage_figure,
    value_sum_figure "covered" (by decide), value_sum_figure "total" (by decide)]

/-- In one year, the whole country is one row. -/
theorem nationalRows_yields_iff_of_single (hcolumns : c.columns = resultColumns r.years)
    (hsingle : ¬ r.multiYear = true) :
    r.nationalRows.Yields e db ("result", c) out ↔
      out.columns = resultColumns r.years ∧
        out.rows =
          [.text nationalLabel :: ["covered", "total", "percent"].map (figure e r.years c.rows)] := by
  have hlisted : r.nationalRows.columns = [nationalGroup, .named (.sum (column "covered")) "covered",
      .named (.sum (column "total")) "total",
      .named (.percentage (.sum (column "covered")) (.sum (column "total"))) "percent"] := by
    rw [nationalRows, ifMultiYear, if_neg hsingle]
    rfl
  have hgroupBy : r.nationalRows.groupBy = [] := if_neg hsingle
  rw [Select.yields_total_iff rfl rfl hgroupBy (hlisted ▸ rfl) rfl rfl ?_]
  · rw [labels_nationalRows]
  · intro gs
    rw [Select.output_of_cons hlisted, List.map_cons, hcolumns, value_nationalFigures]
    rfl

/-- In several years, the whole country has a row for each year that there is. -/
theorem nationalRows_yields_iff_of_multi (hcolumns : c.columns = resultColumns r.years)
    (hmulti : r.multiYear = true) :
    r.nationalRows.Yields e db ("result", c) out ↔
      out.columns = resultColumns r.years ∧
        out.rows.Perm
          ((valuesOf (resultColumns r.years) "aar" c.rows).map (nationalYear e r.years c.rows)) := by
  have hlisted : r.nationalRows.columns = [nationalGroup, .same ⟨none, "aar"⟩,
      .named (.sum (column "covered")) "covered", .named (.sum (column "total")) "total",
      .named (.percentage (.sum (column "covered")) (.sum (column "total"))) "percent"] := by
    rw [nationalRows, ifMultiYear, if_pos hmulti]
    rfl
  have hgroupBy : r.nationalRows.groupBy = [column "aar"] := if_pos hmulti
  have hshown : ∀ gs, ∀ year ∈ valuesOf c.columns "aar" c.rows,
      r.nationalRows.output e gs ((having c.columns "aar" year c.rows).map (rowFrame "result" c.columns))
        = nationalYear e r.years c.rows year := by
    intro gs year hyear
    rw [Select.output_of_cons hlisted, List.map_cons, List.map_cons, nationalYear, ← hcolumns]
    refine congrArg₂ _ rfl (congrArg₂ _ (value_having hyear) ?_)
    rw [hcolumns]
    exact value_nationalFigures _ _ _
  have hnames : ∀ year, ∀ y ∈ ((r.nationalRows.labels db ("result", c)).zip
      (nationalYear e r.years c.rows year)).lookup "aar", y = year := by
    intro year y hy
    have hcells : r.nationalRows.labels db ("result", c)
        = ["gruppe", "aar", "covered", "total", "percent"] := by
      rw [labels_nationalRows, resultColumns, rowColumns_eq, ifMultiYear, if_pos hmulti]
      rfl
    rw [hcells] at hy
    exact (Option.some.inj hy).symm
  rw [Select.yields_groups_iff rfl rfl hgroupBy (List.forall_mem_nil _) hshown hnames, labels_nationalRows,
    hcolumns]
  refine and_congr_right fun _ => ⟨?_, fun hrows => ?_⟩
  · -- the years are not sorted here, so they can come in any order
    rintro ⟨years, hperm, -, hrows⟩
    rw [hrows]
    exact hperm.map _
  · obtain ⟨years, hperm, hrows⟩ := exists_perm_map hrows
    exact ⟨years, hperm, List.pairwise_of_forall fun _ _ => rfl, hrows⟩

/-- The rows for the whole country are made of all rows of the result. -/
theorem nationalRows_yields_iff (hcolumns : c.columns = resultColumns r.years) :
    r.nationalRows.Yields e db ("result", c) out ↔
      out.columns = resultColumns r.years ∧ out.rows.Perm (Query.nationalRows e r.years c.rows) := by
  by_cases hmulti : r.multiYear = true
  · rw [nationalRows_yields_iff_of_multi hcolumns hmulti, Query.nationalRows,
      if_pos (of_decide_eq_true hmulti)]
  · rw [nationalRows_yields_iff_of_single hcolumns hmulti, Query.nationalRows,
      if_neg (mt (decide_eq_true (p := _)) hmulti), List.perm_singleton]

/-! ## Years side by side -/

theorem value_ofYear (gs : List (List Frame)) (years : List Int) (rows : List (List Datum)) (year : Int)
    (name : String) (hname : name ≠ "percent") :
    Scalar.value e gs (rows.map (rowFrame "result" (resultColumns years))) (ofYear year name)
      = figure e years (having (resultColumns years) "aar" (.number year) rows) name := by
  rw [figure, if_neg hname]
  exact value_sum_onlyIf

/-- The columns for a year hold its figures. -/
theorem value_yearColumns (gs : List (List Frame)) (years : List Int) (rows : List (List Datum))
    (figures : Figures) (year : Int) :
    (yearColumns figures year).map
        (·.value.value e gs (rows.map (rowFrame "result" (resultColumns years))))
      = (shownFigures figures).map
        (figure e years (having (resultColumns years) "aar" (.number year) rows)) := by
  have hcovered := value_ofYear (e := e) gs years rows year "covered" (by decide)
  have htotal := value_ofYear (e := e) gs years rows year "total" (by decide)
  have hpercent : Scalar.value e gs (rows.map (rowFrame "result" (resultColumns years)))
      (.percentage (ofYear year "covered") (ofYear year "total"))
        = figure e years (having (resultColumns years) "aar" (.number year) rows) "percent" := by
    rw [Scalar.value, hcovered, htotal]
    rfl
  cases figures with
  | count => exact congrArg₂ _ hcovered (congrArg₂ _ htotal rfl)
  | percent => exact congrArg₂ _ hpercent rfl
  | both => exact congrArg₂ _ hcovered (congrArg₂ _ htotal (congrArg₂ _ hpercent rfl))

theorem value_pivotColumns (r : Report) (gs : List (List Frame)) (rows : List (List Datum)) :
    r.pivotColumns.map (·.value.value e gs (rows.map (rowFrame "result" (resultColumns r.years))))
      = r.years.flatMap fun (year : Int) => (shownFigures r.query.figures).map
        (figure e r.years (having (resultColumns r.years) "aar" (.number year) rows)) := by
  rw [pivotColumns, List.map_flatMap]
  simp only [value_yearColumns]

/-- Groups have one row each. -/
theorem pivoted_yields_iff (hcolumns : c.columns = resultColumns r.years) (order : List OrderKey)
    (horder : ∀ k ∈ order, k = r.groupOrder) (limit : Option Nat) :
    ({ r.pivotRows with orderBy := order, limit := limit } : Select Source).Yields e db ("result", c) out ↔
      out.columns = r.query.pivotedColumns r.years ∧
        ∃ groups : List Datum, groups.Perm (valuesOf (resultColumns r.years) "gruppe" c.rows) ∧
          groups.Pairwise (fun a b => e.precedes (order.map fun k => (k.direction, id)) a b = true) ∧
          out.rows = (cut limit groups).map fun group => r.query.pivotedRow e r.years group
            (having (resultColumns r.years) "gruppe" group c.rows) := by
  have hlabels : ({ r.pivotRows with orderBy := order, limit := limit } : Select Source).labels db
      ("result", c) = r.query.pivotedColumns r.years := r.label_pivotColumns rfl
  have hshown : ∀ gs, ∀ group ∈ valuesOf c.columns "gruppe" c.rows,
      ({ r.pivotRows with orderBy := order, limit := limit } : Select Source).output e gs
        ((having c.columns "gruppe" group c.rows).map (rowFrame "result" c.columns))
          = r.query.pivotedRow e r.years group (having (resultColumns r.years) "gruppe" group c.rows) := by
    intro gs group hgroup
    rw [Select.output_of_cons rfl, List.map_cons, pivotedRow, ← value_pivotColumns, ← hcolumns]
    exact congrArg₂ _ (value_having hgroup) rfl
  have hnames : ∀ group, ∀ y ∈ (({ r.pivotRows with orderBy := order, limit := limit } :
      Select Source).labels db ("result", c) |>.zip (r.query.pivotedRow e r.years group
        (having (resultColumns r.years) "gruppe" group c.rows))).lookup "gruppe", y = group := by
    intro group y hy
    rw [hlabels] at hy
    exact (Option.some.inj hy).symm
  rw [Select.yields_groups_iff rfl rfl rfl (fun k hk => by rw [horder k hk]; rfl) hshown hnames, hlabels,
    hcolumns]

/-- The whole country is one row, which is made of all rows of the result. -/
theorem nationalPivot_yields_iff (hcolumns : c.columns = resultColumns r.years)
    (hyears : r.years ≠ []) :
    ({ columns := nationalGroup :: r.pivotColumns, source := .table ⟨"result", none⟩ } :
        Select Source).Yields e db ("result", c) out ↔
      out.columns = r.query.pivotedColumns r.years ∧
        out.rows = [r.query.pivotedRow e r.years (.text nationalLabel) c.rows] := by
  -- without a year there would be no sum, and then every row would stand for itself
  have hsums : (nationalGroup :: r.pivotColumns).any (·.value.aggregates) = true := by
    obtain ⟨year, years, hlist⟩ := List.exists_cons_of_ne_nil hyears
    rw [pivotColumns, hlist, List.flatMap_cons]
    cases r.query.figures <;> rfl
  rw [Select.yields_total_iff rfl rfl rfl hsums rfl rfl ?_]
  · exact and_congr_left' (Eq.to_iff (congrArg (out.columns = ·) (r.label_pivotColumns rfl)))
  · intro gs
    rw [Select.output_of_cons rfl, List.map_cons, hcolumns, value_pivotColumns]
    rfl

end Report

end Broadband
