import Broadband.Proofs.Report.National
import Mathlib.Data.List.ProdSigma

/-!
# Years side by side

Where a report puts the years side by side, a group has a single row, and what stood in its row for a year
stands in columns of that year instead. Each of these is written as a sum over the rows of the group that are
of the year. If there is at most one such row, the sum is what the row has, or null: so the columns hold the
entries of the table (`Query.entry`) and nothing else, and none of them is lost, as long as every row is of one
of the years. The names of the columns are put together from a figure and a year and do not clash, because
no figure and no year has an underscore in it.
-/

namespace Broadband

open Checks Sql

/-! ## Sums over single rows -/

namespace Sql

/-- What a column of numbers may hold. -/
def Datum.isNumeric : Datum → Bool
  | .null | .number _ => true
  | .text _ | .truth _ => false

theorem Datum.sum_singleton {x : Datum} (h : x.isNumeric = true) : Datum.sum [x] = x := by
  cases x with
  | null => rfl
  | number n => exact congrArg Datum.number List.sum_singleton
  | text s => cases h
  | truth b => cases h

/-- If no two elements have a property, those that have it are the first one or none. -/
theorem filter_eq_toList_find? {α : Type} {p : α → Bool} {xs : List α}
    (h : xs.Pairwise fun a b => p a = true → p b = false) : xs.filter p = (xs.find? p).toList := by
  induction xs with
  | nil => rfl
  | cons x xs ih =>
    obtain ⟨hx, hxs⟩ := List.pairwise_cons.1 h
    by_cases hp : p x = true
    · have hrest : xs.filter p = [] := by
        rw [List.filter_eq_nil_iff]
        intro y hy
        rw [hx y hy hp]
        exact Bool.false_ne_true
      rw [List.filter_cons_of_pos hp, List.find?_cons_of_pos hp, hrest]
      rfl
    · rw [List.filter_cons_of_neg hp, List.find?_cons_of_neg hp, ih hxs]

/-- What is listed under different names is found under them. -/
theorem lookup_zip_of_nodup {ι : Type} {key : ι → String} {value : ι → Datum} {xs : List ι}
    (h : (xs.map key).Nodup) {x : ι} (hx : x ∈ xs) :
    ((xs.map key).zip (xs.map value)).lookup (key x) = some (value x) := by
  induction xs with
  | nil => exact absurd hx List.not_mem_nil
  | cons y ys ih =>
    rw [List.map_cons, List.nodup_cons] at h
    rw [List.map_cons, List.map_cons, List.zip_cons_cons, List.lookup_cons]
    rcases List.mem_cons.1 hx with rfl | hx
    · rw [beq_self_eq_true]
    · have hne : key x ≠ key y := by
        intro heq
        exact h.1 (heq ▸ List.mem_map_of_mem hx)
      rw [beq_eq_false_iff_ne.2 hne]
      exact ih h.2 hx

end Sql

namespace Query

/-! ## Entries of a result -/

/-- A figure in the row for a group and a year; null if there is no such row. -/
def entry (years : List Int) (rows : List (List Datum)) (group : Datum) (year : Int) (name : String) :
    Datum :=
  ((rows.find? fun row => cell (resultColumns years) row "gruppe" = group ∧
    cell (resultColumns years) row "aar" = .number year).map (cell (resultColumns years) · name)).getD .null

/-- A figure in the columns of a year: an entry, or the percentage that two entries make. -/
def shownEntry (e : Engine) (years : List Int) (rows : List (List Datum)) (group : Datum) (year : Int)
    (name : String) : Datum :=
  if name = "percent" then
    e.percentage (entry years rows group year "covered") (entry years rows group year "total")
  else entry years rows group year name

section

variable {e : Engine} {years : List Int} {rows : List (List Datum)}

/-- No two rows are for the same group and year. -/
def OneRowEach (years : List Int) (rows : List (List Datum)) : Prop :=
  (rows.map fun row =>
    (cell (resultColumns years) row "gruppe", cell (resultColumns years) row "aar")).Nodup

/-- The rows for a group and a year are one row or none. -/
theorem having_having (h : OneRowEach years rows) (group : Datum) (year : Int) :
    having (resultColumns years) "aar" (.number year) (having (resultColumns years) "gruppe" group rows)
      = (rows.find? fun row => cell (resultColumns years) row "gruppe" = group ∧
          cell (resultColumns years) row "aar" = .number year).toList := by
  rw [having, having, List.filter_filter, ← filter_eq_toList_find?]
  · refine List.filter_congr fun row _ => ?_
    rw [Bool.decide_and, Bool.and_comm]
  · unfold OneRowEach at h
    rw [List.Nodup, List.pairwise_map] at h
    refine h.imp fun {a b} hne => ?_
    simp only [decide_eq_true_eq, decide_eq_false_iff_not]
    rintro ⟨hgroup, hyear⟩ ⟨hgroup', hyear'⟩
    exact hne (by rw [hgroup, hyear, hgroup', hyear'])

variable (hone : OneRowEach years rows)
  (hnumeric : ∀ row ∈ rows, ∀ name ∈ ["covered", "total"],
    (cell (resultColumns years) row name).isNumeric = true)

include hone hnumeric

/-- The sum over the rows for a group and a year is the entry. -/
theorem sum_having_having (group : Datum) (year : Int) {name : String} (hname : name ∈ ["covered", "total"]) :
    Datum.sum ((having (resultColumns years) "aar" (.number year)
      (having (resultColumns years) "gruppe" group rows)).map (cell (resultColumns years) · name))
        = entry years rows group year name := by
  rw [having_having hone, entry]
  cases hfind : rows.find? fun row => cell (resultColumns years) row "gruppe" = group ∧
      cell (resultColumns years) row "aar" = .number year with
  | none => rfl
  | some row => exact Datum.sum_singleton (hnumeric row (List.mem_of_find?_eq_some hfind) name hname)

theorem figure_eq_shownEntry (group : Datum) (year : Int) {name : String}
    (hname : name ∈ ["covered", "total", "percent"]) :
    figure e years (having (resultColumns years) "aar" (.number year)
      (having (resultColumns years) "gruppe" group rows)) name = shownEntry e years rows group year name := by
  have hsum : ∀ name ∈ ["covered", "total"], _ = entry years rows group year name :=
    fun name hname => sum_having_having hone hnumeric group year hname
  simp only [figure, shownEntry, hsum "covered" (by decide), hsum "total" (by decide)]
  by_cases hpercent : name = "percent"
  · rw [if_pos hpercent, if_pos hpercent]
  · rw [if_neg hpercent, if_neg hpercent]
    refine hsum name ?_
    simpa [hpercent] using hname

end

/-! ## The names of the columns -/

/-- The name of the column for a figure of a year. -/
def yearColumn (c : Int × String) : String := c.2 ++ "_" ++ toString c.1

theorem toList_yearColumn (c : Int × String) :
    (yearColumn c).toList = c.2.toList ++ '_' :: (toString c.1).toList := by
  rw [yearColumn, String.toList_append, String.toList_append, List.append_assoc]
  rfl

theorem underscore_notMem_toString (year : Int) : '_' ∉ (toString year).toList := by
  intro hmem
  rcases Text.isDigit_of_mem_toString_int hmem with h | h
  · cases h
  · exact absurd h (by decide)

theorem map_product {α β γ : Type} (f : α × β → γ) (xs : List α) (ys : List β) :
    (xs ×ˢ ys).map f = xs.flatMap fun x => ys.map fun y => f (x, y) := by
  have hproduct : xs ×ˢ ys = xs.flatMap fun x => ys.map (Prod.mk x) := rfl
  rw [hproduct, List.map_flatMap]
  simp only [List.map_map, Function.comp_def]

theorem pivotedColumns_eq (q : Query) (years : List Int) :
    q.pivotedColumns years = "gruppe" :: (years ×ˢ Report.shownFigures q.figures).map yearColumn := by
  rw [map_product]
  rfl

theorem nodup_shownFigures (figures : Figures) : (Report.shownFigures figures).Nodup := by
  cases figures <;> decide

/-- Columns for different figures or years have different names. -/
theorem nodup_pivotedColumns (q : Query) {years : List Int} (hyears : years.Pairwise (· < ·)) :
    (q.pivotedColumns years).Nodup := by
  have hplain : ∀ name ∈ Report.shownFigures q.figures, '_' ∉ name.toList := by
    cases q.figures <;> decide
  rw [pivotedColumns_eq, List.nodup_cons]
  constructor
  · intro hmem
    obtain ⟨c, -, hc⟩ := List.mem_map.1 hmem
    have hunderscore : '_' ∈ (yearColumn c).toList := by simp [toList_yearColumn]
    rw [hc] at hunderscore
    exact absurd hunderscore (by decide)
  · have hnodup := List.Nodup.product (hyears.imp ne_of_lt) (nodup_shownFigures q.figures)
    refine hnodup.map_on ?_
    rintro ⟨year, name⟩ hc ⟨year', name'⟩ - heq
    have hlists := congrArg String.toList heq
    rw [toList_yearColumn, toList_yearColumn, List.append_cons_inj_of_notMem
      (hplain name (List.mem_product.1 hc).2) (underscore_notMem_toString year)] at hlists
    obtain ⟨hname, -, hyear⟩ := hlists
    have hinteger := congrArg Text.integer? (String.toList_inj.1 hyear)
    rw [Text.integer?_toString, Text.integer?_toString] at hinteger
    exact Prod.ext (Option.some.inj hinteger) (String.toList_inj.1 hname)

/-- Under the name for a figure and a year a row has that figure of the rows of the year. -/
theorem cell_yearColumn (e : Engine) (q : Query) {years : List Int} (hyears : years.Pairwise (· < ·))
    (label : Datum) (rows : List (List Datum)) {year : Int} (hyear : year ∈ years) {name : String}
    (hname : name ∈ Report.shownFigures q.figures) :
    cell (q.pivotedColumns years) (q.pivotedRow e years label rows) (yearColumn (year, name))
      = figure e years (having (resultColumns years) "aar" (.number year) rows) name := by
  have hnodup := q.nodup_pivotedColumns hyears
  have hrow : q.pivotedRow e years label rows = label :: (years ×ˢ Report.shownFigures q.figures).map
      fun c => figure e years (having (resultColumns years) "aar" (.number c.1) rows) c.2 := by
    rw [map_product]
    rfl
  have hmem : (year, name) ∈ years ×ˢ Report.shownFigures q.figures := List.mem_product.2 ⟨hyear, hname⟩
  rw [pivotedColumns_eq, List.nodup_cons] at hnodup
  have hne : yearColumn (year, name) ≠ "gruppe" := fun heq => hnodup.1 (heq ▸ List.mem_map_of_mem hmem)
  rw [cell, pivotedColumns_eq, hrow, List.zip_cons_cons, List.lookup_cons, beq_eq_false_iff_ne.2 hne]
  simp only [lookup_zip_of_nodup hnodup.2 hmem, Option.getD_some]

/-! ## The pivoted rows -/

/-- A table has the years of a result side by side. -/
structure SideBySide (e : Engine) (q : Query) (years : List Int) (result out : Content) : Prop where
  ascending : years.Pairwise (· < ·)
  /-- The columns are the group and, year by year, what is to be shown. -/
  columns : out.columns = "gruppe" :: years.flatMap fun year =>
    (Report.shownFigures q.figures).map fun name => yearColumn (year, name)
  distinct : out.columns.Nodup
  /-- The groups are those of the result. -/
  groups : ∀ group, group ∈ out.rows.map (cell out.columns · "gruppe") ↔
    group ∈ result.rows.map (cell (resultColumns years) · "gruppe")
  /-- No group has two rows. -/
  once : (out.rows.map (cell out.columns · "gruppe")).Nodup
  /-- The columns of a year hold the entries of the group for that year. -/
  cells : ∀ row ∈ out.rows, ∀ year ∈ years, ∀ name ∈ Report.shownFigures q.figures,
    cell out.columns row (yearColumn (year, name))
      = shownEntry e years result.rows (cell out.columns row "gruppe") year name
  /-- Every row of the result is found again. -/
  kept : ∀ row ∈ result.rows, ∃ year ∈ years, ∃ shown ∈ out.rows,
    cell (resultColumns years) row "aar" = .number year ∧
    cell out.columns shown "gruppe" = cell (resultColumns years) row "gruppe" ∧
    ∀ name ∈ ["covered", "total"], name ∈ Report.shownFigures q.figures →
      cell out.columns shown (yearColumn (year, name)) = cell (resultColumns years) row name

/-- The entry for the group and the year of a row is what the row has. -/
theorem entry_of_mem {years : List Int} {rows : List (List Datum)} (hone : OneRowEach years rows)
    {row : List Datum} (hrow : row ∈ rows) {year : Int}
    (hyear : cell (resultColumns years) row "aar" = .number year) (name : String) :
    entry years rows (cell (resultColumns years) row "gruppe") year name
      = cell (resultColumns years) row name := by
  have hmem : row ∈ having (resultColumns years) "aar" (.number year)
      (having (resultColumns years) "gruppe" (cell (resultColumns years) row "gruppe") rows) :=
    List.mem_filter.2 ⟨List.mem_filter.2 ⟨hrow, decide_eq_true rfl⟩, decide_eq_true hyear⟩
  rw [having_having hone, Option.mem_toList] at hmem
  rw [entry, Option.mem_def.1 hmem]
  rfl

section

variable {e : Engine} {q : Query} {years : List Int} {result out : Content}

/-- Rows made of the different groups of a result have its years side by side. -/
theorem sideBySide_of_groups (hyears : years.Pairwise (· < ·))
    (hknown : ∀ row ∈ result.rows, ∃ year ∈ years, cell (resultColumns years) row "aar" = .number year)
    (hone : OneRowEach years result.rows)
    (hnumeric : ∀ row ∈ result.rows, ∀ name ∈ ["covered", "total"],
      (cell (resultColumns years) row name).isNumeric = true)
    (hcolumns : out.columns = q.pivotedColumns years) {groups : List Datum}
    (hgroups : groups.Perm (valuesOf (resultColumns years) "gruppe" result.rows))
    (hrows : out.rows = groups.map fun group => q.pivotedRow e years group
      (having (resultColumns years) "gruppe" group result.rows)) : q.SideBySide e years result out := by
  have hlabels : out.rows.map (cell out.columns · "gruppe") = groups := by
    rw [hrows, hcolumns, List.map_map]
    exact List.map_id groups
  have hmem : ∀ group, group ∈ groups ↔ group ∈ result.rows.map (cell (resultColumns years) · "gruppe") := by
    intro group
    rw [hgroups.mem_iff, valuesOf, List.mem_dedup]
  have hcell : ∀ group, ∀ year ∈ years, ∀ name ∈ Report.shownFigures q.figures,
      cell out.columns (q.pivotedRow e years group (having (resultColumns years) "gruppe" group result.rows))
        (yearColumn (year, name)) = shownEntry e years result.rows group year name := by
    intro group year hyear name hname
    rw [hcolumns, cell_yearColumn e q hyears group _ hyear hname]
    exact figure_eq_shownEntry hone hnumeric group year (Report.shownFigures_subset q.figures name hname)
  refine ⟨hyears, hcolumns, hcolumns ▸ q.nodup_pivotedColumns hyears, fun group => ?_, ?_, ?_, ?_⟩
  · rw [hlabels]
    exact hmem group
  · rw [hlabels, hgroups.nodup_iff]
    exact List.nodup_dedup _
  · rw [hrows, List.forall_mem_map]
    intro group _ year hyear name hname
    rw [hcell group year hyear name hname, hcolumns]
    rfl
  · intro row hrow
    obtain ⟨year, hyear, haar⟩ := hknown row hrow
    have hgroup := (hmem _).2 (List.mem_map_of_mem hrow)
    refine ⟨year, hyear, _, hrows ▸ List.mem_map_of_mem hgroup, haar, by rw [hcolumns]; rfl, ?_⟩
    intro name hname hshown
    have hpercent : name ≠ "percent" := by
      rintro rfl
      exact absurd hname (by decide)
    rw [hcell _ year hyear name hshown, shownEntry, if_neg hpercent, entry_of_mem hone hrow haar]

end

end Query

/-! ## The main statement -/

/-- The selection of a statement that puts the years side by side: a table of its own if counties are
followed by the whole country, and else the last selection. -/
def Query.Pivots (q : Query) (s : Statement) (p : Select Source) : Prop :=
  if q.grouping = .county then ⟨"pivoted", .select p⟩ ∈ s.tables else s.main = p

/-- The rows are those of the groups, sorted by group if at all. -/
theorem Report.exists_pivots {r : Report} {s : Statement} (h : r.pivot = .ok s) :
    ∃ order : List OrderKey, (∀ k ∈ order, k = r.groupOrder) ∧
      r.query.Pivots s { r.pivotRows with orderBy := order, limit := r.query.limit } := by
  obtain ⟨tables, -, h⟩ := bind_eq_ok_iff.1 h
  unfold Query.Pivots
  by_cases hcounty : r.query.grouping = .county
  · have hbyCounty : r.byCounty = true := decide_eq_true hcounty
    rw [if_pos hbyCounty] at h
    obtain rfl := pure_eq_ok_iff.1 h
    simp only [if_pos hcounty]
    cases hlimit : r.query.limit with
    | none =>
      refine ⟨[], List.forall_mem_nil _, List.mem_append_right _ ?_⟩
      rw [Option.isSome_none, if_neg Bool.false_ne_true]
      exact List.mem_cons_self
    | some n =>
      refine ⟨[r.groupOrder], by simp, List.mem_append_right _ ?_⟩
      rw [Option.isSome_some, if_pos rfl]
      exact List.mem_cons_self
  · have hbyCounty : ¬ r.byCounty = true := mt of_decide_eq_true hcounty
    rw [if_neg hbyCounty] at h
    obtain rfl := pure_eq_ok_iff.1 h
    simp only [if_neg hcounty]
    exact ⟨[r.groupOrder], by simp, rfl⟩

/-- **Pivoting loses and invents nothing.** Take any query whose years are put side by side, and any table in
the place of the result with at most one row for a group and a year, all of them of the years of the query, and
numbers or nulls for figures. The selection that pivots has answers, and all of them, before the limit is put
to them, have the years of the table side by side: its groups, a row each; for each year, in ascending order,
the columns that are asked for, with different names; in them what the row for the group and the year has,
null if there is none, and the percentage of just these two numbers. The limit then cuts such an answer. -/
theorem Query.toSql_sideBySide {q : Query} {o : Options} {sql : String} (h : q.toSql o = .ok sql)
    {r : Resolved} (hresolve : q.resolve o.year = .ok r) (hstrategy : r.strategy = .pivot) (e : Engine)
    (db : Database) {result : Content} (hresult : db.lookup "result" = some result)
    (hcolumns : result.columns = resultColumns r.years)
    (hknown : ∀ row ∈ result.rows, ∃ year ∈ r.years,
      cell (resultColumns r.years) row "aar" = .number year)
    (hone : OneRowEach r.years result.rows)
    (hnumeric : ∀ row ∈ result.rows, ∀ name ∈ ["covered", "total"],
      (cell (resultColumns r.years) row name).isNumeric = true) :
    ∃ (s : Statement) (p : Select Source), q.statement o = .ok s ∧ s.text = sql ∧ q.Pivots s p ∧
      (∃ all, ({ p with limit := none } : Select Source).Yields e db (p.source.content e db) all) ∧
      (∀ all, ({ p with limit := none } : Select Source).Yields e db (p.source.content e db) all →
        q.SideBySide e r.years result all) ∧
      ∀ out, p.Yields e db (p.source.content e db) out ↔
        ∃ all, ({ p with limit := none } : Select Source).Yields e db (p.source.content e db) all ∧
          out.columns = all.columns ∧ out.rows = cut q.limit all.rows := by
  obtain ⟨s, hs, htext⟩ := map_eq_ok_iff.1 h
  have hreport : Report.statement ⟨r, o.directory⟩ = .ok s := by
    rwa [Query.statement, hresolve, ok_bind] at hs
  rw [Report.statement, hstrategy] at hreport
  obtain ⟨rfl, hyears, -⟩ := Query.resolve_eq_ok hresolve
  obtain ⟨hsorted, -⟩ := Period.resolve_sound hyears
  obtain ⟨order, horder, hpivots⟩ := Report.exists_pivots hreport
  have hsource : (Report.pivotRows ⟨r, o.directory⟩).source.content e db = ("result", result) := by
    rw [Report.pivotRows, Source.content, Database.content, hresult]
    rfl
  refine ⟨s, _, hs, htext, hpivots, Select.exists_yields (List.cons_ne_nil _ _), fun all hall => ?_,
    fun out => Select.yields_iff_cut (List.cons_ne_nil _ _)⟩
  rw [hsource] at hall
  obtain ⟨hallColumns, groups, hperm, -, hrows⟩ :=
    (Report.pivoted_yields_iff (r := ⟨r, o.directory⟩) hcolumns order horder none).1 hall
  exact sideBySide_of_groups hsorted hknown hone hnumeric hallColumns hperm hrows

/-- Homes with fibre by municipality, in two years. -/
def Query.fibreByMunicipality : Query :=
  { requirement := some (.single (.technology .fiber false)), metric := .homes, grouping := .municipality,
    figures := .both, limit := some 1, period := some (.years [2024, 2023]) }

/-- A result with a municipality that is new in the second year. -/
def newMunicipality : Content where
  columns := ["gruppe", "aar", "covered", "total", "percent"]
  rows := [[.text "Oslo", .number 2023, .number 30, .number 40, .number 75],
    [.text "Molde", .number 2024, .number 5, .number 20, .number 25],
    [.text "Oslo", .number 2024, .number 32, .number 40, .number 80]]
  width := by decide

/-- The new municipality has nothing in the columns of the first year. -/
theorem Query.toSql_sideBySide_newMunicipality :
    ∃ (s : Statement) (p : Select Source), Query.fibreByMunicipality.toSql {} = .ok s.text ∧ s.main = p ∧
      (∃ all, ({ p with limit := none } : Select Source).Yields Engine.plain [("result", newMunicipality)]
        (p.source.content Engine.plain [("result", newMunicipality)]) all) ∧
      ∀ all, ({ p with limit := none } : Select Source).Yields Engine.plain [("result", newMunicipality)]
        (p.source.content Engine.plain [("result", newMunicipality)]) all →
        all.columns = ["gruppe", "covered_2023", "total_2023", "percent_2023", "covered_2024", "total_2024",
          "percent_2024"] ∧
        ∃ row ∈ all.rows, cell all.columns row "gruppe" = .text "Molde" ∧
          cell all.columns row "covered_2023" = .null ∧ cell all.columns row "covered_2024" = .number 5 ∧
          cell all.columns row "percent_2024" = .number 25 := by
  obtain ⟨sql, h⟩ : ∃ sql, Query.fibreByMunicipality.toSql {} = .ok sql := ⟨_, rfl⟩
  obtain ⟨s, p, -, rfl, hmain, hexists, hall, -⟩ := Query.toSql_sideBySide h
    (r := ⟨Query.fibreByMunicipality, [2023, 2024]⟩) rfl rfl Engine.plain [("result", newMunicipality)] rfl rfl
    (by decide +kernel) (by unfold Query.OneRowEach; decide +kernel) (by decide +kernel)
  refine ⟨s, p, h, hmain, hexists, fun all hyields => ?_⟩
  have hside := hall all hyields
  refine ⟨hside.columns, ?_⟩
  obtain ⟨row, hrow, hgroup⟩ := List.mem_map.1 ((hside.groups (.text "Molde")).2 (by decide +kernel))
  have hcells := hside.cells row hrow
  rw [hgroup] at hcells
  have hcovered := hcells 2023 (by decide) "covered" (by decide)
  refine ⟨row, hrow, hgroup, hcovered.trans ?_, (hcells 2024 (by decide) "covered" (by decide)).trans ?_,
    (hcells 2024 (by decide) "percent" (by decide)).trans ?_⟩
  · decide +kernel
  · decide +kernel
  · decide +kernel

end Broadband
