import Broadband.Proofs.Report.Population

/-!
# What is covered is a part of the population

The result of a report of coverage puts the sum over the covered addresses beside that over the population, by
their keys. As keys differ and have no nulls, a row of the population gets the one row of the coverage that has
its key or, if there is none, a zero, which is what the sum over no addresses should be
(`Report.partResult_rows`). So a row of the result has sums over some addresses and over a part of them
(`Query.CountsPart`), and without a requirement this part is all of them.
-/

namespace Broadband

open Checks Sql

/-! ## Reading rows with a key in front -/

namespace Query

variable {years : List Int} {k : List Datum} (hlength : (keyColumns years).length = k.length)

include hlength

/-- The key of a row is read off by its columns. -/
theorem map_cell_key (figures : List String) (xs : List Datum) :
    (keyColumns years).map (cell (rowColumns years figures) (k ++ xs)) = k :=
  map_cell_append hlength nodup_keyColumns

/-- And so are the figures behind it. -/
theorem cell_figure {figures : List String} {figure : String}
    (hfigure : figure ∈ ["covered", "total", "percent"]) (xs : List Datum) :
    cell (rowColumns years figures) (k ++ xs) figure = cell figures xs figure :=
  cell_append_of_notMem hlength (notMem_keyColumns hfigure)

end Query

namespace Report

open Query

section

variable {e : Engine} {db : Database} {r : Report} {out : Content}

/-! ## The result -/

theorem columns_coverageResult (covered : Scalar) (joins : List Join) :
    (r.coverageResult covered joins).columns =
      (keyColumns r.years).map (fun name => .same ⟨some "p", name⟩) ++
        [.named covered "covered", .same ⟨some "p", "total"⟩,
          .named (.percentage covered (.column ⟨some "p", "total"⟩)) "percent"] := by
  rw [coverageResult, ifMultiYear_eq, keyColumns]
  split <;> rfl

/-- A row of the result has the key and the total of the row of the population that is in view. -/
theorem output_coverageResult {f : Frame} {k : List Datum} {total : Datum}
    (hkey : (keyColumns r.years).map (fun name => f.value ⟨some "p", name⟩) = k)
    (htotal : f.value ⟨some "p", "total"⟩ = total) (covered : Scalar) (joins : List Join)
    (gs : List (List Frame)) :
    (r.coverageResult covered joins).output e gs [f] =
      k ++ [covered.value e gs [f], total, e.percentage (covered.value e gs [f]) total] := by
  have houtput : (r.coverageResult covered joins).output e gs [f]
      = (r.coverageResult covered joins).columns.map (·.value.value e gs [f]) := Select.output_of_cons rfl
  rw [houtput, columns_coverageResult, List.map_append, List.map_map, ← hkey, ← htotal]
  rfl

/-- The result has a row for each key in view. -/
theorem coverageResult_rows {covered : Scalar} (hcovered : covered.aggregates = false) {joins : List Join}
    {source : String × Content} {ks keys : List (List Datum)} (hks : ks.Perm keys)
    {frame : List Datum → Frame} {part total : List Datum → Datum}
    (hframes : (r.coverageResult covered joins).frames e db source = ks.map frame)
    (hkey : ∀ k ∈ keys, (keyColumns r.years).map (fun name => (frame k).value ⟨some "p", name⟩) = k)
    (htotal : ∀ k ∈ keys, (frame k).value ⟨some "p", "total"⟩ = total k)
    (hpart : ∀ k ∈ keys, ∀ gs, covered.value e gs [frame k] = part k)
    (h : (r.coverageResult covered joins).Yields e db source out) :
    out.columns = resultColumns r.years ∧
      out.rows.Perm (keys.map fun k => k ++ [part k, total k, e.percentage (part k) (total k)]) := by
  have hplain : (r.coverageResult covered joins).columns.any (·.value.aggregates) = false := by
    rw [coverageResult, ifMultiYear_eq]
    split <;> simp [Item.same, Item.named, Scalar.aggregates, hcovered]
  have hgroups : (r.coverageResult covered joins).groups e (ks.map frame) = ks.map ([frame ·]) := by
    rw [Select.groups, hplain]
    exact List.map_map
  obtain ⟨hcolumns, hrows⟩ := (Select.yields_iff_perm rfl rfl).1 h
  rw [hframes, hgroups, List.map_map] at hrows
  refine ⟨hcolumns.trans (r.label_rows rfl rfl rfl), hrows.trans ?_⟩
  refine (hks.map _).trans (.of_eq (List.map_congr_left fun k hk => ?_))
  rw [Function.comp_apply, output_coverageResult (hkey k hk) (htotal k hk), hpart k hk]

section

variable {keys : List (List Datum)} {total : List Datum → Rat} {population : Content}
  (hlength : ∀ k ∈ keys, (keyColumns r.years).length = k.length)
  (hpopulation : population.columns = rowColumns r.years ["total"])
  (htotals : population.rows.Perm (keys.map fun k => k ++ [.number (total k)]))

include hlength hpopulation htotals

/-- Without a requirement the total stands twice in every row. -/
theorem wholeResult_rows
    (h : (r.coverageResult (.column ⟨some "p", "total"⟩) []).Yields e db ("p", population) out) :
    out.columns = resultColumns r.years ∧
      out.rows.Perm (keys.map fun k =>
        k ++ [.number (total k), .number (total k), e.percentage (.number (total k)) (.number (total k))]) := by
  obtain ⟨ks, hks, hkeys⟩ := exists_perm_map htotals
  have hframes : (r.coverageResult (.column ⟨some "p", "total"⟩) []).frames e db ("p", population)
      = ks.map fun k => rowFrame "p" (rowColumns r.years ["total"]) (k ++ [.number (total k)]) := by
    rw [Select.frames_eq rfl rfl, Content.frames, hkeys, hpopulation, List.map_map]
    rfl
  have hvalue : ∀ k name, (rowFrame "p" (rowColumns r.years ["total"]) (k ++ [.number (total k)])).value
      ⟨some "p", name⟩ = Sql.cell (rowColumns r.years ["total"]) (k ++ [.number (total k)]) name :=
    fun k name => value_qualified (by simp)
  have htotal : ∀ k ∈ keys, (rowFrame "p" (rowColumns r.years ["total"]) (k ++ [.number (total k)])).value
      ⟨some "p", "total"⟩ = .number (total k) := by
    intro k hk
    rw [hvalue, cell_figure (hlength k hk) (by decide)]
    rfl
  refine coverageResult_rows rfl hks hframes (fun k hk => ?_) htotal (fun k hk _ => htotal k hk) h
  simp only [hvalue]
  exact map_cell_key (hlength k hk) _ _

end

/-- Totals and parts are put side by side by the columns of their keys. -/
theorem conditions_coverageJoin : r.coverageJoin.conditions =
    (keyColumns r.years).map fun name => .compare ⟨some "p", name⟩ .eq (.column ⟨some "c", name⟩) := by
  rw [coverageJoin, ifMultiYear_eq, keyColumns]
  split <;> rfl

/-- What stands beside the total of a key: its part, or nulls if it has none. -/
def partner (r : Report) (p : List Datum → Bool) (part : List Datum → Rat) (k : List Datum) : List Datum :=
  if p k then k ++ [.number (part k)] else (rowColumns r.years ["covered"]).map fun _ => .null

section

variable {keys : List (List Datum)} {total part : List Datum → Rat} {p : List Datum → Bool}
  {population coverage : Content}
  (hnodup : keys.Nodup) (hlength : ∀ k ∈ keys, (keyColumns r.years).length = k.length)
  (hparts : coverage.rows.Perm ((keys.filter p).map fun k => k ++ [.number (part k)]))

include hnodup hlength hparts

/-- No two parts have the same key, so there is one at most. -/
theorem filter_parts {k : List Datum} (hk : k ∈ keys) :
    (coverage.rows.filter fun row =>
      (keyColumns r.years).map (Sql.cell (rowColumns r.years ["covered"]) row) = k)
        = if p k then [k ++ [.number (part k)]] else [] := by
  have hkeys : ∀ k' ∈ keys.filter p, ((fun row => decide ((keyColumns r.years).map
      (Sql.cell (rowColumns r.years ["covered"]) row) = k)) ∘ fun k => k ++ [.number (part k)]) k'
        = decide (k' = k) := by
    intro k' hk'
    rw [Function.comp_apply, map_cell_key (hlength k' (List.mem_of_mem_filter hk'))]
  have hperm := hparts.filter fun row =>
    (keyColumns r.years).map (Sql.cell (rowColumns r.years ["covered"]) row) = k
  rw [List.filter_map, List.filter_congr hkeys, List.filter_eq, (hnodup.filter p).count] at hperm
  simp only [List.mem_filter, hk, true_and] at hperm
  -- a list of one or no row has only one order
  by_cases hp : p k = true
  · rw [if_pos hp] at hperm ⊢
    exact List.perm_singleton.1 hperm
  · rw [if_neg hp] at hperm ⊢
    exact List.perm_nil.1 hperm

variable (hnull : ∀ k ∈ keys, ∀ x ∈ k, x ≠ .null) (hcontent : db.content "coverage" = coverage)
  (hcoverage : coverage.columns = rowColumns r.years ["covered"])

include hnull hcontent hcoverage

theorem beside_coverageJoin {k : List Datum} (hk : k ∈ keys) (x : Datum) :
    r.coverageJoin.beside e db (rowFrame "p" (rowColumns r.years ["total"]) (k ++ [x])) =
      [rowFrame "p" (rowColumns r.years ["total"]) (k ++ [x]) ++
        rowFrame "c" (rowColumns r.years ["covered"]) (r.partner p part k)] := by
  have hkey := map_cell_key (hlength k hk) ["total"] [x]
  have hsome : ∀ name ∈ keyColumns r.years,
      Sql.cell (rowColumns r.years ["total"]) (k ++ [x]) name ≠ .null := by
    intro name hname
    have hmem : Sql.cell (rowColumns r.years ["total"]) (k ++ [x]) name ∈
        (keyColumns r.years).map (Sql.cell (rowColumns r.years ["total"]) (k ++ [x])) :=
      List.mem_map_of_mem hname
    rw [hkey] at hmem
    exact hnull k hk _ hmem
  have hne : "p" ≠ "c" := by decide
  have htable : db.content r.coverageJoin.table.name = coverage := hcontent
  have hshort : r.coverageJoin.table.short.getD r.coverageJoin.table.name = "c" := rfl
  rw [Join.beside_eq htable rfl hshort hne conditions_coverageJoin hsome, hkey, hcoverage,
    filter_parts hnodup hlength hparts hk, partner]
  by_cases hp : p k = true
  · rw [if_pos hp, if_pos hp]
    rfl
  · rw [if_neg hp, if_neg hp]
    rfl

/-- The parts stand beside the totals, and zero where there is none. -/
theorem partResult_rows (hpopulation : population.columns = rowColumns r.years ["total"])
    (htotals : population.rows.Perm (keys.map fun k => k ++ [.number (total k)]))
    (hzero : ∀ k, p k = false → part k = 0)
    (h : (r.coverageResult (.coalesce [.column ⟨some "c", "covered"⟩, .literal (.number 0)])
      [r.coverageJoin]).Yields e db ("p", population) out) :
    out.columns = resultColumns r.years ∧
      out.rows.Perm (keys.map fun k =>
        k ++ [.number (part k), .number (total k), e.percentage (.number (part k)) (.number (total k))]) := by
  obtain ⟨ks, hks, hkeys⟩ := exists_perm_map htotals
  have hne : "p" ≠ "c" := by decide
  have hframes : (r.coverageResult (.coalesce [.column ⟨some "c", "covered"⟩, .literal (.number 0)])
      [r.coverageJoin]).frames e db ("p", population)
        = ks.map fun k => rowFrame "p" (rowColumns r.years ["total"]) (k ++ [.number (total k)]) ++
            rowFrame "c" (rowColumns r.years ["covered"]) (r.partner p part k) := by
    have hjoined : (population.frames "p").flatMap (r.coverageJoin.beside e db)
        = ks.map fun k => rowFrame "p" (rowColumns r.years ["total"]) (k ++ [.number (total k)]) ++
            rowFrame "c" (rowColumns r.years ["covered"]) (r.partner p part k) := by
      rw [Content.frames, hkeys, hpopulation, List.map_map, List.flatMap_map, List.map_eq_flatMap]
      refine List.flatMap_congr fun k hk => ?_
      exact beside_coverageJoin hnodup hlength hparts hnull hcontent hcoverage (hks.mem_iff.1 hk) _
    refine Eq.trans ?_ hjoined
    exact List.filter_eq_self.2 fun _ _ => rfl
  refine coverageResult_rows rfl hks hframes (fun k hk => ?_) (fun k hk => ?_) (fun k hk gs => ?_) h
  · simp only [value_left hne]
    exact map_cell_key (hlength k hk) _ _
  · rw [value_left hne, cell_figure (hlength k hk) (by decide)]
    rfl
  · rw [Scalar.value, List.headD_cons]
    simp only [List.map_cons, List.map_nil, Operand.value, value_right hne, partner]
    by_cases hp : p k = true
    · rw [if_pos hp, cell_figure (hlength k hk) (by decide)]
      rfl
    · rw [if_neg hp, cell_nulls, hzero k (Bool.not_eq_true _ ▸ hp)]
      rfl

end

end

end Report

/-! ## Rows that count a part -/

namespace Query

/-- The key of a row of the result. -/
def resultKey (years : List Int) (row : List Datum) : List Datum :=
  (keyColumns years).map (cell (resultColumns years) row)

/-- A result counts the population and the covered part of it. -/
structure CountsPart (e : Engine) (q : Query) (years : List Int) (addresses : Content)
    (covers : List Datum → Bool) (result : Content) : Prop where
  columns : result.columns = resultColumns years
  /-- A row has a key, the sum over the covered addresses with this key and the sum over all of them. -/
  rows : result.rows.Perm ((q.keys e years addresses).map fun k =>
    let covered : Datum := .number (q.amount e years addresses covers k)
    let total : Datum := .number (q.amount e years addresses (fun _ => true) k)
    k ++ [covered, total, e.percentage covered total])
  /-- No key has two rows. -/
  once : (result.rows.map (resultKey years)).Nodup
  /-- The keys are those of the population. -/
  groups : ∀ k, k ∈ result.rows.map (resultKey years) ↔
    ∃ row ∈ q.population e years addresses, q.key years addresses.columns row = k
  /-- A row of whose addresses none is covered shows zero. -/
  uncovered : ∀ row ∈ result.rows,
    (∀ address ∈ q.populationOf e years addresses (resultKey years row), covers address = false) →
      cell (resultColumns years) row "covered" = .number 0
  /-- If addresses count no negative numbers, what is covered is no more than the total. -/
  bounded : (∀ row ∈ addresses.rows, ∃ n, q.metric.of addresses.columns row = .number n ∧ 0 ≤ n) →
    ∀ row ∈ result.rows, ∃ covered total : Rat,
      cell (resultColumns years) row "covered" = .number covered ∧
      cell (resultColumns years) row "total" = .number total ∧ 0 ≤ covered ∧ covered ≤ total

section

variable {e : Engine} {q : Query} {years : List Int} {addresses result : Content} {covers : List Datum → Bool}

/-- Every key of the population has addresses. -/
theorem coveredKeys_true : q.coveredKeys e years addresses (fun _ => true) = q.keys e years addresses := by
  rw [coveredKeys, List.filter_eq_self]
  intro k hk
  rw [List.filter_true, Bool.not_eq_true', List.isEmpty_eq_false_iff]
  exact mem_keysOf.1 hk

theorem amount_of_none {k : List Datum} (h : (q.populationOf e years addresses k).filter covers = []) :
    q.amount e years addresses covers k = 0 := by
  rw [amount, h]
  rfl

/-- A part of the population counts no more than all of it. -/
theorem amount_bounds
    (h : ∀ row ∈ addresses.rows, ∃ n, q.metric.of addresses.columns row = .number n ∧ 0 ≤ n)
    (k : List Datum) :
    0 ≤ q.amount e years addresses covers k ∧
      q.amount e years addresses covers k ≤ q.amount e years addresses (fun _ => true) k := by
  have hnumbers : ∀ row ∈ (q.populationOf e years addresses k).filter fun _ => true,
      ∃ n, q.metric.of addresses.columns row = .number n ∧ 0 ≤ n :=
    fun row hrow => h row (mem_rows_of_mem_populationOf hrow)
  rw [List.filter_true] at hnumbers
  constructor
  · exact Datum.total_nonneg fun row hrow => hnumbers row (List.mem_of_mem_filter hrow)
  · rw [amount, amount, List.filter_true]
    exact Datum.total_filter_le covers hnumbers

/-- Where all are covered, the two sums are the same. -/
theorem CountsPart.covered_eq_total (h : q.CountsPart e years addresses (fun _ => true) result)
    {row : List Datum} (hrow : row ∈ result.rows) :
    cell (resultColumns years) row "covered" = cell (resultColumns years) row "total" := by
  obtain ⟨k, hk, rfl⟩ := List.mem_map.1 (h.rows.mem_iff.1 hrow)
  have hlength := length_of_mem_keys hk
  rw [resultColumns, cell_figure hlength (by decide), cell_figure hlength (by decide)]
  rfl

/-- All that is said of a result follows from its rows. -/
theorem countsPart_of_rows (hcolumns : result.columns = resultColumns years)
    (hrows : result.rows.Perm ((q.keys e years addresses).map fun k =>
      k ++ [.number (q.amount e years addresses covers k),
        .number (q.amount e years addresses (fun _ => true) k),
        e.percentage (.number (q.amount e years addresses covers k))
          (.number (q.amount e years addresses (fun _ => true) k))])) :
    q.CountsPart e years addresses covers result := by
  have hrow : ∀ row ∈ result.rows, ∃ k ∈ q.keys e years addresses, resultKey years row = k ∧
      cell (resultColumns years) row "covered" = .number (q.amount e years addresses covers k) ∧
      cell (resultColumns years) row "total" = .number (q.amount e years addresses (fun _ => true) k) := by
    intro row hrow
    obtain ⟨k, hk, rfl⟩ := List.mem_map.1 (hrows.mem_iff.1 hrow)
    have hlength := length_of_mem_keys hk
    refine ⟨k, hk, map_cell_key hlength _ _, ?_, ?_⟩
    · exact cell_figure hlength (by decide) _
    · exact cell_figure hlength (by decide) _
  have hkeys : (result.rows.map (resultKey years)).Perm (q.keys e years addresses) := by
    refine (hrows.map _).trans (.of_eq ?_)
    rw [List.map_map]
    refine (List.map_congr_left fun k hk => ?_).trans (List.map_id _)
    exact map_cell_key (length_of_mem_keys hk) _ _
  refine ⟨hcolumns, hrows, hkeys.nodup_iff.2 nodup_keysOf, fun k => ?_, ?_, ?_⟩
  · rw [hkeys.mem_iff, keys, keysOf, List.mem_dedup, List.mem_map]
  · intro row hmem hnone
    obtain ⟨k, -, hkey, hcovered, -⟩ := hrow row hmem
    rw [hkey] at hnone
    rw [hcovered, amount_of_none]
    rw [List.filter_eq_nil_iff]
    intro address haddress
    rw [hnone address haddress]
    exact Bool.false_ne_true
  · intro hnonneg row hmem
    obtain ⟨k, -, -, hcovered, htotal⟩ := hrow row hmem
    exact ⟨_, _, hcovered, htotal, amount_bounds hnonneg k⟩

end

end Query

/-! ## Running the tables -/

namespace Report

open Query

section

variable {e : Engine} {db : Database} {r : Report} {tables : List Definition} {addresses coverage : Content}

/-- An address meets a predicate, as far as coverage rows tell. -/
def meets (e : Engine) (coverage addresses : Content) (p : Predicate) (row : List Datum) : Bool :=
  p.met e [("dekning", coverage)] (rowFrame "a" addresses.columns row)

/-- Whether an address meets a requirement is a question to the coverage rows only. -/
theorem met_coverageMembership {requirement : Requirement} {p : Predicate}
    (h : coverageMembership.predicate requirement = .ok p) {other : Database}
    (hsame : db.content "dekning" = other.content "dekning") (f : Frame) :
    p.met e db f = p.met e other f := by
  have hvalues : ∀ c, (coverageMembership.subquery c).values e db f
      = (coverageMembership.subquery c).values e other f := by
    intro c
    have hcontent : db.content (coverageMembership.subquery c).table.name
        = other.content (coverageMembership.subquery c).table.name := hsame
    simp only [Subquery.values, hcontent]
  unfold Membership.predicate at h
  generalize requirement.branches = branches at h
  obtain ⟨quantifier, criteria⟩ := branches
  obtain ⟨conds, -, hp⟩ := bind_eq_ok_iff.1 h
  cases conds with
  | nil => exact absurd hp throw_ne_ok
  | cons first rest =>
    obtain rfl := pure_eq_ok_iff.1 hp
    cases quantifier with
    | any => simp only [Predicate.met, hvalues]
    | none => simp only [Predicate.met, hvalues]
    | all => simp only [Predicate.met, List.all_map, Function.comp_def, hvalues]

/-- The population is asked for by the filters of the query. -/
theorem met_population {filters : List Condition} (h : filterConditions r.query.filters none = .ok filters)
    (d : Database) (row : List Datum) :
    (filters.map Predicate.holds).all (·.met e d (rowFrame "adr" addresses.columns row))
      = (true && r.query.filters.all (·.passedBy e addresses.columns row)) :=
  met_filterConditions rfl h

/-- What is covered is asked for by them and the requirement. -/
theorem met_covered {requirement : Requirement} {p : Predicate}
    (hp : coverageMembership.predicate requirement = .ok p) {filters : List Condition}
    (h : filterConditions r.query.filters (some "a") = .ok filters) {d : Database}
    (hd : d.content "dekning" = coverage) (row : List Datum) :
    (p :: filters.map Predicate.holds).all (·.met e d (rowFrame "a" addresses.columns row))
      = (meets e coverage addresses p row && r.query.filters.all (·.passedBy e addresses.columns row)) := by
  have hsame : d.content "dekning" = Database.content [("dekning", coverage)] "dekning" :=
    hd.trans content_cons_self.symm
  have hqualifier : (some "a").all (· = "a") = true := by decide
  rw [List.all_cons, met_coverageMembership hp hsame, met_filterConditions hqualifier h, meets]

variable
  (haddresses : e.files (r.years.map fun year => ⟨r.dataPath, year, .addresses⟩) = addresses)
  (hnumbers : ∀ row ∈ addresses.rows, ∃ n, r.query.metric.of addresses.columns row = .number n)

include haddresses

/-- The table of addresses holds the rows of their files. -/
theorem eq_of_yields_addresses {c : Content} (h : (r.files [.addresses]).Yields e db c) : c = addresses := by
  rw [← haddresses, List.map_eq_flatMap]
  exact h

include hnumbers

/-- Without a requirement the tables lead to a result that counts the whole population. -/
theorem wholeTables_countsPart (h : r.coverageTables = .ok tables) (hrequirement : r.query.requirement = none)
    (hruns : Runs e [] tables db) :
    r.query.CountsPart e r.years addresses (fun _ => true) (db.content "result") := by
  obtain ⟨filters, hfilters, h⟩ := bind_eq_ok_iff.1 h
  rw [hrequirement] at h
  obtain rfl := pure_eq_ok_iff.1 h
  obtain ⟨adr, hadr, hruns⟩ := runs_cons_iff.1 hruns
  obtain rfl := eq_of_yields_addresses haddresses hadr
  obtain ⟨population, hpopulation, hruns⟩ := runs_cons_iff.1 hruns
  obtain ⟨result, hresult, hruns⟩ := runs_cons_iff.1 hruns
  obtain rfl := runs_nil_iff.1 hruns
  have hsums : r.query.AddsUp e [("adr", adr)] r.years adr (fun _ => true)
      (r.addressSums none "total" (filters.map .holds)) "total" population :=
    addressSums_addsUp hpopulation ⟨rfl, rfl⟩ ⟨rfl, rfl⟩ hnumbers fun d _ => met_population hfilters d
  have htotals := hsums.rows
  rw [coveredKeys_true] at htotals
  obtain ⟨hcolumns, hrows⟩ :=
    wholeResult_rows (fun k hk => length_of_mem_keys hk) hsums.columns htotals hresult
  exact countsPart_of_rows hcolumns hrows

/-- With a requirement they lead to one that counts the addresses that meet it. -/
theorem partTables_countsPart (h : r.coverageTables = .ok tables) {requirement : Requirement}
    (hrequirement : r.query.requirement = some requirement)
    (hcoverage : e.files (r.years.flatMap fun year =>
      [⟨r.dataPath, year, .fixedCoverage⟩, ⟨r.dataPath, year, .mobileCoverage⟩]) = coverage)
    (hgroups : ∀ row ∈ addresses.rows, r.query.grouping.of addresses.columns row ≠ .null)
    (hruns : Runs e [] tables db) :
    ∃ (p : Predicate) (pop cov : Select Source), coverageMembership.predicate requirement = .ok p ∧
      ⟨"population", .select pop⟩ ∈ tables ∧ ⟨"coverage", .select cov⟩ ∈ tables ∧
      r.query.AddsUp e db r.years addresses (fun _ => true) pop "total" (db.content "population") ∧
      r.query.AddsUp e db r.years addresses (meets e coverage addresses p) cov "covered"
        (db.content "coverage") ∧
      r.query.CountsPart e r.years addresses (meets e coverage addresses p) (db.content "result") := by
  obtain ⟨filters, hfilters, h⟩ := bind_eq_ok_iff.1 h
  rw [hrequirement] at h
  obtain ⟨p, hp, h⟩ := bind_eq_ok_iff.1 h
  obtain ⟨filters', hfilters', h⟩ := bind_eq_ok_iff.1 h
  obtain rfl := pure_eq_ok_iff.1 h
  obtain ⟨adr, hadr, hruns⟩ := runs_cons_iff.1 hruns
  obtain rfl := eq_of_yields_addresses haddresses hadr
  obtain ⟨dekning, hdekning, hruns⟩ := runs_cons_iff.1 hruns
  obtain rfl : dekning = coverage := hdekning.trans hcoverage
  obtain ⟨population, hpopulation, hruns⟩ := runs_cons_iff.1 hruns
  obtain ⟨covered, hcovered, hruns⟩ := runs_cons_iff.1 hruns
  obtain ⟨result, hresult, hruns⟩ := runs_cons_iff.1 hruns
  obtain rfl := runs_nil_iff.1 hruns
  have htotals : r.query.AddsUp e [("result", result), ("coverage", covered), ("population", population),
      ("dekning", dekning), ("adr", adr)] r.years adr (fun _ => true)
      (r.addressSums none "total" (filters.map .holds)) "total" population :=
    addressSums_addsUp hpopulation ⟨rfl, rfl⟩ ⟨rfl, rfl⟩ hnumbers fun d _ => met_population hfilters d
  have hparts : r.query.AddsUp e [("result", result), ("coverage", covered), ("population", population),
      ("dekning", dekning), ("adr", adr)] r.years adr (meets e dekning adr p)
      (r.addressSums (some "a") "covered" (p :: filters'.map .holds)) "covered" covered :=
    addressSums_addsUp hcovered ⟨rfl, rfl⟩ ⟨rfl, rfl⟩ hnumbers fun d hd => met_covered hp hfilters' hd
  have hrows := htotals.rows
  rw [coveredKeys_true] at hrows
  have hcontent : Database.content [("coverage", covered), ("population", population), ("dekning", dekning),
      ("adr", adr)] "coverage" = covered := rfl
  -- a key without a row in the coverage has no covered addresses
  have hzero : ∀ k,
      (!((r.query.populationOf e r.years adr k).filter (meets e dekning adr p)).isEmpty) = false →
        r.query.amount e r.years adr (meets e dekning adr p) k = 0 := by
    intro k hnone
    rw [Bool.not_eq_false', List.isEmpty_iff] at hnone
    exact amount_of_none hnone
  obtain ⟨hresultColumns, hresultRows⟩ := partResult_rows nodup_keysOf (fun k hk => length_of_mem_keys hk)
    hparts.rows (fun k hk => ne_null_of_mem_keys hgroups hk) hcontent hparts.columns htotals.columns hrows hzero
    hresult
  exact ⟨p, _, _, hp, by simp, by simp, htotals, hparts, countsPart_of_rows hresultColumns hresultRows⟩

end

section

variable {e : Engine} {r : Report} {tables : List Definition} {s : Statement}

/-- The tables up to the result can be run. -/
theorem exists_runs_coverageTables (h : r.coverageTables = .ok tables) : ∃ db, Runs e [] tables db := by
  refine exists_runs [] ?_
  obtain ⟨filters, -, h⟩ := bind_eq_ok_iff.1 h
  cases hrequirement : r.query.requirement with
  | none =>
    rw [hrequirement] at h
    obtain rfl := pure_eq_ok_iff.1 h
    simp [files, addressSums, coverageResult]
  | some requirement =>
    rw [hrequirement] at h
    obtain ⟨p, -, h⟩ := bind_eq_ok_iff.1 h
    obtain ⟨filters', -, h⟩ := bind_eq_ok_iff.1 h
    obtain rfl := pure_eq_ok_iff.1 h
    simp [files, addressSums, coverageResult]

/-- A report of coverage has these tables in front, with the years side by side or not. -/
theorem upTo_result (h : r.statement = .ok s) (hstrategy : r.strategy = .coverage ∨ r.strategy = .pivot) :
    ∃ tables, r.coverageTables = .ok tables ∧ s.upTo "result" = tables ∧ tables ⊆ s.tables := by
  obtain ⟨tables, ds, htables, hs⟩ :
      ∃ tables ds, r.coverageTables = .ok tables ∧ s.tables = tables ++ ds := by
    rcases hstrategy with hstrategy | hstrategy
    · rw [statement, hstrategy] at h
      obtain ⟨tables, htables, rfl⟩ := map_eq_ok_iff.1 h
      refine ⟨tables, ?_⟩
      rw [ofResult]
      split
      · exact ⟨_, htables, List.append_assoc _ _ _⟩
      · exact ⟨[], htables, (List.append_nil _).symm⟩
    · rw [statement, hstrategy] at h
      obtain ⟨tables, htables, h⟩ := bind_eq_ok_iff.1 h
      refine ⟨tables, ?_⟩
      split at h
      · obtain rfl := pure_eq_ok_iff.1 h
        exact ⟨_, htables, rfl⟩
      · obtain rfl := pure_eq_ok_iff.1 h
        exact ⟨[], htables, (List.append_nil _).symm⟩
  obtain ⟨before, d, rfl, hname, hbefore⟩ :=
    resultLast_of_scoped (coverageTables_scoped htables (metric_of_strategy.2 hstrategy.symm))
  refine ⟨_, htables, ?_, hs ▸ List.subset_append_left _ _⟩
  obtain ⟨_, main⟩ := s
  obtain rfl := hs
  rw [List.append_assoc]
  exact Statement.upTo_eq hbefore hname main

end

end Report

/-- **What is covered is a part of the population.** Take any query on coverage that is accepted, with the
years side by side or not, and any tables of addresses and of coverage, where every address has a group and
counts a number. The tables up to the result can be run, and however they are: with a requirement, the coverage
adds up the same metric as the population, for each group (and year, if there are several) over just those of its
addresses that meet the membership predicate of the requirement. The result then has one row for each group (and
year) of the population, with zero where nothing is covered and, if addresses count no negative numbers, never
less than zero nor more than the total. Without a requirement what is covered is the total. -/
theorem Query.toSql_countsPart {q : Query} {o : Options} {sql : String} (h : q.toSql o = .ok sql)
    {r : Resolved} (hresolve : q.resolve o.year = .ok r)
    (hstrategy : r.strategy = .coverage ∨ r.strategy = .pivot) (e : Engine) {addresses coverage : Content}
    (haddresses : e.files (r.years.map fun year => ⟨o.directory, year, .addresses⟩) = addresses)
    (hcoverage : e.files (r.years.flatMap fun year =>
      [⟨o.directory, year, .fixedCoverage⟩, ⟨o.directory, year, .mobileCoverage⟩]) = coverage)
    (hgroups : ∀ row ∈ addresses.rows, q.grouping.of addresses.columns row ≠ .null)
    (hnumbers : ∀ row ∈ addresses.rows, ∃ n, q.metric.of addresses.columns row = .number n) :
    ∃ s : Statement, q.statement o = .ok s ∧ s.text = sql ∧ (∃ db, Runs e [] (s.upTo "result") db) ∧
      ∀ db, Runs e [] (s.upTo "result") db →
        (∀ requirement, q.requirement = some requirement →
          ∃ (p : Predicate) (pop cov : Select Source),
            Report.coverageMembership.predicate requirement = .ok p ∧
            ⟨"population", .select pop⟩ ∈ s.tables ∧ ⟨"coverage", .select cov⟩ ∈ s.tables ∧
            q.AddsUp e db r.years addresses (fun _ => true) pop "total" (db.content "population") ∧
            q.AddsUp e db r.years addresses (Report.meets e coverage addresses p) cov "covered"
              (db.content "coverage") ∧
            q.CountsPart e r.years addresses (Report.meets e coverage addresses p) (db.content "result")) ∧
        (q.requirement = none →
          q.CountsPart e r.years addresses (fun _ => true) (db.content "result") ∧
          ∀ row ∈ (db.content "result").rows,
            cell (resultColumns r.years) row "covered" = cell (resultColumns r.years) row "total") := by
  obtain ⟨s, hs, htext⟩ := map_eq_ok_iff.1 h
  have hreport : Report.statement ⟨r, o.directory⟩ = .ok s := by
    rwa [Query.statement, hresolve, ok_bind] at hs
  obtain ⟨rfl, -, -⟩ := Query.resolve_eq_ok hresolve
  obtain ⟨tables, htables, hupTo, hsubset⟩ := Report.upTo_result hreport hstrategy
  refine ⟨s, hs, htext, ?_⟩
  rw [hupTo]
  refine ⟨Report.exists_runs_coverageTables htables, fun db hruns => ⟨?_, ?_⟩⟩
  · intro requirement hrequirement
    obtain ⟨p, pop, cov, hp, hpop, hcov, hcounts⟩ :=
      Report.partTables_countsPart haddresses hnumbers htables hrequirement hcoverage hgroups hruns
    exact ⟨p, pop, cov, hp, hsubset hpop, hsubset hcov, hcounts⟩
  · intro hrequirement
    have hcounts := Report.wholeTables_countsPart haddresses hnumbers htables hrequirement hruns
    exact ⟨hcounts, fun row hrow => hcounts.covered_eq_total hrow⟩

/-- Addresses in two counties and years, with the homes at each. -/
def fourAddresses : Content where
  columns := ["adrid", "aar", "fylke", "hus"]
  rows := [[.number 1, .number 2023, .text "Oslo", .number 2],
    [.number 2, .number 2023, .text "Oslo", .number 1],
    [.number 1, .number 2024, .text "Oslo", .number 2],
    [.number 3, .number 2024, .text "Agder", .number 4]]
  width := by decide

/-- Coverage of one of them, and of an address that is there in the other year only. -/
def fibreOffers : Content where
  columns := ["adrid", "aar", "tek"]
  rows := [[.number 1, .number 2023, .text "fiber"], [.number 2, .number 2024, .text "fiber"]]
  width := by decide

/-- An engine with these files. -/
def withFourAddresses : Engine :=
  { Engine.plain with
    files := fun fs => if fs.all (·.dataset = .addresses) then fourAddresses else fibreOffers }

/-- Fibre counts in its own year, and a county has a row even if it has no fibre. -/
theorem Query.toSql_countsPart_fourAddresses :
    ∃ s : Statement, Query.fibreByCounty.toSql {} = .ok s.text ∧
      (∃ db, Runs withFourAddresses [] (s.upTo "result") db) ∧
      ∀ db, Runs withFourAddresses [] (s.upTo "result") db →
        (db.content "result").rows.Perm
          [[.text "Oslo", .number 2023, .number 2, .number 3, .number (667 / 10)],
           [.text "Oslo", .number 2024, .number 0, .number 2, .number 0],
           [.text "Agder", .number 2024, .number 0, .number 4, .number 0]] := by
  obtain ⟨sql, h⟩ : ∃ sql, Query.fibreByCounty.toSql {} = .ok sql := ⟨_, rfl⟩
  have haddresses : withFourAddresses.files
      ([2023, 2024].map fun year => ⟨Options.directory {}, year, .addresses⟩) = fourAddresses := rfl
  have hcoverage : withFourAddresses.files ([2023, 2024].flatMap fun year =>
      [⟨Options.directory {}, year, .fixedCoverage⟩, ⟨Options.directory {}, year, .mobileCoverage⟩])
        = fibreOffers := rfl
  have hnumbers : ∀ row ∈ fourAddresses.rows,
      ∃ n, Query.fibreByCounty.metric.of fourAddresses.columns row = .number n := by
    simp only [fourAddresses, List.forall_mem_cons]
    exact ⟨⟨2, rfl⟩, ⟨1, rfl⟩, ⟨2, rfl⟩, ⟨4, rfl⟩, List.forall_mem_nil _⟩
  obtain ⟨s, -, rfl, hexists, hruns⟩ := Query.toSql_countsPart h
    (r := ⟨Query.fibreByCounty, [2023, 2024]⟩) rfl (.inr rfl) withFourAddresses haddresses hcoverage
    (by decide +kernel) hnumbers
  refine ⟨s, h, hexists, fun db hdb => ?_⟩
  obtain ⟨p, -, -, hp, -, -, -, -, hcounts⟩ := (hruns db hdb).1 _ rfl
  have hfibre : Report.coverageMembership.predicate (.single (.technology .fiber false))
      = .ok (.within Report.coverageMembership.key (Report.coverageMembership.subquery
          (.compare ⟨none, technologyColumn⟩ .eq (.literal (.text "fiber"))))) := rfl
  obtain rfl := Except.ok.inj (hp.symm.trans hfibre)
  refine hcounts.rows.trans (.of_eq ?_)
  decide +kernel

end Broadband
