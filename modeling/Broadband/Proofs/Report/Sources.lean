import Broadband.Proofs.Historical.Acceptance
import Broadband.Proofs.Report.Comparisons
import Broadband.Proofs.Sql.Sources

/-!
# The directory of the data

Of what a caller says beside the query, the directory of the data is the one text that nothing checks.
It decides nothing: a query is rejected with every directory or with none, and its statements for two
directories are the same slots with other paths in them (`Report.statement_inDirectory`). But it
reaches the statement without its quotes being doubled, so the slots are what a reader finds only if
it has none.
-/

namespace Broadband

open Checks Sql

/-! ## The files that answer a query -/

namespace Resolved

/-- The files of datasets for every year. -/
def filesOf (r : Resolved) (datasets : List Dataset) : List (Int × Dataset) :=
  r.years.flatMap fun year => datasets.map fun d => (year, d)

/-- The files that are read to answer a query, in the order in which a statement names them. -/
def sources (r : Resolved) : List (Int × Dataset) :=
  match r.strategy with
  | .historical => r.filesOf [.historical]
  | .subscription =>
    r.filesOf [.subscriptions] ++
      if r.query.grouping = .county then r.filesOf [.addresses] else []
  | .pivot | .coverage =>
    r.filesOf [.addresses] ++
      if r.query.requirement.isSome then r.filesOf [.fixedCoverage, .mobileCoverage] else []

theorem filesOf_ne_nil {r : Resolved} (h : r.years ≠ []) (d : Dataset) (ds : List Dataset) :
    r.filesOf (d :: ds) ≠ [] := by
  intro hnil
  obtain ⟨year, years, hyears⟩ := List.exists_cons_of_ne_nil h
  rw [filesOf, hyears] at hnil
  simp at hnil

theorem sources_ne_nil {r : Resolved} (h : r.years ≠ []) : r.sources ≠ [] := by
  unfold sources
  split
  · exact filesOf_ne_nil h _ _
  · exact List.append_ne_nil_of_left_ne_nil (filesOf_ne_nil h _ _) _
  · exact List.append_ne_nil_of_left_ne_nil (filesOf_ne_nil h _ _) _
  · exact List.append_ne_nil_of_left_ne_nil (filesOf_ne_nil h _ _) _

end Resolved

/-! ## Shares of earlier years -/

theorem Indicator.condition_readable (i : Indicator) : i.condition.readable = true := by
  have hkind : (Column.mk none "indikatortype").readable = true := by decide
  have hvalue : (Column.mk none "indikator").readable = true := by decide
  simp [condition, Condition.readable, Operand.readable, hkind, hvalue]

namespace Report

theorem areaCondition_readable (q : Query) : (areaCondition q).readable = true := by
  unfold areaCondition
  split <;> rfl

/-- What holds of a part holds of it also where it stands only if there are several indicators. -/
theorem forall_mem_ifSeveral {α : Type} {P : α → Prop} (rest : List Indicator) {x : α} (h : P x) :
    ∀ y ∈ (if rest.isEmpty then [] else [x]), P y := by
  intro y hy
  split at hy
  · exact absurd hy List.not_mem_nil
  · rwa [List.mem_singleton.1 hy]

theorem historicalShares_readable {r : Report} (hpath : '\'' ∉ r.dataPath.toList) (first : Indicator)
    (rest : List Indicator) : (r.historicalShares first rest).Readable := by
  have hindicators : ∀ c ∈ first.condition :: rest.map Indicator.condition, c.readable = true := by
    rw [← List.map_cons, List.forall_mem_map]
    exact fun i _ => i.condition_readable
  obtain ⟨hchoice, -⟩ := joinAll_compared .or hindicators
  obtain ⟨hyears, -⟩ := r.yearCondition_compared plain_none
  have hkey : (column (shareSortColumn r.query.sorting.key)).readable = true := by
    cases r.query.sorting.key <;> decide
  refine ⟨List.forall_mem_singleton.2 (show Unmarked "hist" by decide),
    List.forall_mem_singleton.2 (files_readable hpath _), ?_⟩
  constructor
  case columns =>
    exact List.forall_mem_cons.2 ⟨by decide, List.forall_mem_append.2 ⟨List.forall_mem_append.2
      ⟨r.forall_mem_ifMultiYear (by decide), forall_mem_ifSeveral rest (by decide)⟩, by decide⟩⟩
  case source => exact (show Unmarked (Table.mk "hist" none).text by decide)
  case joins => exact List.forall_mem_nil _
  case filters =>
    simp only [historicalShares, List.forall_mem_cons]
    exact ⟨hyears, areaCondition_readable _, hchoice, List.forall_mem_nil _⟩
  case groupBy =>
    exact List.forall_mem_cons.2 ⟨by decide, List.forall_mem_append.2
      ⟨r.forall_mem_ifMultiYear (by decide), forall_mem_ifSeveral rest (by decide)⟩⟩
  case orderBy =>
    exact List.forall_mem_cons.2 ⟨hkey, List.forall_mem_append.2
      ⟨r.forall_mem_ifMultiYear (by decide), forall_mem_ifSeveral rest (by decide)⟩⟩

/-- All names in the statement of any report can be read, if its directory has no quote. -/
theorem statement_readable {r : Report} (hpath : '\'' ∉ r.dataPath.toList) {s : Statement}
    (h : r.statement = .ok s) : s.Readable := by
  by_cases hstrategy : r.strategy = .historical
  · rw [statement, hstrategy] at h
    obtain ⟨-, -, first, rest, -, rfl⟩ := historical_eq_ok_iff.1 h
    exact historicalShares_readable hpath first rest
  · exact (statement_holds hpath hstrategy h).readable

/-! ## Another directory -/

/-- The same report on the data of another directory. -/
def inDirectory (dataPath : String) (r : Report) : Report := { r with dataPath }

theorem files_inDirectory (dataPath : String) (r : Report) (datasets : List Dataset) :
    (r.inDirectory dataPath).files datasets = (r.files datasets).inDirectory dataPath := by
  simp only [files, Body.inDirectory, List.map_flatMap, List.map_map]
  rfl

theorem coverageTables_inDirectory (dataPath : String) (r : Report) :
    (r.inDirectory dataPath).coverageTables
      = r.coverageTables.map (List.map (Definition.inDirectory dataPath)) := by
  unfold coverageTables
  refine bind_eq_map_bind fun filters => ?_
  have hrequirement : (r.inDirectory dataPath).query.requirement = r.query.requirement := rfl
  rw [hrequirement]
  cases r.query.requirement with
  | none =>
    rw [files_inDirectory]
    rfl
  | some requirement =>
    refine bind_eq_map_bind fun covered => bind_eq_map_bind fun filters' => ?_
    rw [files_inDirectory, files_inDirectory]
    rfl

theorem ofResult_inDirectory (dataPath : String) (r : Report) (tables : List Definition) :
    (r.inDirectory dataPath).ofResult (tables.map (Definition.inDirectory dataPath))
      = (r.ofResult tables).inDirectory dataPath := by
  have hend : ∀ tables, (r.inDirectory dataPath).ofResult tables = r.ofResult tables := fun _ => rfl
  rw [hend]
  unfold ofResult
  split
  · cases r.query.limit <;> simp [Statement.inDirectory, Definition.inDirectory, Body.inDirectory]
  · rfl

theorem pivot_inDirectory (dataPath : String) (r : Report) :
    (r.inDirectory dataPath).pivot = r.pivot.map (Statement.inDirectory dataPath) := by
  have hcounty : (r.inDirectory dataPath).byCounty = r.byCounty := rfl
  unfold pivot
  rw [coverageTables_inDirectory, hcounty]
  cases r.coverageTables with
  | error e => rfl
  | ok tables =>
    change (if r.byCounty = true then _ else _) = Except.map _ (if r.byCounty = true then _ else _)
    split
    · refine congrArg Except.ok ?_
      simp only [Statement.inDirectory, List.map_append]
      rfl
    · rfl

theorem subscription_inDirectory (dataPath : String) (r : Report) :
    (r.inDirectory dataPath).subscription
      = r.subscription.map (Statement.inDirectory dataPath) := by
  have hcounty : (r.inDirectory dataPath).byCounty = r.byCounty := rfl
  unfold subscription
  refine bind_eq_map_bind fun covered => bind_eq_map_bind fun filters => ?_
  refine congrArg Except.ok ?_
  rw [← ofResult_inDirectory, files_inDirectory, files_inDirectory, hcounty]
  simp only [List.map_cons, List.map_append]
  split <;> rfl

theorem historical_inDirectory (dataPath : String) (r : Report) :
    (r.inDirectory dataPath).historical = r.historical.map (Statement.inDirectory dataPath) := by
  have hrequirement : (r.inDirectory dataPath).query.requirement = r.query.requirement := rfl
  unfold historical
  rw [hrequirement]
  cases r.query.requirement with
  | none => rfl
  | some requirement =>
    refine bind_eq_map_bind fun indicators => ?_
    cases indicators with
    | nil => rfl
    | cons first rest =>
      refine congrArg Except.ok ?_
      rw [historicalShares, files_inDirectory]
      rfl

/-- **The directory reaches nothing but the files.** -/
theorem statement_inDirectory (dataPath : String) (r : Report) :
    (r.inDirectory dataPath).statement = r.statement.map (Statement.inDirectory dataPath) := by
  have hstrategy : (r.inDirectory dataPath).strategy = r.strategy := rfl
  unfold statement
  rw [hstrategy]
  cases r.strategy with
  | historical => exact r.historical_inDirectory dataPath
  | subscription => exact r.subscription_inDirectory dataPath
  | pivot => exact r.pivot_inDirectory dataPath
  | coverage =>
    rw [coverage, coverage, coverageTables_inDirectory]
    cases r.coverageTables with
    | error e => rfl
    | ok tables => exact congrArg Except.ok (r.ofResult_inDirectory dataPath tables)

/-! ## The files of a report -/

@[simp] theorem sources_files (r : Report) (datasets : List Dataset) :
    (r.files datasets).sources = r.filesOf datasets := by
  simp only [files, Body.sources, List.map_flatMap, List.map_map]
  rfl

theorem coverageTables_sources {r : Report} {tables : List Definition}
    (h : r.coverageTables = .ok tables) :
    tables.flatMap (·.body.sources) = r.filesOf [.addresses] ++
      if r.query.requirement.isSome then r.filesOf [.fixedCoverage, .mobileCoverage] else [] := by
  obtain ⟨filters, -, h⟩ := bind_eq_ok_iff.1 h
  cases hrequirement : r.query.requirement with
  | none =>
    rw [hrequirement] at h
    obtain rfl := pure_eq_ok_iff.1 h
    simp
  | some requirement =>
    rw [hrequirement] at h
    obtain ⟨covered, -, h⟩ := bind_eq_ok_iff.1 h
    obtain ⟨filters', -, h⟩ := bind_eq_ok_iff.1 h
    obtain rfl := pure_eq_ok_iff.1 h
    simp

/-- The end of a report reads no files. -/
theorem ofResult_sources (r : Report) (tables : List Definition) :
    (r.ofResult tables).sources = tables.flatMap (·.body.sources) := by
  unfold ofResult
  split
  · cases r.query.limit <;> simp [Statement.sources]
  · rfl

theorem pivot_sources {r : Report} {s : Statement} (h : r.pivot = .ok s) :
    ∃ tables, r.coverageTables = .ok tables ∧ s.sources = tables.flatMap (·.body.sources) := by
  obtain ⟨tables, htables, h⟩ := bind_eq_ok_iff.1 h
  refine ⟨tables, htables, ?_⟩
  by_cases hcounty : r.byCounty = true
  · rw [if_pos hcounty] at h
    obtain rfl := pure_eq_ok_iff.1 h
    simp [Statement.sources]
  · rw [if_neg hcounty] at h
    obtain rfl := pure_eq_ok_iff.1 h
    rfl

theorem subscription_sources {r : Report} {s : Statement} (h : r.subscription = .ok s) :
    s.sources = r.filesOf [.subscriptions] ++
      if r.query.grouping = .county then r.filesOf [.addresses] else [] := by
  obtain ⟨covered, -, h⟩ := bind_eq_ok_iff.1 h
  obtain ⟨filters, -, h⟩ := bind_eq_ok_iff.1 h
  obtain rfl := pure_eq_ok_iff.1 h
  rw [ofResult_sources]
  by_cases hcounty : r.query.grouping = .county
  · simp [byCounty, hcounty]
  · simp [byCounty, hcounty]

/-- The files that the statement of a report names are those that answer the query. -/
theorem statement_sources {r : Report} {s : Statement} (h : r.statement = .ok s) :
    s.sources = r.toResolved.sources := by
  unfold statement at h
  unfold Resolved.sources
  cases hstrategy : r.strategy with
  | historical =>
    rw [hstrategy] at h
    obtain ⟨-, -, first, rest, -, rfl⟩ := historical_eq_ok_iff.1 h
    simp [Statement.sources, historicalShares]
  | subscription =>
    rw [hstrategy] at h
    exact subscription_sources h
  | pivot =>
    rw [hstrategy] at h
    obtain ⟨tables, htables, hsources⟩ := pivot_sources h
    exact hsources.trans (coverageTables_sources htables)
  | coverage =>
    rw [hstrategy] at h
    obtain ⟨tables, htables, rfl⟩ := map_eq_ok_iff.1 h
    exact (r.ofResult_sources tables).trans (coverageTables_sources htables)

end Report

/-! ## The directory in the text of a statement -/

/-- **The directory of the data in a statement.** A file stands between quotes in a statement, and is
read as a literal with its path exactly if the directory has no quote. A query is rejected for the same
reason whatever the directory, or has slots for the files that answer it, the same for every directory.
The statement for a directory is these slots with the paths below it between quotes, their lines moved
to the right; it is read as these slots exactly if the directory has no quote, and with the paths
themselves exactly if it has no line feed either. -/
theorem Query.toSql_directory (q : Query) (year : Option Int) :
    (∀ (d : Dataset) (path : String) (y : Int),
      Sql.read (d.source path y) = [.literal (d.path path y)] ↔ '\'' ∉ path.toList) ∧
    q.toSql ⟨year, none⟩ = q.toSql ⟨year, some defaultDataPath⟩ ∧
    ((∃ e, ∀ path, q.toSql ⟨year, some path⟩ = .error e) ∨
      ∃ (r : Resolved) (slots : List Slot), q.resolve year = .ok r ∧
        slots.flatMap Slot.files = r.sources ∧ r.sources ≠ [] ∧
        ∀ path, ∃ sql, q.toSql ⟨year, some path⟩ = .ok sql ∧
          sql.toList = slots.flatMap (Slot.chars (moved (paths path))) ∧
          (Sql.read sql = slots.map (Slot.filled (moved (paths path))) ↔ '\'' ∉ path.toList) ∧
          (Sql.read sql = slots.map (Slot.filled (paths path)) ↔
            '\'' ∉ path.toList ∧ '\n' ∉ path.toList)) := by
  refine ⟨Sql.read_source_iff, rfl, ?_⟩
  cases hresolve : q.resolve year with
  | error e =>
    refine .inl ⟨e, fun path => ?_⟩
    rw [Query.toSql, Query.statement, hresolve]
    rfl
  | ok r =>
    -- every statement is that for the empty directory, with its files taken from elsewhere
    have hstatement : ∀ path, q.statement ⟨year, some path⟩
        = (Report.statement ⟨r, ""⟩).map (Statement.inDirectory path) := by
      intro path
      rw [Query.statement, hresolve, ← Report.statement_inDirectory]
      rfl
    cases hempty : Report.statement ⟨r, ""⟩ with
    | error e =>
      refine .inl ⟨e, fun path => ?_⟩
      rw [Query.toSql, hstatement, hempty]
      rfl
    | ok s =>
      have hquote : '\'' ∉ "".toList := by decide
      have hreadable := Report.statement_readable hquote hempty
      have hsources := Report.statement_sources hempty
      obtain ⟨-, -, hyears⟩ := Query.resolve_eq_ok hresolve
      have hne : r.sources ≠ [] := Resolved.sources_ne_nil hyears
      refine .inr ⟨r, s.slots, rfl, s.flatMap_files_slots.trans hsources, hne, fun path => ?_⟩
      rw [← hsources] at hne
      refine ⟨_, ?_, Statement.toList_text hreadable path, Statement.read_moved_iff hreadable hne path,
        Statement.read_paths_iff hreadable hne path⟩
      rw [Query.toSql, hstatement, hempty]
      rfl

/-- A quote in the directory ends the literal, and the one behind the path opens another. -/
example : Sql.read (Dataset.addresses.source "o'brien" 2024)
    = .literal ['o'] :: (plain "brien/2024/adr.parquet" ++ [.unclosed []]) := by
  decide +kernel

end Broadband
