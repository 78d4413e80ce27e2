import Broadband.Proofs.Query.Years
import Broadband.Proofs.Report.Meaning
import Broadband.Proofs.Report.Sources
import Broadband.Proofs.Sql.Scope

/-!
# The files of a report

Which files answer a query is decided once, by its years and by what it counts: as soon as one year lies
before the data for single addresses, all years are taken from the historical data, and otherwise none
is. `Query.fileTables` says this by table, year and file. The statement of a query is closed, so it reads
files in the tables that are made of them and nowhere else; these are the tables of `Query.fileTables`,
with one line for each file that tags its rows with the year (`Report.statement_outline`). And where a
row is picked by its year, it is picked by all years of the query.
-/

namespace Broadband

open Checks Sql

/-! ## What is read to answer a query -/

/-- Files for every year, the years in their order. -/
def yearFiles (years : List Int) (names : List String) : List (Int × String) :=
  years.flatMap fun year => names.map fun name => (year, name)

namespace Query

/-- The tables that are made of files to answer a query for some years, and the files that each of them
has of a year. -/
def fileNames (q : Query) (years : List Int) : List (String × List String) :=
  if ∃ y ∈ years, y < 2022 then [("hist", ["dekning.parquet"])]
  else if q.metric = .subscriptions then
    ("ab", ["ab.parquet"]) :: if q.grouping = .county then [("adr", ["adr.parquet"])] else []
  else
    ("adr", ["adr.parquet"]) ::
      if q.requirement.isSome then [("dekning", ["fbb.parquet", "mob.parquet"])] else []

/-- These tables with all of their files. -/
def fileTables (q : Query) (years : List Int) : List (String × List (Int × String)) :=
  (q.fileNames years).map fun t => (t.1, yearFiles years t.2)

/-- Where rows are picked by their year to answer a query for some years, and the column of the year.
No table stands for the end of the statement. -/
def yearColumns (q : Query) (years : List Int) : List (Option String × String) :=
  if ∃ y ∈ years, y < 2022 then [(none, "aar")]
  else if q.metric = .subscriptions then [(some "result", "s.aar")]
  else (some "population", "aar") ::
    if q.requirement.isSome then [(some "coverage", "a.aar")] else []

end Query

/-- The line that reads a file and tags its rows with the year. -/
def fileLine (dataPath : String) (file : Int × String) : String :=
  "SELECT *, " ++ toString file.1 ++ " AS aar FROM '" ++ dataPath ++ "/" ++ toString file.1 ++ "/" ++
    file.2 ++ "'"

/-- The text of a table that is made of files. -/
def filesText (dataPath : String) (files : List (Int × String)) : String :=
  "\nUNION ALL\n".intercalate (files.map (fileLine dataPath))

/-- The text that picks the rows of some years. -/
def yearsText (column : String) (years : List Int) : String := Shares.among column (years.map toString)

/-! ## Conditions without years -/

theorem Field.column_ne_year (f : Field) : f.column ≠ "aar" := by
  cases f <;> decide

theorem Field.yearTests_condition {f : Field} {op : Comparison} {v : Value} {qualifier : Option String}
    {c : Condition} (h : f.condition op v qualifier = .ok c) : c.yearTests = [] := by
  obtain ⟨l, -, rfl⟩ := map_eq_ok_iff.1 h
  rw [Condition.yearTests, if_neg f.column_ne_year]

theorem yearTests_negateIf (negated : Bool) (c : Condition) :
    (negateIf negated c).yearTests = c.yearTests := by
  cases negated <;> rfl

theorem Criterion.yearTests_condition {x : Criterion} {qualifier : Option String} {c : Condition}
    (h : x.condition qualifier = .ok c) : c.yearTests = [] := by
  induction x generalizing c with
  | technology t negated =>
    obtain rfl := Except.ok.inj h
    rw [yearTests_negateIf, Condition.yearTests]
    exact if_neg (Field.column_ne_year .technology)
  | compare field op value negated =>
    obtain ⟨inner, hinner, rfl⟩ := map_eq_ok_iff.1 h
    rw [yearTests_negateIf, Field.yearTests_condition hinner]
  | join op left right ihl ihr =>
    obtain ⟨l, hl, hrest⟩ := bind_eq_ok_iff.1 h
    obtain ⟨r, hr, hcond⟩ := bind_eq_ok_iff.1 hrest
    obtain rfl := pure_eq_ok_iff.1 hcond
    rw [Condition.yearTests, Condition.yearTests, ihl hl, ihr hr, List.append_nil]
  | not inner ih =>
    obtain ⟨d, hd, hcond⟩ := bind_eq_ok_iff.1 h
    obtain rfl := pure_eq_ok_iff.1 hcond
    rw [Condition.yearTests, Condition.yearTests, ih hd]

theorem Filter.yearTests_condition {f : Filter} {qualifier : Option String} {c : Condition}
    (h : f.condition qualifier = .ok c) : c.yearTests = [] := by
  cases f with
  | segment s =>
    obtain rfl := Except.ok.inj h
    cases s <;> rfl
  | compare field op value => exact Field.yearTests_condition h

/-- What is made of every element of a list has a property if each single outcome has it. -/
theorem forall_mem_of_mapM {ε α β : Type} {f : α → Except ε β} {P : β → Prop}
    (hf : ∀ x y, f x = .ok y → P y) {xs : List α} {ys : List β} (h : xs.mapM f = .ok ys) :
    ∀ y ∈ ys, P y := by
  have hall := forall₂_of_mapM h
  clear h
  induction hall with
  | nil => exact List.forall_mem_nil _
  | cons hy _ ih => exact List.forall_mem_cons.2 ⟨hf _ _ hy, ih⟩

theorem yearTests_foldl (op : Connective) {c : Condition} {cs : List Condition}
    (h : ∀ d ∈ c :: cs, d.yearTests = []) : (cs.foldl (.join op) c).yearTests = [] := by
  induction cs generalizing c with
  | nil => exact h c List.mem_cons_self
  | cons d ds ih =>
    obtain ⟨hc, hd, hds⟩ := List.forall_mem_cons.1 h |>.imp_right List.forall_mem_cons.1
    refine ih (List.forall_mem_cons.2 ⟨?_, hds⟩)
    rw [Condition.yearTests, hc, hd, List.append_nil]

theorem yearTests_joinAll (op : Connective) {c : Condition} {cs : List Condition}
    (h : ∀ d ∈ c :: cs, d.yearTests = []) : (Condition.joinAll op c cs).yearTests = [] := by
  rw [Condition.joinAll]
  split
  · exact h c List.mem_cons_self
  · exact yearTests_foldl op h

/-- Filters put side by side compare no year. -/
theorem yearTests_filters {fs : List Filter} {qualifier : Option String} {cs : List Condition}
    (h : filterConditions fs qualifier = .ok cs) :
    (cs.map Predicate.holds).flatMap Predicate.yearTests = [] := by
  rw [List.flatMap_map, List.flatMap_eq_nil_iff]
  exact forall_mem_of_mapM (fun _ _ => Filter.yearTests_condition) h

/-- Filters look into no table. -/
theorem tables_filters (cs : List Condition) {known : List String} :
    ∀ t ∈ (cs.map Predicate.holds).flatMap Predicate.tables, t ∈ known := by
  simp [Predicate.tables]

namespace Report

/-- Asking for coverage looks into the coverage rows, and compares no year with a constant. -/
theorem coverageMembership_outline {r : Requirement} {p : Predicate}
    (h : coverageMembership.predicate r = .ok p) :
    p.yearTests = [] ∧ ∀ t ∈ p.tables, t = "dekning" := by
  unfold Membership.predicate at h
  generalize r.branches = branches at h
  obtain ⟨quantifier, criteria⟩ := branches
  obtain ⟨conds, hconds, hp⟩ := bind_eq_ok_iff.1 h
  have hbare := forall_mem_of_mapM (fun _ _ => Criterion.yearTests_condition) hconds
  have hsubquery : ∀ c, c.yearTests = [] →
      (coverageMembership.subquery c).conditions.flatMap Condition.yearTests = [] := by
    intro c hc
    simp [Membership.subquery, coverageMembership, Condition.yearTests, hc]
  cases conds with
  | nil => exact absurd hp throw_ne_ok
  | cons first rest =>
    obtain rfl := pure_eq_ok_iff.1 hp
    cases quantifier with
    | any => exact ⟨hsubquery _ (yearTests_joinAll .or hbare), fun t ht => List.mem_singleton.1 ht⟩
    | none => exact ⟨hsubquery _ (yearTests_joinAll .or hbare), fun t ht => List.mem_singleton.1 ht⟩
    | all =>
      constructor
      · rw [Predicate.yearTests, List.flatMap_map, List.flatMap_eq_nil_iff]
        exact fun c hc => hsubquery c (hbare c hc)
      · simp only [Predicate.tables, List.map_map, List.forall_mem_map]
        exact fun c _ => rfl

/-! ## The year of a row -/

theorem yearTests_yearCondition (r : Report) (qualifier : Option String) :
    (r.yearCondition qualifier).yearTests = [r.yearCondition qualifier] := by
  unfold yearCondition
  split <;> rfl

/-! ## The tables of a report -/

theorem text_files (r : Report) (datasets : List Dataset) :
    (r.files datasets).text = filesText r.dataPath (yearFiles r.years (datasets.map Dataset.fileName)) := by
  have hline : ∀ (year : Int) (d : Dataset),
      (YearFile.mk r.dataPath year d).text = fileLine r.dataPath (year, d.fileName) := by
    intro year d
    have hquote : " AS aar FROM '" = " AS aar FROM " ++ "'" := rfl
    delta fileLine
    rw [YearFile.text, Dataset.source, hquote]
    simp only [String.append_assoc]
  simp only [files, Body.text, unionAll, filesText, yearFiles, List.map_flatMap, List.map_map,
    Function.comp_def, hline]

theorem files_outline (r : Report) (known : List String) (name : String) (datasets : List Dataset) :
    Outline known [⟨name, r.files datasets⟩] [(name, (r.files datasets).text)] [] :=
  outline_files known name _

/-- A join reads a known table and compares no year with a constant. -/
def Joinable (known : List String) (j : Join) : Prop :=
  j.table.name ∈ known ∧ j.conditions.flatMap Condition.yearTests = []

theorem yearTests_joins {known : List String} {joins : List Join} (h : ∀ j ∈ joins, Joinable known j) :
    joins.flatMap (·.conditions.flatMap Condition.yearTests) = [] :=
  List.flatMap_eq_nil_iff.2 fun j hj => (h j hj).2

/-- Rows are picked by the years of the query, if nothing else that picks them speaks of years. -/
theorem select_outline (r : Report) (s : Select Source) {table : String} {short : Option String}
    {filters : List Predicate} (hsource : s.source.tables = [table])
    (hfilters : s.filters = .holds (r.yearCondition short) :: filters) {known : List String}
    (htable : table ∈ known) (hjoins : ∀ j ∈ s.joins, Joinable known j)
    (htables : ∀ t ∈ filters.flatMap Predicate.tables, t ∈ known)
    (htests : filters.flatMap Predicate.yearTests = []) (name : String) :
    Outline known [⟨name, .select s⟩] []
      [(some name, yearsText (Column.mk short "aar").text r.years)] := by
  refine outline_body rfl ?_ ?_
  · rw [Body.tables, Select.tables, hsource, hfilters, List.flatMap_cons, List.forall_mem_append,
      List.forall_mem_append, List.forall_mem_singleton, List.forall_mem_map]
    exact ⟨⟨htable, fun j hj => (hjoins j hj).1⟩, htables⟩
  · have hyear : (Body.select s).yearTests = [r.yearCondition short] := by
      rw [Body.yearTests, Select.yearTests, yearTests_joins hjoins, hfilters, List.flatMap_cons, htests,
        Predicate.yearTests, yearTests_yearCondition]
      rfl
    have htext : (r.yearCondition short).text = yearsText (Column.mk short "aar").text r.years :=
      r.text_yearCondition short
    rw [hyear, ← htext]
    rfl

/-- The result of coverage puts tables side by side and picks nothing by year. -/
theorem coverageResult_outline (r : Report) (covered : Scalar) (joins : List Join)
    {known : List String} (hknown : "population" ∈ known) (hjoins : ∀ j ∈ joins, Joinable known j) :
    Outline known [⟨"result", .select (r.coverageResult covered joins)⟩] [] [] := by
  refine outline_body rfl ?_ ?_
  · have hreads : (Body.select (r.coverageResult covered joins)).tables
        = "population" :: (joins.map (·.table.name) ++ []) := rfl
    rw [hreads, List.append_nil, List.forall_mem_cons, List.forall_mem_map]
    exact ⟨hknown, fun j hj => (hjoins j hj).1⟩
  · have hyear : (Body.select (r.coverageResult covered joins)).yearTests
        = joins.flatMap (·.conditions.flatMap Condition.yearTests) ++ [] := rfl
    rw [hyear, yearTests_joins hjoins]
    rfl

theorem joinable_coverageJoin (r : Report) {known : List String} (h : "coverage" ∈ known) :
    Joinable known r.coverageJoin := by
  refine ⟨h, ?_⟩
  unfold coverageJoin ifMultiYear
  split <;> rfl

/-- The names of the tables of coverage, without and with a requirement. -/
def coverageNames (required : Bool) : List String :=
  if required then ["adr", "dekning", "population", "coverage", "result"]
  else ["adr", "population", "result"]

theorem coverageTables_outline {r : Report} {tables : List Definition}
    (h : r.coverageTables = .ok tables) :
    tables.map (·.name) = coverageNames r.query.requirement.isSome ∧
    Outline [] tables
      (("adr", (r.files [.addresses]).text) ::
        if r.query.requirement.isSome then
          [("dekning", (r.files [.fixedCoverage, .mobileCoverage]).text)] else [])
      ((some "population", yearsText "aar" r.years) ::
        if r.query.requirement.isSome then [(some "coverage", yearsText "a.aar" r.years)] else []) := by
  obtain ⟨filters, hfilters, h⟩ := bind_eq_ok_iff.1 h
  have hpopulation : ∀ known, "adr" ∈ known →
      Outline known [⟨"population", .select (r.addressSums none "total" (filters.map .holds))⟩] []
        [(some "population", yearsText "aar" r.years)] := by
    intro known hknown
    exact r.select_outline (r.addressSums none "total" _) rfl rfl hknown (List.forall_mem_nil _)
      (tables_filters filters) (yearTests_filters hfilters) _
  have hadr := r.files_outline [] "adr" [.addresses]
  cases hrequirement : r.query.requirement with
  | none =>
    rw [hrequirement] at h
    obtain rfl := pure_eq_ok_iff.1 h
    have hresult : Outline ["adr", "population"]
        [⟨"result", .select (r.coverageResult (.column ⟨some "p", "total"⟩) [])⟩] [] [] :=
      r.coverageResult_outline _ [] (by simp) (List.forall_mem_nil _)
    exact ⟨rfl, (hadr.append (hpopulation _ (by simp))).append hresult⟩
  | some requirement =>
    rw [hrequirement] at h
    obtain ⟨covered, hcovered, h⟩ := bind_eq_ok_iff.1 h
    obtain ⟨filters', hfilters', h⟩ := bind_eq_ok_iff.1 h
    obtain rfl := pure_eq_ok_iff.1 h
    obtain ⟨htests, htables⟩ := coverageMembership_outline hcovered
    have hdekning := r.files_outline ["adr"] "dekning" [.fixedCoverage, .mobileCoverage]
    have hcoverage : Outline ["adr", "dekning", "population"]
        [⟨"coverage", .select (r.addressSums (some "a") "covered" (covered :: filters'.map .holds))⟩] []
        [(some "coverage", yearsText "a.aar" r.years)] := by
      refine r.select_outline (r.addressSums (some "a") "covered" _) rfl rfl (by simp)
        (List.forall_mem_nil _) ?_ ?_ _
      · rw [List.flatMap_cons, List.forall_mem_append]
        exact ⟨fun t ht => by simp [htables t ht], tables_filters filters'⟩
      · rw [List.flatMap_cons, htests, yearTests_filters hfilters', List.append_nil]
    have hresult : Outline ["adr", "dekning", "population", "coverage"]
        [⟨"result", .select (r.coverageResult
          (.coalesce [.column ⟨some "c", "covered"⟩, .literal (.number 0)]) [r.coverageJoin])⟩] [] [] :=
      r.coverageResult_outline _ _ (by simp)
        (List.forall_mem_singleton.2 (r.joinable_coverageJoin (by simp)))
    exact ⟨rfl, (((hadr.append hdekning).append (hpopulation _ (by simp))).append hcoverage).append
      hresult⟩

/-! ## The end of a report -/

section

variable {tables : List Definition} {files : List (String × String)}
  {tests : List (Option String × String)}

/-- The row for the whole country is made of the result, and stands below the groups. -/
theorem closing_outline {known : List String} (hresult : "result" ∈ known) {groups : String}
    (hgroups : groups ∈ known) {national : Select Source} (h : national.Takes "result") :
    Outline known [⟨"national", .select national⟩, ⟨"combined", .union [groups, "national"]⟩] [] [] := by
  refine (h.outline hresult "national").append_rows (outline_union ?_)
  intro t ht
  rcases List.mem_cons.1 ht with rfl | ht
  · exact List.mem_append_left _ hgroups
  · exact List.mem_append_right _ ht

/-- A report by county whose groups are taken from the result. -/
theorem groups_outline (h : Outline [] tables files tests) (hresult : "result" ∈ tables.map (·.name))
    {name : String} (hnames : (tables.map (·.name) ++ [name, "national", "combined"]).Nodup)
    {groups national main : Select Source} (hgroups : groups.Takes "result")
    (hnational : national.Takes "result") (hmain : main.Takes "combined") :
    Statement.Outline ⟨tables ++ [⟨name, .select groups⟩, ⟨"national", .select national⟩,
      ⟨"combined", .union [name, "national"]⟩], main⟩ files tests := by
  have hclosing := closing_outline (List.mem_append_left [name] hresult)
    (List.mem_append_right (tables.map (·.name)) (List.mem_singleton_self name)) hnational
  have hall := h.append_rows ((hgroups.outline hresult name).append_rows hclosing)
  refine hall.statement ?_ hmain (by simp)
  rw [List.map_append]
  exact hnames

/-- The end of a report reads the result only, and picks nothing by year. -/
theorem ofResult_outline (r : Report) (h : Outline [] tables files tests)
    (hresult : "result" ∈ tables.map (·.name))
    (hnames : (tables.map (·.name) ++ ["top_groups", "national", "combined"]).Nodup) :
    (r.ofResult tables).Outline files tests := by
  by_cases hcounty : r.byCounty = true
  · cases hlimit : r.query.limit with
    | none =>
      have hnational : r.nationalRows.Takes "result" := ⟨rfl, rfl, rfl⟩
      have hall := h.append_rows (closing_outline hresult hresult hnational)
      rw [ofResult, if_pos hcounty, hlimit]
      simp only [List.append_nil]
      refine hall.statement ?_ ⟨rfl, rfl, rfl⟩ (by simp)
      rw [List.map_append]
      exact hnames.sublist ((List.append_sublist_append_left _).2 (List.sublist_cons_self _ _))
    | some n =>
      rw [ofResult, if_pos hcounty, hlimit]
      simp only [List.append_assoc]
      exact groups_outline h hresult hnames ⟨rfl, rfl, rfl⟩ ⟨rfl, rfl, rfl⟩ ⟨rfl, rfl, rfl⟩
  · rw [ofResult, if_neg hcounty]
    exact h.statement (List.nodup_append.1 hnames).1 ⟨rfl, rfl, rfl⟩ hresult

theorem nodup_coverageNames (required : Bool) :
    (coverageNames required ++ ["top_groups", "national", "combined"]).Nodup ∧
      (coverageNames required ++ ["pivoted", "national", "combined"]).Nodup := by
  cases required <;> decide

theorem result_mem_coverageNames (required : Bool) : "result" ∈ coverageNames required := by
  cases required <;> decide

/-- The years side by side are made of the result of coverage. -/
theorem pivot_outline {r : Report} {s : Statement} (h : r.pivot = .ok s) :
    ∃ tables, r.coverageTables = .ok tables ∧
      ∀ files tests, Outline [] tables files tests → s.Outline files tests := by
  obtain ⟨tables, htables, h⟩ := bind_eq_ok_iff.1 h
  have hnames := (coverageTables_outline htables).1
  have hresult : "result" ∈ tables.map (·.name) := hnames ▸ result_mem_coverageNames _
  have hnodup : (tables.map (·.name) ++ ["pivoted", "national", "combined"]).Nodup :=
    hnames ▸ (nodup_coverageNames _).2
  refine ⟨tables, htables, fun files tests houtline => ?_⟩
  by_cases hcounty : r.byCounty = true
  · rw [if_pos hcounty] at h
    obtain rfl := pure_eq_ok_iff.1 h
    refine groups_outline houtline hresult hnodup ?_ ⟨rfl, rfl, rfl⟩ ⟨rfl, rfl, rfl⟩
    -- limited or not, the rows are those of the result
    split
    · exact ⟨rfl, rfl, rfl⟩
    · exact ⟨rfl, rfl, rfl⟩
  · rw [if_neg hcounty] at h
    obtain rfl := pure_eq_ok_iff.1 h
    exact houtline.statement (List.nodup_append.1 hnodup).1 ⟨rfl, rfl, rfl⟩ hresult

/-- Subscriptions are picked by year where they are counted. The counties of their municipalities are
not, but each is looked up in its own year. -/
theorem countedSubscriptions_outline (r : Report) (s : Select Source) {filters : List Predicate}
    (hsource : s.source.tables = ["ab"])
    (hfilters : s.filters = .holds (r.yearCondition (some "s")) :: filters)
    (hjoins : s.joins = if r.byCounty then countyJoins else [])
    (htables : ∀ known : List String, ∀ t ∈ filters.flatMap Predicate.tables, t ∈ known)
    (htests : filters.flatMap Predicate.yearTests = []) :
    (r.ofResult (⟨"ab", r.files [.subscriptions]⟩ ::
      ((if r.byCounty then [⟨"adr", r.files [.addresses]⟩, ⟨"fylke_map", .nested countyMap⟩] else []) ++
        [⟨"result", .select s⟩]))).Outline
      (("ab", (r.files [.subscriptions]).text) ::
        if r.byCounty then [("adr", (r.files [.addresses]).text)] else [])
      [(some "result", yearsText "s.aar" r.years)] := by
  have hab := r.files_outline [] "ab" [.subscriptions]
  have hcounted : ∀ known, "ab" ∈ known → (∀ j ∈ s.joins, Joinable known j) →
      Outline known [⟨"result", .select s⟩] [] [(some "result", yearsText "s.aar" r.years)] :=
    fun known hknown hjoins =>
      r.select_outline s hsource hfilters hknown hjoins (htables known) htests "result"
  by_cases hcounty : r.byCounty = true
  · rw [if_pos hcounty] at hjoins
    rw [if_pos hcounty, if_pos hcounty]
    have hadr := r.files_outline ["ab"] "adr" [.addresses]
    have hmap : Outline ["ab", "adr"] [⟨"fylke_map", .nested countyMap⟩] [] [] :=
      outline_body rfl (by decide) rfl
    have hresult := hcounted ["ab", "adr", "fylke_map"] (by decide) (by
      rw [hjoins]
      unfold Joinable
      decide)
    have hnames : (["ab", "adr", "fylke_map", "result"] ++
        ["top_groups", "national", "combined"]).Nodup := by decide
    exact r.ofResult_outline (((hab.append hadr).append hmap).append hresult) (by simp) hnames
  · rw [if_neg hcounty] at hjoins
    rw [if_neg hcounty, if_neg hcounty]
    have hresult := hcounted ["ab"] (by decide) (by simp [hjoins])
    have hnames : (["ab", "result"] ++ ["top_groups", "national", "combined"]).Nodup := by decide
    exact r.ofResult_outline (hab.append hresult) (by simp) hnames

theorem subscription_outline {r : Report} {s : Statement} (h : r.subscription = .ok s) :
    s.Outline
      (("ab", (r.files [.subscriptions]).text) ::
        if r.byCounty then [("adr", (r.files [.addresses]).text)] else [])
      [(some "result", yearsText "s.aar" r.years)] := by
  obtain ⟨covered, -, h⟩ := bind_eq_ok_iff.1 h
  obtain ⟨filters, hfilters, h⟩ := bind_eq_ok_iff.1 h
  obtain rfl := pure_eq_ok_iff.1 h
  exact r.countedSubscriptions_outline _ rfl rfl rfl (fun _ => tables_filters filters)
    (yearTests_filters hfilters)

/-- Shares are picked by year at the end, as there is nothing in between. -/
theorem historicalShares_outline (r : Report) (first : Indicator) (rest : List Indicator) :
    (r.historicalShares first rest).Outline [("hist", (r.files [.historical]).text)]
      [(none, yearsText "aar" r.years)] := by
  have harea : (areaCondition r.query).yearTests = [] := by
    unfold areaCondition
    split <;> rfl
  have hchoice : (Condition.joinAll .or first.condition (rest.map Indicator.condition)).yearTests = [] := by
    apply yearTests_joinAll
    rw [← List.map_cons, List.forall_mem_map]
    exact fun _ _ => rfl
  have hreads : (r.historicalShares first rest).main.tables Source.tables = ["hist"] := rfl
  have hyears : ((r.historicalShares first rest).main.yearTests fun _ => [])
      = (r.yearCondition none).yearTests ++ ((areaCondition r.query).yearTests ++
        ((Condition.joinAll .or first.condition (rest.map Indicator.condition)).yearTests ++ [])) := rfl
  obtain ⟨hearlier, hfiles, -⟩ := r.files_outline [] "hist" [.historical]
  refine ⟨List.nodup_singleton _, hearlier, ?_, hfiles, ?_⟩
  · rw [hreads]
    exact List.forall_mem_singleton.2 (List.mem_singleton_self _)
  · have htext : (r.yearCondition none).text = yearsText "aar" r.years := r.text_yearCondition none
    rw [hyears, harea, hchoice, yearTests_yearCondition, ← htext]
    rfl

theorem historical_iff (r : Resolved) : r.historical = true ↔ ∃ y ∈ r.years, y < 2022 := by
  have hfirst : Year.firstDetailed = 2022 := rfl
  simp only [Resolved.historical, Year.isHistorical, hfirst, List.any_eq_true, decide_eq_true_eq]

/-- Coverage is made of the same tables, whether or not its years are put side by side. -/
theorem coverageStatement_outline {r : Report} {s : Statement}
    (hstrategy : r.strategy = .pivot ∨ r.strategy = .coverage) (h : r.statement = .ok s) :
    ∃ tables, r.coverageTables = .ok tables ∧
      ∀ files tests, Outline [] tables files tests → s.Outline files tests := by
  rcases hstrategy with hstrategy | hstrategy
  · rw [statement, hstrategy] at h
    exact pivot_outline h
  · rw [statement, hstrategy] at h
    obtain ⟨tables, htables, rfl⟩ := map_eq_ok_iff.1 h
    have hnames := (coverageTables_outline htables).1
    exact ⟨tables, htables, fun files tests houtline => r.ofResult_outline houtline
      (hnames ▸ result_mem_coverageNames _) (hnames ▸ (nodup_coverageNames _).1)⟩

/-- The statement of a report is closed. It reads the files that answer the query, and picks rows by all
years of the query. -/
theorem statement_outline {r : Report} {s : Statement} (h : r.statement = .ok s) :
    s.Outline
      ((r.query.fileTables r.years).map fun t => (t.1, filesText r.dataPath t.2))
      ((r.query.yearColumns r.years).map fun t => (t.1, yearsText t.2 r.years)) := by
  by_cases hearly : ∃ y ∈ r.years, y < 2022
  · have hstrategy : r.strategy = .historical := if_pos ((historical_iff _).2 hearly)
    rw [statement, hstrategy] at h
    obtain ⟨-, -, first, rest, -, rfl⟩ := historical_eq_ok_iff.1 h
    rw [Query.fileTables, Query.fileNames, Query.yearColumns, if_pos hearly, if_pos hearly]
    have houtline := r.historicalShares_outline first rest
    rw [text_files] at houtline
    exact houtline
  · have hlate : ¬ r.toResolved.historical = true := mt (historical_iff _).1 hearly
    rw [Query.fileTables, Query.fileNames, Query.yearColumns, if_neg hearly, if_neg hearly]
    by_cases hmetric : r.query.metric = .subscriptions
    · have hstrategy : r.strategy = .subscription := by
        rw [Resolved.strategy, if_neg hlate, if_pos hmetric]
      rw [statement, hstrategy] at h
      have houtline := subscription_outline h
      rw [text_files, text_files] at houtline
      rw [if_pos hmetric, if_pos hmetric]
      by_cases hcounty : r.query.grouping = .county
      · have hbyCounty : r.byCounty = true := decide_eq_true hcounty
        rw [if_pos hbyCounty] at houtline
        rw [if_pos hcounty]
        exact houtline
      · have hbyCounty : ¬ r.byCounty = true := mt of_decide_eq_true hcounty
        rw [if_neg hbyCounty] at houtline
        rw [if_neg hcounty]
        exact houtline
    · have hstrategy : r.strategy = .pivot ∨ r.strategy = .coverage := by
        rw [Resolved.strategy, if_neg hlate, if_neg hmetric]
        split
        · exact .inl rfl
        · exact .inr rfl
      obtain ⟨tables, htables, hstatement⟩ := coverageStatement_outline hstrategy h
      have houtline := hstatement _ _ (coverageTables_outline htables).2
      rw [text_files, text_files] at houtline
      rw [if_neg hmetric, if_neg hmetric]
      by_cases hrequired : r.query.requirement.isSome = true
      · rw [if_pos hrequired, if_pos hrequired] at houtline
        rw [if_pos hrequired, if_pos hrequired]
        exact houtline
      · rw [if_neg hrequired, if_neg hrequired] at houtline
        rw [if_neg hrequired, if_neg hrequired]
        exact houtline

end

end Report

/-! ## Every file once -/

theorem mem_yearFiles {years : List Int} {names : List String} {file : Int × String} :
    file ∈ yearFiles years names ↔ file.1 ∈ years ∧ file.2 ∈ names := by
  simp [yearFiles, Prod.ext_iff, and_comm]

theorem nodup_yearFiles {years : List Int} (hyears : years.Pairwise (· < ·)) {names : List String}
    (hnames : names.Nodup) : (yearFiles years names).Nodup := by
  refine List.nodup_flatMap.2 ⟨fun year _ => hnames.map fun a b h => (Prod.mk.inj h).2, ?_⟩
  refine hyears.imp fun {y z} hlt => ?_
  -- files of two years differ in the year
  intro file hy hz
  obtain ⟨a, -, rfl⟩ := List.mem_map.1 hy
  obtain ⟨b, -, hfile⟩ := List.mem_map.1 hz
  have hyear : z = y := (Prod.mk.inj hfile).1
  omega

theorem pairwise_yearFiles {years : List Int} (hyears : years.Pairwise (· < ·)) (names : List String) :
    ((yearFiles years names).map Prod.fst).Pairwise (· ≤ ·) := by
  rw [List.pairwise_map, yearFiles, List.pairwise_flatMap]
  constructor
  · intro year _
    rw [List.pairwise_map]
    exact List.pairwise_of_forall fun _ _ => le_refl year
  · refine hyears.imp fun {y z} hlt => ?_
    rw [List.forall_mem_map]
    intro a _
    rw [List.forall_mem_map]
    intro b _
    exact le_of_lt hlt

theorem Query.nodup_fileNames (q : Query) (years : List Int) :
    ((q.fileNames years).flatMap (·.2)).Nodup := by
  unfold Query.fileNames
  split
  · decide
  · split
    · split <;> decide
    · split <;> decide

/-- No file is read twice, as no name is: files of different names are different files. -/
theorem Query.nodup_fileTables (q : Query) {years : List Int} (hyears : years.Pairwise (· < ·)) :
    ((q.fileTables years).flatMap (·.2)).Nodup := by
  obtain ⟨heach, hdisjoint⟩ := List.nodup_flatMap.1 (q.nodup_fileNames years)
  rw [Query.fileTables, List.flatMap_map]
  refine List.nodup_flatMap.2 ⟨fun t ht => nodup_yearFiles hyears (heach t ht), ?_⟩
  refine hdisjoint.imp fun {t u} hnames => ?_
  intro file hfile hfile'
  exact hnames (mem_yearFiles.1 hfile).2 (mem_yearFiles.1 hfile').2

/-! ## The main statement -/

/-- **A statement reads the files that answer its query, each once.** The years of a query that has a
statement are those that its period denotes, in ascending order. The statement is closed: no two of its
tables have the same name, and what is no file is a table that is defined before. The tables made of
files are those for the query and its years, with the files of each in the order of the years and every
line tagged with the year of its file; no file occurs twice. Where rows are picked by their year, they
are picked by all years of the query and no others. -/
theorem Query.toSql_files {q : Query} {o : Options} {sql : String} (h : q.toSql o = .ok sql) :
    ∃ (years : List Int) (s : Statement),
      Period.resolve q.period o.year = .ok years ∧ years ≠ [] ∧ years.Pairwise (· < ·) ∧
      (∀ y, y ∈ years ↔ Period.Denotes o.year q.period y) ∧
      q.statement o = .ok s ∧ s.text = sql ∧
      s.Outline
        ((q.fileTables years).map fun t => (t.1, filesText o.directory t.2))
        ((q.yearColumns years).map fun t => (t.1, yearsText t.2 years)) ∧
      ((q.fileTables years).flatMap (·.2)).Nodup ∧
      ∀ t ∈ q.fileTables years, (t.2.map Prod.fst).Pairwise (· ≤ ·) := by
  obtain ⟨s, hs, htext⟩ := map_eq_ok_iff.1 h
  obtain ⟨r, hresolve, hreport⟩ := bind_eq_ok_iff.1 hs
  obtain ⟨rfl, hyears, hne⟩ := Query.resolve_eq_ok hresolve
  obtain ⟨hpairwise, hdenotes⟩ := Period.resolve_sound hyears
  have houtline := Report.statement_outline hreport
  refine ⟨r.years, s, hyears, hne, hpairwise, hdenotes, hs, htext, houtline,
    r.query.nodup_fileTables hpairwise, ?_⟩
  rw [Query.fileTables, List.forall_mem_map]
  exact fun t _ => pairwise_yearFiles hpairwise t.2

/-- Fibre in an early year and in later ones, which are named out of order and repeatedly. -/
def Query.earlyFibre : Query :=
  { requirement := some (.single (.technology .fiber false)), metric := .homes, grouping := .national,
    period := some (.years [2023, 2019, 2024, 2023]) }

/-- Subscriptions by county in a single year, offered by the caller. -/
def Query.subscriptionsByCounty : Query := { metric := .subscriptions, grouping := .county }

/-- One early year takes all years to the historical data. -/
theorem Query.toSql_files_earlyFibre :
    (∃ s : Statement, Query.earlyFibre.toSql {} = .ok s.text ∧ s.Outline
      [("hist", "SELECT *, 2019 AS aar FROM 'data/2019/dekning.parquet'\nUNION ALL\n" ++
        "SELECT *, 2023 AS aar FROM 'data/2023/dekning.parquet'\nUNION ALL\n" ++
        "SELECT *, 2024 AS aar FROM 'data/2024/dekning.parquet'")]
      [(none, "aar IN (2019, 2023, 2024)")]) ∧
    ∃ s : Statement, Query.subscriptionsByCounty.toSql { year := some 2024 } = .ok s.text ∧ s.Outline
      [("ab", "SELECT *, 2024 AS aar FROM 'data/2024/ab.parquet'"),
       ("adr", "SELECT *, 2024 AS aar FROM 'data/2024/adr.parquet'")]
      [(some "result", "s.aar = 2024")] := by
  constructor
  · obtain ⟨sql, h⟩ : ∃ sql, Query.earlyFibre.toSql {} = .ok sql := ⟨_, rfl⟩
    obtain ⟨years, s, hyears, -, -, -, -, rfl, houtline, -⟩ := Query.toSql_files h
    have hresolve : Period.resolve Query.earlyFibre.period none = .ok [2019, 2023, 2024] := rfl
    obtain rfl := Except.ok.inj (hresolve.symm.trans hyears)
    exact ⟨s, h, Eq.mp (congrArg₂ s.Outline (by decide +kernel) (by decide +kernel)) houtline⟩
  · obtain ⟨sql, h⟩ : ∃ sql, Query.subscriptionsByCounty.toSql { year := some 2024 } = .ok sql := ⟨_, rfl⟩
    obtain ⟨years, s, hyears, -, -, -, -, rfl, houtline, -⟩ := Query.toSql_files h
    have hresolve : Period.resolve Query.subscriptionsByCounty.period (some 2024) = .ok [2024] := rfl
    obtain rfl := Except.ok.inj (hresolve.symm.trans hyears)
    exact ⟨s, h, Eq.mp (congrArg₂ s.Outline (by decide +kernel) (by decide +kernel)) houtline⟩

end Broadband
