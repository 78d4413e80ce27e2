import Broadband.Proofs.Report.Files
import Broadband.Proofs.Report.Tables
import Broadband.Proofs.Sql.Columns

/-!
# The columns of a report

The tables of a report and what each of them exports are known from the query and its years alone:
`Query.scope` lists them. The year is a column of the result only if there are several, and then of every
table that is put beside the result or below it. The clauses `SHOW`, `SORT`, `TOP` and the row for the
whole country are written without a look at each other, so it has to be shown for all of them that what
they use is there (`Report.statement_scoped`). What is filtered and counted in data files is not
followed further: what columns a file has is not known here.
-/

namespace Broadband

open Checks Sql

/-! ## The tables of a report -/

namespace Query

/-- The columns of rows for groups: the group, the year if there are several, and figures. -/
def rowColumns (years : List Int) (figures : List String) : List String :=
  "gruppe" :: ((if 1 < years.length then ["aar"] else []) ++ figures)

/-- The columns of the result. -/
def resultColumns (years : List Int) : List String := rowColumns years ["covered", "total", "percent"]

/-- The columns of groups with the years side by side. -/
def pivotedColumns (q : Query) (years : List Int) : List String :=
  "gruppe" :: years.flatMap fun year =>
    (Report.shownFigures q.figures).map fun figure => figure ++ "_" ++ toString year

/-- The tables that the result is made of. -/
def baseScope (q : Query) (years : List Int) : Scope :=
  if q.metric = .subscriptions then
    ("ab", none) :: if q.grouping = .county then
      [("adr", none), ("fylke_map", some ["komnr", "old_fylke", "fylke", "aar"])] else []
  else if q.requirement.isSome then
    [("adr", none), ("dekning", none), ("population", some (rowColumns years ["total"])),
     ("coverage", some (rowColumns years ["covered"]))]
  else [("adr", none), ("population", some (rowColumns years ["total"]))]

/-- The tables behind the result, which only a report by county has. -/
def closingScope (q : Query) (years : List Int) : Scope :=
  if q.grouping = .county then
    if q.metric ≠ .subscriptions ∧ 1 < years.length then
      ["pivoted", "national", "combined"].map (·, some (q.pivotedColumns years))
    else
      ((if q.limit.isSome then ["top_groups"] else []) ++ ["national", "combined"]).map
        (·, some (resultColumns years))
  else []

/-- All tables of a report with their columns. -/
def scope (q : Query) (years : List Int) : Scope :=
  if ∃ y ∈ years, y < 2022 then [("hist", none)]
  else q.baseScope years ++ ("result", some (resultColumns years)) :: q.closingScope years

end Query

/-! ## Conditions on data files

The columns that a condition uses are those of the fields in it, so it is in scope exactly if these are. -/

/-- The fields that a criterion compares. -/
def Criterion.fields : Criterion → List Field
  | .technology _ _ => [.technology]
  | .compare field _ _ _ => [field]
  | .join _ left right => left.fields ++ right.fields
  | .not inner => inner.fields

/-- The fields that a requirement compares. -/
def Requirement.fields (r : Requirement) : List Field := r.branches.2.flatMap Criterion.fields

/-- The column that a filter picks rows by. -/
def Filter.column : Filter → String
  | .segment .urban | .segment .rural => "ertett"
  | .segment .residential | .segment .business => "privat"
  | .compare field _ _ => field.column

/-- The columns that the label of a group is made of. -/
def Grouping.columns : Grouping → List String
  | .national => []
  | .county => ["fylke"]
  | .municipality => ["komnavn"]
  | .postal => ["postnr"]
  | .urban => ["ertett"]
  | .provider => ["tilb"]
  | .technology => [technologyColumn]

/-- The columns that are summed to count a metric. -/
def Metric.columns : Metric → List String
  | .homes => ["hus"]
  | .buildings => ["bygninger"]
  | .cabins => ["fritid"]
  | .addresses | .subscriptions => []

section

variable {view scope : Scope} {qualifier : Option String} {c : Condition}

theorem Field.inScope_condition {f : Field} {op : Comparison} {v : Value}
    (h : f.condition op v qualifier = .ok c) : c.InScope view ↔ view.Has ⟨qualifier, f.column⟩ := by
  obtain ⟨l, -, rfl⟩ := map_eq_ok_iff.1 h
  exact and_iff_left trivial

theorem inScope_negateIf (negated : Bool) : (negateIf negated c).InScope view ↔ c.InScope view := by
  cases negated <;> rfl

theorem Criterion.inScope_condition {x : Criterion} (h : x.condition qualifier = .ok c) :
    c.InScope view ↔ ∀ f ∈ x.fields, view.Has ⟨qualifier, f.column⟩ := by
  induction x generalizing c with
  | technology t negated =>
    obtain rfl := Except.ok.inj h
    rw [inScope_negateIf, Criterion.fields, List.forall_mem_singleton]
    exact and_iff_left trivial
  | compare field op value negated =>
    obtain ⟨inner, hinner, rfl⟩ := map_eq_ok_iff.1 h
    rw [inScope_negateIf, Criterion.fields, List.forall_mem_singleton]
    exact Field.inScope_condition hinner
  | join op left right ihl ihr =>
    obtain ⟨l, hl, hrest⟩ := bind_eq_ok_iff.1 h
    obtain ⟨r, hr, hcond⟩ := bind_eq_ok_iff.1 hrest
    obtain rfl := pure_eq_ok_iff.1 hcond
    rw [Criterion.fields, List.forall_mem_append]
    exact and_congr (ihl hl) (ihr hr)
  | not inner ih =>
    obtain ⟨d, hd, hcond⟩ := bind_eq_ok_iff.1 h
    obtain rfl := pure_eq_ok_iff.1 hcond
    have hinner : d.InScope view ↔ ∀ f ∈ inner.fields, view.Has ⟨qualifier, f.column⟩ := ih hd
    exact hinner

theorem Filter.inScope_condition {f : Filter} (h : f.condition qualifier = .ok c) :
    c.InScope view ↔ view.Has ⟨qualifier, f.column⟩ := by
  cases f with
  | segment s =>
    obtain rfl := Except.ok.inj h
    cases s <;> exact and_iff_left trivial
  | compare field op value => exact Field.inScope_condition h

/-- What holds of the outcomes of a list, if what it says of a single outcome is known of its input. -/
theorem forall_mem_iff_of_mapM {ε α β : Type} {f : α → Except ε β} {P : α → Prop} {Q : β → Prop}
    (hf : ∀ x y, f x = .ok y → (Q y ↔ P x)) {xs : List α} {ys : List β} (h : xs.mapM f = .ok ys) :
    (∀ y ∈ ys, Q y) ↔ ∀ x ∈ xs, P x := by
  have hall := forall₂_of_mapM h
  clear h
  induction hall with
  | nil => exact iff_of_true (List.forall_mem_nil _) (List.forall_mem_nil _)
  | cons hy _ ih =>
    rw [List.forall_mem_cons, List.forall_mem_cons]
    exact and_congr (hf _ _ hy) ih

theorem inScope_filters {fs : List Filter} {cs : List Condition}
    (h : filterConditions fs qualifier = .ok cs) :
    (∀ p ∈ cs.map Predicate.holds, p.InScope view scope) ↔ ∀ f ∈ fs, view.Has ⟨qualifier, f.column⟩ := by
  rw [List.forall_mem_map]
  exact forall_mem_iff_of_mapM (fun _ _ => Filter.inScope_condition) h

theorem inScope_foldl (op : Connective) {cs : List Condition} :
    (cs.foldl (.join op) c).InScope view ↔ ∀ d ∈ c :: cs, d.InScope view := by
  induction cs generalizing c with
  | nil => exact List.forall_mem_singleton.symm
  | cons d ds ih =>
    rw [List.foldl_cons, ih, List.forall_mem_cons, List.forall_mem_cons, List.forall_mem_cons, ← and_assoc]
    rfl

theorem inScope_joinAll (op : Connective) {cs : List Condition} :
    (Condition.joinAll op c cs).InScope view ↔ ∀ d ∈ c :: cs, d.InScope view := by
  cases cs with
  | nil => exact List.forall_mem_singleton.symm
  | cons d ds => exact inScope_foldl op

theorem inScope_grouped : c.grouped.InScope view ↔ c.InScope view := by
  cases c <;> rfl

theorem inScope_criteria {xs : List Criterion} {cs : List Condition}
    (h : xs.mapM (Criterion.condition qualifier) = .ok cs) :
    (∀ d ∈ cs, d.InScope view) ↔ ∀ f ∈ xs.flatMap Criterion.fields, view.Has ⟨qualifier, f.column⟩ := by
  rw [List.forall_mem_flatMap]
  exact forall_mem_iff_of_mapM (fun _ _ => Criterion.inScope_condition) h

theorem Requirement.inScope_condition {r : Requirement} (h : r.condition qualifier = .ok c) :
    c.InScope view ↔ ∀ f ∈ r.fields, view.Has ⟨qualifier, f.column⟩ := by
  unfold Requirement.condition at h
  unfold Requirement.fields
  generalize r.branches = branches at h ⊢
  obtain ⟨quantifier, criteria⟩ := branches
  obtain ⟨conds, hconds, hc⟩ := bind_eq_ok_iff.1 h
  rw [← inScope_criteria hconds]
  cases conds with
  | nil => exact absurd hc throw_ne_ok
  | cons first rest =>
    obtain rfl := pure_eq_ok_iff.1 hc
    cases quantifier with
    | any => exact inScope_joinAll .or
    | all => exact inScope_joinAll .and
    | none => exact inScope_grouped.trans (inScope_joinAll .or)

theorem Grouping.inScope_label (g : Grouping) :
    (g.label qualifier).InScope view ↔ ∀ name ∈ g.columns, view.Has ⟨qualifier, name⟩ := by
  cases g with
  | national => exact iff_of_true trivial (List.forall_mem_nil _)
  | urban =>
    rw [Grouping.columns, List.forall_mem_singleton]
    exact and_iff_left ⟨trivial, trivial⟩
  | _ =>
    rw [Grouping.columns, List.forall_mem_singleton]
    rfl

theorem Metric.inScope_weight (m : Metric) :
    (m.weight qualifier).InScope view ↔ ∀ name ∈ m.columns, view.Has ⟨qualifier, name⟩ := by
  cases m with
  | addresses => exact iff_of_true trivial (List.forall_mem_nil _)
  | subscriptions => exact iff_of_true trivial (List.forall_mem_nil _)
  | _ =>
    rw [Metric.columns, List.forall_mem_singleton]
    rfl

namespace Report

theorem inScope_yearCondition (r : Report) :
    (r.yearCondition qualifier).InScope view ↔ view.Has ⟨qualifier, "aar"⟩ := by
  unfold yearCondition
  split
  · exact and_iff_left trivial
  · exact Iff.rfl

/-- Asking for coverage uses the key and the year of an address and of coverage rows, and what it asks for is
looked up in coverage rows first and in the address behind them. -/
theorem inScope_coverageMembership {r : Requirement} {p : Predicate}
    (h : coverageMembership.predicate r = .ok p)
    (haddress : ∀ name ∈ ["adrid", "aar"], view.Has ⟨some "a", name⟩)
    (hrows : ∀ name ∈ ["adrid", "aar"],
      Scope.Has (coverageMembership.source.bound scope :: view) ⟨some "d", name⟩)
    (hfields : ∀ f ∈ r.fields, Scope.Has (coverageMembership.source.bound scope :: view) ⟨none, f.column⟩) :
    p.InScope view scope := by
  unfold Membership.predicate at h
  unfold Requirement.fields at hfields
  generalize r.branches = branches at h hfields
  obtain ⟨quantifier, criteria⟩ := branches
  obtain ⟨conds, hconds, hp⟩ := bind_eq_ok_iff.1 h
  have hall := (inScope_criteria hconds).2 hfields
  have hkey : view.Has coverageMembership.key := haddress _ (by decide)
  have hsubquery : ∀ c, c.InScope (coverageMembership.source.bound scope :: view) →
      (coverageMembership.subquery c).InScope view scope := by
    intro c hc
    refine ⟨hrows _ (by decide), ?_⟩
    rintro d hd
    rcases List.mem_append.1 hd with hd | hd
    · obtain rfl := List.mem_singleton.1 hd
      exact ⟨hrows "aar" (by decide), Scope.Has.cons (haddress "aar" (by decide)) _⟩
    · rwa [List.mem_singleton.1 hd]
  cases conds with
  | nil => exact absurd hp throw_ne_ok
  | cons first rest =>
    obtain rfl := pure_eq_ok_iff.1 hp
    cases quantifier with
    | any => exact ⟨hkey, hsubquery _ ((inScope_joinAll .or).2 hall)⟩
    | none => exact ⟨hkey, hsubquery _ ((inScope_joinAll .or).2 hall)⟩
    | all =>
      refine ⟨hkey, ?_⟩
      rw [List.forall_mem_map]
      exact fun c hc => hsubquery c (hall c hc)

theorem inScope_coverageMembership_of_open {r : Requirement} {p : Predicate}
    (h : coverageMembership.predicate r = .ok p) (hopen : view.Open (some "a"))
    (hcoverage : scope.lookup "dekning" = some none) : p.InScope view scope := by
  have hrows : Scope.Open (coverageMembership.source.bound scope :: view) (some "d") :=
    Table.open_of_mem List.mem_cons_self hcoverage
  exact inScope_coverageMembership h (fun name _ => hopen.has name) (fun name _ => hrows.has name)
    fun f _ => hrows.unqualified.has f.column

end Report

end

/-! ## Rows for groups -/

namespace Query

theorem group_mem_rowColumns (years : List Int) (figures : List String) :
    "gruppe" ∈ rowColumns years figures := List.mem_cons_self

theorem mem_rowColumns {years : List Int} {figures : List String} {name : String} (h : name ∈ figures) :
    name ∈ rowColumns years figures := List.mem_cons_of_mem _ (List.mem_append_right _ h)

end Query

namespace Report

open Query

section

variable {r : Report} {scope : Scope} {tables : List Definition}

theorem rowColumns_eq (r : Report) (figures : List String) :
    rowColumns r.years figures = "gruppe" :: (r.ifMultiYear "aar" ++ figures) := by
  simp only [rowColumns, ifMultiYear, Resolved.multiYear, decide_eq_true_eq, gt_iff_lt]

theorem map_ifMultiYear {α β : Type} (r : Report) (f : α → β) (x : α) :
    (r.ifMultiYear x).map f = r.ifMultiYear (f x) := by
  unfold ifMultiYear
  split <;> rfl

theorem year_mem_rowColumns (h : r.multiYear = true) (figures : List String) :
    "aar" ∈ rowColumns r.years figures := by
  rw [rowColumns_eq, ifMultiYear, if_pos h]
  simp

theorem forall_mem_ifMultiYear_of {α : Type} {P : α → Prop} {x : α} (h : r.multiYear = true → P x) :
    ∀ y ∈ r.ifMultiYear x, P y := by
  by_cases hmulti : r.multiYear = true
  · exact r.forall_mem_ifMultiYear (h hmulti)
  · rw [ifMultiYear, if_neg hmulti]
    exact List.forall_mem_nil _

/-- Rows that are listed by group, year and figures are called so. -/
theorem label_rows (r : Report) {group year : Item} {figures : List Item} (hgroup : group.label = "gruppe")
    (hyear : year.label = "aar") {names : List String} (hnames : figures.map Item.label = names) :
    (group :: (r.ifMultiYear year ++ figures)).map Item.label = rowColumns r.years names := by
  rw [List.map_cons, List.map_append, map_ifMultiYear, hgroup, hyear, hnames, rowColumns_eq]

/-- And they export what their names say. -/
theorem exports_rows (r : Report) (s : Select Source) {group year : Item} {figures : List Item}
    (h : s.columns = group :: (r.ifMultiYear year ++ figures)) (hgroup : group.label = "gruppe")
    (hyear : year.label = "aar") {names : List String} (hnames : figures.map Item.label = names) :
    (Body.select s).exports scope = some (rowColumns r.years names) := by
  rw [Body.exports, Select.exports, h, List.isEmpty_cons, if_neg (by decide),
    r.label_rows hgroup hyear hnames]

/-! ## Sums over addresses and subscriptions -/

theorem files_scoped (r : Report) (scope : Scope) (name : String) (datasets : List Dataset) :
    Scoped scope [⟨name, r.files datasets⟩] (scope ++ [(name, none)]) :=
  scoped_body trivial rfl

/-- Sums over addresses use the label of a group, what is summed, and the year. -/
theorem addressSums_inScope (r : Report) (short : Option String) (name : String)
    (filters : List Predicate) :
    (Body.select (r.addressSums short name filters)).InScope scope ↔
      (∀ column ∈ r.query.grouping.columns ++ r.query.metric.columns ++ ["aar"],
        Scope.Has [Table.bound scope ⟨"adr", short⟩] ⟨short, column⟩) ∧
      ∀ p ∈ filters, p.InScope [Table.bound scope ⟨"adr", short⟩] scope := by
  rw [List.forall_mem_append, List.forall_mem_append, List.forall_mem_singleton,
    ← Grouping.inScope_label, ← Metric.inScope_weight, ← r.inScope_yearCondition]
  constructor
  · rintro ⟨-, hcolumns, -, hfilters, -, -⟩
    obtain ⟨hgroup, hfigures⟩ := List.forall_mem_cons.1 hcolumns
    obtain ⟨-, hsum⟩ := List.forall_mem_append.1 hfigures
    obtain ⟨hyear, hfilters⟩ := List.forall_mem_cons.1 hfilters
    exact ⟨⟨⟨hgroup, hsum _ (List.mem_singleton_self _)⟩, hyear⟩, hfilters⟩
  · rintro ⟨⟨⟨hgroup, hsum⟩, hyear⟩, hfilters⟩
    have hcolumn := r.inScope_yearCondition.1 hyear
    refine ⟨trivial, ?_, List.forall_mem_nil _, ?_, ?_, List.forall_mem_nil _⟩
    · refine List.forall_mem_cons.2 ⟨hgroup, List.forall_mem_append.2 ⟨?_, ?_⟩⟩
      · exact r.forall_mem_ifMultiYear hcolumn
      · exact List.forall_mem_singleton.2 hsum
    · exact List.forall_mem_cons.2 ⟨hyear, hfilters⟩
    · exact List.forall_mem_cons.2 ⟨hgroup, r.forall_mem_ifMultiYear hcolumn⟩

theorem addressSums_scoped (r : Report) (hadr : scope.lookup "adr" = some none) {short : Option String}
    {filters : List Predicate}
    (hfilters : Scope.Open [Table.bound scope ⟨"adr", short⟩] short →
      ∀ p ∈ filters, p.InScope [Table.bound scope ⟨"adr", short⟩] scope) (table name : String) :
    Scoped scope [⟨table, .select (r.addressSums short name filters)⟩]
      (scope ++ [(table, some (rowColumns r.years [name]))]) := by
  have hopen : Scope.Open [Table.bound scope ⟨"adr", short⟩] short :=
    Table.open_of_mem (List.mem_singleton_self _) hadr
  refine scoped_body ?_ (r.exports_rows (r.addressSums short name filters) rfl rfl rfl rfl)
  exact (r.addressSums_inScope short name filters).2 ⟨fun column _ => hopen.has column, hfilters hopen⟩

/-- The result of coverage, if what is covered and what stands beside the population is there. -/
theorem coverageResult_scoped (r : Report)
    (hpopulation : scope.lookup "population" = some (some (rowColumns r.years ["total"])))
    {covered : Scalar} {joins : List Join}
    (hcovered : covered.InScope ((r.coverageResult covered joins).view (Source.bound scope) scope))
    (hjoins : ∀ j ∈ joins, ∀ c ∈ j.conditions,
      c.InScope ((r.coverageResult covered joins).view (Source.bound scope) scope)) :
    Scoped scope [⟨"result", .select (r.coverageResult covered joins)⟩]
      (scope ++ [("result", some (resultColumns r.years))]) := by
  have hhas : ∀ name ∈ rowColumns r.years ["total"],
      Scope.Has ((r.coverageResult covered joins).view (Source.bound scope) scope) ⟨some "p", name⟩ :=
    fun name => Table.has_of_mem List.mem_cons_self hpopulation
  have htotal := hhas "total" (mem_rowColumns (List.mem_singleton_self _))
  refine scoped_body ⟨trivial, ?_, hjoins, List.forall_mem_nil _, List.forall_mem_nil _,
    List.forall_mem_nil _⟩ (r.exports_rows (r.coverageResult covered joins) rfl rfl rfl rfl)
  refine List.forall_mem_cons.2 ⟨hhas _ (group_mem_rowColumns _ _), List.forall_mem_append.2 ⟨?_, ?_⟩⟩
  · exact forall_mem_ifMultiYear_of fun hmulti => hhas _ (year_mem_rowColumns hmulti _)
  · simp only [List.forall_mem_cons]
    exact ⟨hcovered, htotal, ⟨hcovered, htotal⟩, List.forall_mem_nil _⟩

/-- With a requirement, what is covered of a group is looked up by group, and by year if there are
several. -/
theorem coveredResult_scoped (r : Report)
    (hpopulation : scope.lookup "population" = some (some (rowColumns r.years ["total"])))
    (hcoverage : scope.lookup "coverage" = some (some (rowColumns r.years ["covered"]))) :
    Scoped scope
      [⟨"result", .select (r.coverageResult
        (.coalesce [.column ⟨some "c", "covered"⟩, .literal (.number 0)]) [r.coverageJoin])⟩]
      (scope ++ [("result", some (resultColumns r.years))]) := by
  have hleft : ∀ name ∈ rowColumns r.years ["total"], Scope.Has
      [Table.bound scope ⟨"population", some "p"⟩, Table.bound scope r.coverageJoin.table]
      ⟨some "p", name⟩ :=
    fun name => Table.has_of_mem (t := ⟨"population", some "p"⟩) List.mem_cons_self hpopulation
  have hright : ∀ name ∈ rowColumns r.years ["covered"], Scope.Has
      [Table.bound scope ⟨"population", some "p"⟩, Table.bound scope r.coverageJoin.table]
      ⟨some "c", name⟩ :=
    fun name => Table.has_of_mem (t := r.coverageJoin.table) (by simp) hcoverage
  refine r.coverageResult_scoped hpopulation ?_ (List.forall_mem_singleton.2 ?_)
  · refine List.forall_mem_cons.2 ⟨hright _ ?_, List.forall_mem_singleton.2 trivial⟩
    exact mem_rowColumns (List.mem_singleton_self _)
  · refine List.forall_mem_cons.2 ⟨⟨hleft _ ?_, hright _ ?_⟩, ?_⟩
    · exact group_mem_rowColumns _ _
    · exact group_mem_rowColumns _ _
    · refine forall_mem_ifMultiYear_of fun hmulti => ⟨hleft _ ?_, hright _ ?_⟩
      · exact year_mem_rowColumns hmulti _
      · exact year_mem_rowColumns hmulti _

theorem coverageTables_scoped (h : r.coverageTables = .ok tables)
    (hmetric : r.query.metric ≠ .subscriptions) :
    Scoped [] tables (r.query.baseScope r.years ++ [("result", some (resultColumns r.years))]) := by
  obtain ⟨filters, hfilters, h⟩ := bind_eq_ok_iff.1 h
  have hadr := r.files_scoped [] "adr" [.addresses]
  have hpopulation : ∀ scope, scope.lookup "adr" = some none →
      Scoped scope [⟨"population", .select (r.addressSums none "total" (filters.map .holds))⟩]
        (scope ++ [("population", some (rowColumns r.years ["total"]))]) :=
    fun scope hscope => r.addressSums_scoped hscope
      (fun hopen => (inScope_filters hfilters).2 fun f _ => hopen.has f.column) _ _
  rw [baseScope, if_neg hmetric]
  cases hrequirement : r.query.requirement with
  | none =>
    rw [hrequirement] at h
    obtain rfl := pure_eq_ok_iff.1 h
    have hresult : Scoped [("adr", none), ("population", some (rowColumns r.years ["total"]))]
        [⟨"result", .select (r.coverageResult (.column ⟨some "p", "total"⟩) [])⟩] _ :=
      r.coverageResult_scoped rfl (Table.has_of_mem (t := ⟨"population", some "p"⟩) List.mem_cons_self
        rfl (mem_rowColumns (List.mem_singleton_self _))) (List.forall_mem_nil _)
    exact (hadr.append (hpopulation _ rfl)).append hresult
  | some requirement =>
    rw [hrequirement] at h
    obtain ⟨covered, hcovered, h⟩ := bind_eq_ok_iff.1 h
    obtain ⟨filters', hfilters', h⟩ := bind_eq_ok_iff.1 h
    obtain rfl := pure_eq_ok_iff.1 h
    have hdekning := r.files_scoped [("adr", none)] "dekning" [.fixedCoverage, .mobileCoverage]
    have hcoverage : Scoped
        [("adr", none), ("dekning", none), ("population", some (rowColumns r.years ["total"]))]
        [⟨"coverage", .select (r.addressSums (some "a") "covered" (covered :: filters'.map .holds))⟩] _ :=
      r.addressSums_scoped rfl (fun hopen => List.forall_mem_cons.2
        ⟨inScope_coverageMembership_of_open hcovered hopen rfl,
         (inScope_filters hfilters').2 fun f _ => hopen.has f.column⟩) _ _
    exact (((hadr.append hdekning).append (hpopulation _ rfl)).append hcoverage).append
      (r.coveredResult_scoped rfl rfl)

/-! ## The counties of subscriptions -/

theorem countyMap_scoped :
    Scoped [("ab", none), ("adr", none)] [⟨"fylke_map", .nested countyMap⟩]
      [("ab", none), ("adr", none), ("fylke_map", some ["komnr", "old_fylke", "fylke", "aar"])] :=
  scoped_body ⟨by decide, by decide⟩ rfl

/-- What is in view where subscriptions are counted. -/
def subscriptionView (r : Report) : Scope :=
  ("s", none) :: if r.byCounty then
    [("af", none), ("fm", some ["komnr", "old_fylke", "fylke", "aar"])] else []

theorem open_subscriptionView (r : Report) : r.subscriptionView.Open (some "s") :=
  ⟨"s", List.mem_cons_self, by rintro s ⟨⟩; rfl⟩

theorem inScope_subscriptionGroup (r : Report) : r.subscriptionGroup.InScope r.subscriptionView := by
  by_cases hcounty : r.byCounty = true
  · rw [subscriptionGroup, subscriptionView, if_pos hcounty, if_pos hcounty]
    decide
  · rw [subscriptionGroup, if_neg hcounty]
    exact r.query.grouping.inScope_label.2 fun name _ => r.open_subscriptionView.has name

theorem inScope_matchingSubscriptions {covered : Scalar} (h : r.matchingSubscriptions = .ok covered) :
    covered.InScope r.subscriptionView := by
  unfold matchingSubscriptions at h
  cases hrequirement : r.query.requirement with
  | none =>
    rw [hrequirement] at h
    obtain rfl := Except.ok.inj h
    exact trivial
  | some requirement =>
    rw [hrequirement] at h
    obtain ⟨c, hc, rfl⟩ := map_eq_ok_iff.1 h
    refine ⟨(Requirement.inScope_condition hc).2 fun f _ => ?_, trivial, trivial⟩
    exact r.open_subscriptionView.has f.column

theorem inScope_countyJoins (hcounty : r.byCounty = true) :
    ∀ j ∈ countyJoins, ∀ c ∈ j.conditions, c.InScope r.subscriptionView := by
  rw [subscriptionView, if_pos hcounty]
  decide

/-- Where subscriptions are counted, groups, years, the requirement, the filters and the counties use
columns. -/
theorem countedSubscriptions_inScope (r : Report) (covered : Scalar) (filters : List Condition)
    {view : Scope}
    (hview : (r.countedSubscriptions covered filters).view (Source.bound scope) scope = view) :
    (Body.select (r.countedSubscriptions covered filters)).InScope scope ↔
      r.subscriptionGroup.InScope view ∧ view.Has (subscriptionColumn "aar") ∧ covered.InScope view ∧
      (∀ j ∈ if r.byCounty then countyJoins else [], ∀ c ∈ j.conditions, c.InScope view) ∧
      ∀ p ∈ filters.map Predicate.holds, p.InScope view scope := by
  rw [Body.InScope, Select.WellScoped, hview]
  constructor
  · rintro ⟨-, hcolumns, hjoins, hfilters, -, -⟩
    obtain ⟨hgroup, hfigures⟩ := List.forall_mem_cons.1 hcolumns
    obtain ⟨-, hfigures⟩ := List.forall_mem_append.1 hfigures
    obtain ⟨hyear, hfilters⟩ := List.forall_mem_cons.1 hfilters
    exact ⟨hgroup, r.inScope_yearCondition.1 hyear, hfigures _ List.mem_cons_self, hjoins, hfilters⟩
  · rintro ⟨hgroup, hyear, hcovered, hjoins, hfilters⟩
    refine ⟨trivial, ?_, hjoins, ?_, ?_, List.forall_mem_nil _⟩
    · refine List.forall_mem_cons.2 ⟨hgroup, List.forall_mem_append.2 ⟨?_, ?_⟩⟩
      · exact r.forall_mem_ifMultiYear hyear
      · simp only [List.forall_mem_cons]
        exact ⟨hcovered, trivial, ⟨hcovered, trivial⟩, List.forall_mem_nil _⟩
    · exact List.forall_mem_cons.2 ⟨r.inScope_yearCondition.2 hyear, hfilters⟩
    · exact List.forall_mem_cons.2 ⟨hgroup, r.forall_mem_ifMultiYear hyear⟩

theorem countedSubscriptions_scoped (r : Report) {covered : Scalar} {filters : List Condition}
    (hview : (r.countedSubscriptions covered filters).view (Source.bound scope) scope = r.subscriptionView)
    (hcovered : r.matchingSubscriptions = .ok covered)
    (hfilters : filterConditions r.query.filters (some "s") = .ok filters) :
    Scoped scope [⟨"result", .select (r.countedSubscriptions covered filters)⟩]
      (scope ++ [("result", some (resultColumns r.years))]) := by
  have hhas := r.open_subscriptionView.has
  refine scoped_body ((r.countedSubscriptions_inScope covered filters hview).2 ?_)
    (r.exports_rows (r.countedSubscriptions covered filters) rfl rfl rfl rfl)
  refine ⟨r.inScope_subscriptionGroup, hhas _, inScope_matchingSubscriptions hcovered, ?_, ?_⟩
  · by_cases hcounty : r.byCounty = true
    · rw [if_pos hcounty]
      exact inScope_countyJoins hcounty
    · rw [if_neg hcounty]
      exact List.forall_mem_nil _
  · exact (inScope_filters hfilters).2 fun f _ => hhas f.column

theorem subscription_scoped {s : Statement} (h : r.subscription = .ok s)
    (hmetric : r.query.metric = .subscriptions) :
    ∃ tables, s = r.ofResult tables ∧
      Scoped [] tables (r.query.baseScope r.years ++ [("result", some (resultColumns r.years))]) := by
  rw [subscription_eq] at h
  obtain ⟨covered, hcovered, h⟩ := bind_eq_ok_iff.1 h
  obtain ⟨filters, hfilters, h⟩ := bind_eq_ok_iff.1 h
  obtain rfl := pure_eq_ok_iff.1 h
  refine ⟨_, rfl, ?_⟩
  have hab := r.files_scoped [] "ab" [.subscriptions]
  rw [baseScope, if_pos hmetric, subscriptionTables]
  by_cases hcounty : r.byCounty = true
  · rw [if_pos hcounty, if_pos (of_decide_eq_true hcounty)]
    have hadr := r.files_scoped [("ab", none)] "adr" [.addresses]
    refine ((hab.append hadr).append countyMap_scoped).append ?_
    refine r.countedSubscriptions_scoped ?_ hcovered hfilters
    rw [Select.view, countedSubscriptions, subscriptionView, if_pos hcounty, if_pos hcounty]
    rfl
  · rw [if_neg hcounty, if_neg (mt (decide_eq_true (p := _)) hcounty)]
    refine hab.append ?_
    refine r.countedSubscriptions_scoped ?_ hcovered hfilters
    rw [Select.view, countedSubscriptions, subscriptionView, if_neg hcounty, if_neg hcounty]
    rfl

/-! ## The end of a report -/

/-- What is taken from the result or a table like it, when nothing is joined. -/
theorem has_of_lookup {table name : String} {names : List String}
    (h : scope.lookup table = some (some names)) (hname : name ∈ names) :
    Scope.Has [Table.bound scope ⟨table, none⟩] ⟨none, name⟩ :=
  Table.has_of_mem (t := ⟨table, none⟩) (List.mem_singleton_self _) h hname

theorem sortColumn_mem_resultColumns (years : List Int) (key : SortKey) :
    sortColumn key ∈ resultColumns years := by
  cases key with
  | group => exact group_mem_rowColumns _ _
  | count => exact mem_rowColumns (by decide)
  | percent => exact mem_rowColumns (by decide)

theorem shownFigures_subset (figures : Figures) :
    ∀ name ∈ shownFigures figures, name ∈ ["covered", "total", "percent"] := by
  cases figures <;> decide

section

variable {table : String} (hresult : scope.lookup table = some (some (resultColumns r.years)))

include hresult

theorem inScope_order : ∀ k ∈ r.order, k.value.InScope [Table.bound scope ⟨table, none⟩] := by
  refine List.forall_mem_cons.2 ⟨?_, ?_⟩
  · exact has_of_lookup hresult (sortColumn_mem_resultColumns _ _)
  · exact forall_mem_ifMultiYear_of fun hmulti => has_of_lookup hresult (year_mem_rowColumns hmulti _)

theorem inScope_shownColumns :
    ∀ i ∈ r.shownColumns, i.value.InScope [Table.bound scope ⟨table, none⟩] := by
  rw [shownColumns, List.forall_mem_map, List.forall_mem_cons, List.forall_mem_append]
  refine ⟨?_, ?_, ?_⟩
  · exact has_of_lookup hresult (group_mem_rowColumns _ _)
  · exact forall_mem_ifMultiYear_of fun hmulti => has_of_lookup hresult (year_mem_rowColumns hmulti _)
  · intro name hname
    exact has_of_lookup hresult (mem_rowColumns (shownFigures_subset _ _ hname))

end

theorem nationalRows_wellScoped (hresult : scope.lookup "result" = some (some (resultColumns r.years))) :
    r.nationalRows.WellScoped scope := by
  have hhas : ∀ name ∈ resultColumns r.years,
      Scope.Has [Table.bound scope ⟨"result", none⟩] ⟨none, name⟩ := fun name => has_of_lookup hresult
  have hcovered := hhas "covered" (mem_rowColumns (by decide))
  have htotal := hhas "total" (mem_rowColumns (by decide))
  have hyear := fun hmulti => hhas "aar" (year_mem_rowColumns hmulti _)
  refine ⟨trivial, ?_, List.forall_mem_nil _, List.forall_mem_nil _, ?_, List.forall_mem_nil _⟩
  · refine List.forall_mem_cons.2 ⟨trivial, List.forall_mem_append.2 ⟨?_, ?_⟩⟩
    · exact forall_mem_ifMultiYear_of hyear
    · simp only [List.forall_mem_cons]
      exact ⟨hcovered, htotal, ⟨hcovered, htotal⟩, List.forall_mem_nil _⟩
  · exact forall_mem_ifMultiYear_of hyear

/-- The row for the whole country goes below the groups, as it has the same columns, and so does what
comes of it. -/
theorem closing_scoped (htables : Scoped [] tables scope) (groups : String) {names : List String}
    {national : Select Source} (hgroups : scope.lookup groups = some (some names))
    (hnational : scope.lookup "national" = none) (hcombined : scope.lookup "combined" = none)
    (hrow : national.WellScoped scope) (hexports : (Body.select national).exports scope = some names) :
    Scoped [] (tables ++ [⟨"national", .select national⟩, ⟨"combined", .union [groups, "national"]⟩])
        (scope ++ [("national", some names), ("combined", some names)]) ∧
      (scope ++ [("national", some names), ("combined", some names)]).lookup "combined"
        = some (some names) := by
  have hboth : ∀ t ∈ [groups, "national"],
      (scope ++ [("national", some names)]).lookup t = some (some names) := by
    simp only [List.forall_mem_cons, lookup_append_singleton, hgroups, hnational]
    exact ⟨rfl, rfl, List.forall_mem_nil _⟩
  have hbelow : Scoped scope [⟨"national", .select national⟩] (scope ++ [("national", some names)]) :=
    scoped_body hrow hexports
  have hall := htables.append (hbelow.append (scoped_union hboth "combined"))
  rw [List.append_assoc] at hall
  refine ⟨hall, ?_⟩
  rw [List.lookup_append, hcombined]
  rfl

/-- No table before the end of a report is called like one that closes it. -/
def Unclosed (scope : Scope) : Prop :=
  ∀ name ∈ ["top_groups", "pivoted", "national", "combined"], scope.lookup name = none

/-- The row for the whole country comes last, and its place is found by the group. -/
theorem inScope_nationalLast {table : String} {names : List String}
    (h : scope.lookup table = some (some names)) (hgroup : "gruppe" ∈ names) :
    nationalLast.value.InScope [Table.bound scope ⟨table, none⟩] :=
  ⟨⟨has_of_lookup h hgroup, trivial⟩, trivial, trivial⟩

/-- The end of a report by county, whose groups are in a table of their own or in the result. -/
theorem countyResult_scoped (r : Report) (htables : Scoped [] tables scope) (groups : String)
    (hresult : scope.lookup "result" = some (some (resultColumns r.years)))
    (hgroups : scope.lookup groups = some (some (resultColumns r.years)))
    (hnational : scope.lookup "national" = none) (hcombined : scope.lookup "combined" = none) :
    Scoped []
        (tables ++ [⟨"national", .select r.nationalRows⟩, ⟨"combined", .union [groups, "national"]⟩])
        (scope ++ ["national", "combined"].map (·, some (resultColumns r.years))) ∧
      Select.WellScoped (scope ++ ["national", "combined"].map (·, some (resultColumns r.years)))
        { columns := r.shownColumns, source := .table ⟨"combined", none⟩,
          orderBy := nationalLast :: r.order } := by
  obtain ⟨hall, hlookup⟩ := closing_scoped htables groups hgroups hnational hcombined
    (nationalRows_wellScoped hresult) (r.exports_rows r.nationalRows rfl rfl rfl rfl)
  refine ⟨hall, trivial, ?_, List.forall_mem_nil _, List.forall_mem_nil _, List.forall_mem_nil _, ?_⟩
  · exact inScope_shownColumns hlookup
  · exact List.forall_mem_cons.2
      ⟨inScope_nationalLast hlookup (group_mem_rowColumns _ _), inScope_order hlookup⟩

/-- The end of a report with one row for each group, or for each group and year. -/
theorem ofResult_scoped (r : Report) (htables : Scoped [] tables scope)
    (hresult : scope.lookup "result" = some (some (resultColumns r.years))) (hfresh : Unclosed scope)
    (hrows : r.byCounty = true → r.query.metric = .subscriptions ∨ ¬ r.multiYear = true) :
    Scoped [] (r.ofResult tables).tables (scope ++ r.query.closingScope r.years) ∧
      (r.ofResult tables).main.WellScoped (scope ++ r.query.closingScope r.years) := by
  simp only [Unclosed, List.forall_mem_cons] at hfresh
  obtain ⟨htop, -, hnational, hcombined, -⟩ := hfresh
  by_cases hcounty : r.byCounty = true
  · -- counties over several years come as rows for subscriptions only
    have hkept : ¬ (r.query.metric ≠ .subscriptions ∧ 1 < r.years.length) := by
      intro ⟨hmetric, hyears⟩
      exact (hrows hcounty).elim hmetric fun hsingle => hsingle (decide_eq_true hyears)
    rw [ofResult, if_pos hcounty, closingScope, if_pos (of_decide_eq_true hcounty), if_neg hkept]
    cases hlimit : r.query.limit with
    | none =>
      simp only [List.append_nil]
      exact r.countyResult_scoped htables "result" hresult hresult hnational hcombined
    | some n =>
      have hselect : ({ source := .table ⟨"result", none⟩, orderBy := r.order, limit := some n } :
          Select Source).WellScoped scope :=
        ⟨trivial, List.forall_mem_nil _, List.forall_mem_nil _, List.forall_mem_nil _,
          List.forall_mem_nil _, inScope_order hresult⟩
      have hgroups : Scoped scope [⟨"top_groups", .select
          { source := .table ⟨"result", none⟩, orderBy := r.order, limit := some n }⟩] _ :=
        scoped_body hselect (exports_all rfl rfl rfl hresult)
      have hclosed := r.countyResult_scoped (htables.append hgroups) "top_groups"
        (by simp [lookup_append_singleton, hresult]) (by simp [lookup_append_singleton, htop])
        (by simp [lookup_append_singleton, hnational]) (by simp [lookup_append_singleton, hcombined])
      rw [List.append_assoc scope] at hclosed
      exact hclosed
  · rw [ofResult, if_neg hcounty, closingScope, if_neg (mt (decide_eq_true (p := _)) hcounty),
      List.append_nil]
    refine ⟨htables, trivial, ?_, List.forall_mem_nil _, List.forall_mem_nil _, List.forall_mem_nil _, ?_⟩
    · exact inScope_shownColumns hresult
    · exact inScope_order hresult

/-! ## Years side by side -/

theorem label_yearColumns (figures : Figures) (year : Int) :
    (yearColumns figures year).map Item.label
      = (shownFigures figures).map fun figure => figure ++ "_" ++ toString year := by
  cases figures <;> rfl

theorem label_pivotColumns (r : Report) {group : Item} (hgroup : group.label = "gruppe") :
    (group :: r.pivotColumns).map Item.label = r.query.pivotedColumns r.years := by
  rw [List.map_cons, hgroup, pivotColumns, List.map_flatMap, pivotedColumns]
  simp only [label_yearColumns]

/-- A group or the whole country with the years side by side. -/
theorem exports_pivoted (r : Report) (s : Select Source) {group : Item}
    (h : s.columns = group :: r.pivotColumns) (hgroup : group.label = "gruppe") :
    (Body.select s).exports scope = some (r.query.pivotedColumns r.years) := by
  rw [Body.exports, Select.exports, h, List.isEmpty_cons, if_neg (by decide), r.label_pivotColumns hgroup]

section

variable (hresult : scope.lookup "result" = some (some (resultColumns r.years)))
  (hmulti : r.multiYear = true)

include hresult hmulti

theorem inScope_ofYear (year : Int) (name : String) (hname : name ∈ ["covered", "total", "percent"]) :
    (ofYear year name).InScope [Table.bound scope ⟨"result", none⟩] :=
  ⟨⟨has_of_lookup hresult (year_mem_rowColumns hmulti _), trivial⟩,
    has_of_lookup hresult (mem_rowColumns hname)⟩

theorem inScope_pivotColumns :
    ∀ i ∈ r.pivotColumns, i.value.InScope [Table.bound scope ⟨"result", none⟩] := by
  have hcovered := fun year => inScope_ofYear hresult hmulti year "covered" (by decide)
  have htotal := fun year => inScope_ofYear hresult hmulti year "total" (by decide)
  rw [pivotColumns, List.forall_mem_flatMap]
  intro year _
  rw [yearColumns, List.forall_mem_append]
  constructor
  · split
    · simp only [List.forall_mem_cons]
      exact ⟨hcovered year, htotal year, List.forall_mem_nil _⟩
    · exact List.forall_mem_nil _
  · split
    · exact List.forall_mem_singleton.2 ⟨hcovered year, htotal year⟩
    · exact List.forall_mem_nil _

/-- Groups with the years side by side, in whatever order and number. -/
theorem pivoted_wellScoped (order : List OrderKey) (horder : ∀ k ∈ order, k = r.groupOrder)
    (limit : Option Nat) :
    ({ r.pivotRows with orderBy := order, limit := limit } : Select Source).WellScoped scope := by
  have hgroup := has_of_lookup hresult (group_mem_rowColumns _ _)
  refine ⟨trivial, ?_, List.forall_mem_nil _, List.forall_mem_nil _, ?_, ?_⟩
  · exact List.forall_mem_cons.2 ⟨hgroup, inScope_pivotColumns hresult hmulti⟩
  · exact List.forall_mem_singleton.2 hgroup
  · intro k hk
    rw [horder k hk]
    exact hgroup

end

/-- The end of a report with the years side by side. -/
theorem pivot_scoped {s : Statement} (h : r.pivot = .ok s) (hmetric : r.query.metric ≠ .subscriptions)
    (hmulti : r.multiYear = true)
    (htables : ∀ tables, r.coverageTables = .ok tables → Scoped [] tables scope)
    (hresult : scope.lookup "result" = some (some (resultColumns r.years))) (hfresh : Unclosed scope) :
    Scoped [] s.tables (scope ++ r.query.closingScope r.years) ∧
      s.main.WellScoped (scope ++ r.query.closingScope r.years) := by
  obtain ⟨tables, hcoverage, h⟩ := bind_eq_ok_iff.1 h
  have htables := htables tables hcoverage
  simp only [Unclosed, List.forall_mem_cons] at hfresh
  obtain ⟨-, hpivoted, hnational, hcombined, -⟩ := hfresh
  have hlimited := pivoted_wellScoped hresult hmulti [r.groupOrder] (by simp) r.query.limit
  by_cases hcounty : r.byCounty = true
  · have hyears : r.query.metric ≠ .subscriptions ∧ 1 < r.years.length :=
      ⟨hmetric, of_decide_eq_true hmulti⟩
    rw [if_pos hcounty] at h
    obtain rfl := pure_eq_ok_iff.1 h
    rw [closingScope, if_pos (of_decide_eq_true hcounty), if_pos hyears]
    have hrows : (if r.query.limit.isSome then
        { r.pivotRows with orderBy := [r.groupOrder], limit := r.query.limit }
        else r.pivotRows : Select Source).WellScoped scope := by
      split
      · exact hlimited
      · exact pivoted_wellScoped hresult hmulti [] (List.forall_mem_nil _) none
    have hgroups : Scoped scope [⟨"pivoted", .select _⟩] _ :=
      scoped_body hrows (r.exports_pivoted _ (by split <;> rfl) rfl)
    have hrow : ({ columns := nationalGroup :: r.pivotColumns, source := .table ⟨"result", none⟩ } :
        Select Source).WellScoped
          (scope ++ [("pivoted", some (r.query.pivotedColumns r.years))]) :=
      ⟨trivial, List.forall_mem_cons.2 ⟨trivial, inScope_pivotColumns
          (by simp [lookup_append_singleton, hresult]) hmulti⟩,
        List.forall_mem_nil _, List.forall_mem_nil _, List.forall_mem_nil _, List.forall_mem_nil _⟩
    obtain ⟨hall, hlookup⟩ := closing_scoped (htables.append hgroups) "pivoted"
      (by simp [lookup_append_singleton, hpivoted]) (by simp [lookup_append_singleton, hnational])
      (by simp [lookup_append_singleton, hcombined]) hrow (r.exports_pivoted _ rfl rfl)
    rw [List.append_assoc, List.append_assoc] at hall
    rw [List.append_assoc] at hlookup
    refine ⟨hall, trivial, List.forall_mem_nil _, List.forall_mem_nil _, List.forall_mem_nil _,
      List.forall_mem_nil _, ?_⟩
    simp only [List.forall_mem_cons]
    exact ⟨inScope_nationalLast hlookup List.mem_cons_self, has_of_lookup hlookup List.mem_cons_self,
      List.forall_mem_nil _⟩
  · rw [if_neg hcounty] at h
    obtain rfl := pure_eq_ok_iff.1 h
    rw [closingScope, if_neg (mt (decide_eq_true (p := _)) hcounty), List.append_nil]
    exact ⟨htables, hlimited⟩

/-! ## Shares, and all reports -/

theorem historicalShares_scoped (r : Report) (first : Indicator) (rest : List Indicator) :
    Scoped [] (r.historicalShares first rest).tables [("hist", none)] ∧
      (r.historicalShares first rest).main.WellScoped [("hist", none)] := by
  have hopen : Scope.Open [("hist", none)] none := ⟨"hist", List.mem_singleton_self _, by rintro s ⟨⟩⟩
  have hhas := hopen.has
  have harea : (areaCondition r.query).InScope [("hist", none)] := by
    unfold areaCondition
    split
    · exact ⟨hhas _, trivial⟩
    · exact hhas _
  have hchoice : (Condition.joinAll .or first.condition (rest.map Indicator.condition)).InScope
      [("hist", none)] := by
    rw [inScope_joinAll, ← List.map_cons, List.forall_mem_map]
    exact fun _ _ => ⟨⟨hhas _, trivial⟩, hhas _, trivial⟩
  refine ⟨r.files_scoped [] "hist" [.historical], trivial, ?_, List.forall_mem_nil _, ?_, ?_, ?_⟩
  · refine List.forall_mem_cons.2 ⟨hhas _, List.forall_mem_append.2 ⟨List.forall_mem_append.2 ⟨?_, ?_⟩, ?_⟩⟩
    · exact r.forall_mem_ifMultiYear (hhas _)
    · exact forall_mem_ifSeveral rest (hhas _)
    · exact List.forall_mem_singleton.2 (hhas _)
  · simp only [historicalShares, List.forall_mem_cons]
    exact ⟨r.inScope_yearCondition.2 (hhas _), harea, hchoice, List.forall_mem_nil _⟩
  · refine List.forall_mem_cons.2 ⟨hhas _, List.forall_mem_append.2 ⟨?_, ?_⟩⟩
    · exact r.forall_mem_ifMultiYear (hhas _)
    · exact forall_mem_ifSeveral rest (hhas _)
  · refine List.forall_mem_cons.2 ⟨hhas _, List.forall_mem_append.2 ⟨?_, ?_⟩⟩
    · exact r.forall_mem_ifMultiYear (hhas _)
    · exact forall_mem_ifSeveral rest (hhas _)

/-- What a statement is made by. -/
theorem statement_cases {s : Statement} (h : r.statement = .ok s) :
    (∃ y ∈ r.years, y < 2022) ∧ r.historical = .ok s ∨
    (¬ ∃ y ∈ r.years, y < 2022) ∧
      (r.query.metric = .subscriptions ∧ r.subscription = .ok s ∨
       r.query.metric ≠ .subscriptions ∧
        ((r.multiYear = true ∧ r.query.grouping ≠ .national) ∧ r.pivot = .ok s ∨
         ¬ (r.multiYear = true ∧ r.query.grouping ≠ .national) ∧ r.coverage = .ok s)) := by
  rw [← historical_iff r.toResolved]
  rw [statement, Resolved.strategy] at h
  by_cases hearly : r.toResolved.historical = true
  · rw [if_pos hearly] at h
    exact .inl ⟨hearly, h⟩
  · rw [if_neg hearly] at h
    refine .inr ⟨hearly, ?_⟩
    by_cases hmetric : r.query.metric = .subscriptions
    · rw [if_pos hmetric] at h
      exact .inl ⟨hmetric, h⟩
    · rw [if_neg hmetric] at h
      refine .inr ⟨hmetric, ?_⟩
      by_cases hpivot : r.multiYear = true ∧ r.query.grouping ≠ .national
      · rw [if_pos hpivot] at h
        exact .inl ⟨hpivot, h⟩
      · rw [if_neg hpivot] at h
        exact .inr ⟨hpivot, h⟩

/-- The result is found behind the tables that it is made of, and none of the tables that close a report is
among them. -/
theorem lookup_baseScope (q : Query) (years : List Int) (columns : Columns) :
    (q.baseScope years ++ [("result", columns)]).lookup "result" = some columns ∧
      Unclosed (q.baseScope years ++ [("result", columns)]) := by
  unfold Unclosed baseScope
  split
  · split <;> exact ⟨rfl, by simp [List.lookup_cons]⟩
  · split <;> exact ⟨rfl, by simp [List.lookup_cons]⟩

theorem statement_scoped {s : Statement} (h : r.statement = .ok s) :
    Scoped [] s.tables (r.query.scope r.years) ∧ s.main.WellScoped (r.query.scope r.years) := by
  obtain ⟨hresult, hfresh⟩ := lookup_baseScope r.query r.years (some (resultColumns r.years))
  have hscope : r.query.baseScope r.years ++
      ("result", some (resultColumns r.years)) :: r.query.closingScope r.years
        = r.query.baseScope r.years ++ [("result", some (resultColumns r.years))] ++
          r.query.closingScope r.years := List.append_cons _ _ _
  unfold Query.scope
  rcases statement_cases h with ⟨hearly, h⟩ | ⟨hlate, ⟨hmetric, h⟩ | ⟨hmetric, ⟨hpivot, h⟩ | ⟨hrows, h⟩⟩⟩
  · rw [if_pos hearly]
    obtain ⟨-, -, first, rest, -, rfl⟩ := historical_eq_ok_iff.1 h
    exact r.historicalShares_scoped first rest
  · rw [if_neg hlate, hscope]
    obtain ⟨tables, rfl, htables⟩ := subscription_scoped h hmetric
    exact r.ofResult_scoped htables hresult hfresh fun _ => .inl hmetric
  · rw [if_neg hlate, hscope]
    exact pivot_scoped h hmetric hpivot.1 (fun tables htables => coverageTables_scoped htables hmetric)
      hresult hfresh
  · rw [if_neg hlate, hscope]
    obtain ⟨tables, htables, rfl⟩ := map_eq_ok_iff.1 h
    refine r.ofResult_scoped (coverageTables_scoped htables hmetric) hresult hfresh ?_
    -- several years by county would have been put side by side
    intro hcounty
    refine .inr fun hmulti => hrows ⟨hmulti, ?_⟩
    rw [of_decide_eq_true hcounty]
    decide

end

end Report

/-! ## The main statement -/

/-- **A statement is well scoped.** Whatever the query asks for, no two tables of its statement have the
same name, every table that is read comes from files or has been defined before, and the statement ends
with a selection from one of its tables. The tables are those of `Query.scope`, with the columns that it
gives them: the year is a column of the result only if there are several. All columns that are selected,
summed, compared, grouped or sorted by anywhere are columns of a table in view, and where tables are put
together, the row for the whole country below the groups, they have the same columns in the same order. -/
theorem Query.toSql_wellScoped {q : Query} {o : Options} {sql : String} (h : q.toSql o = .ok sql) :
    ∃ (years : List Int) (s : Statement), Period.resolve q.period o.year = .ok years ∧
      q.statement o = .ok s ∧ s.text = sql ∧ s.WellScoped (q.scope years) := by
  obtain ⟨s, hs, htext⟩ := map_eq_ok_iff.1 h
  obtain ⟨r, hresolve, hreport⟩ := bind_eq_ok_iff.1 hs
  obtain ⟨rfl, hyears, -⟩ := Query.resolve_eq_ok hresolve
  obtain ⟨hdistinct, hearlier, hreads, -, -⟩ := Report.statement_outline hreport
  obtain ⟨htables, hmain⟩ := Report.statement_scoped hreport
  exact ⟨r.years, s, hyears, hs, htext, hdistinct, hearlier, hreads, htables, hmain⟩

/-- The three counties with the most subscriptions in a year, of two years, as percentages. -/
def Query.topCounties : Query :=
  { metric := .subscriptions, grouping := .county, figures := .percent, sorting := ⟨.count, .desc⟩,
    limit := some 3, period := some (.years [2024, 2023]) }

/-- Fibre by county, with two years side by side. -/
def Query.fibreByCounty : Query :=
  { requirement := some (.single (.technology .fiber false)), metric := .homes, grouping := .county,
    figures := .percent, period := some (.years [2023, 2024]) }

/-- The year stays a column in one report, and goes into the names of columns in the other. -/
theorem Query.toSql_wellScoped_counties :
    (∃ s : Statement, Query.topCounties.toSql {} = .ok s.text ∧ s.WellScoped
      ([("ab", none), ("adr", none), ("fylke_map", some ["komnr", "old_fylke", "fylke", "aar"])] ++
        ["result", "top_groups", "national", "combined"].map
          (·, some ["gruppe", "aar", "covered", "total", "percent"]))) ∧
    ∃ s : Statement, Query.fibreByCounty.toSql {} = .ok s.text ∧ s.WellScoped
      ([("adr", none), ("dekning", none), ("population", some ["gruppe", "aar", "total"]),
        ("coverage", some ["gruppe", "aar", "covered"]),
        ("result", some ["gruppe", "aar", "covered", "total", "percent"])] ++
        ["pivoted", "national", "combined"].map (·, some ["gruppe", "percent_2023", "percent_2024"])) := by
  constructor
  · obtain ⟨sql, h⟩ : ∃ sql, Query.topCounties.toSql {} = .ok sql := ⟨_, rfl⟩
    obtain ⟨years, s, hyears, -, rfl, hscoped⟩ := Query.toSql_wellScoped h
    have hresolve : Period.resolve Query.topCounties.period none = .ok [2023, 2024] := rfl
    obtain rfl := Except.ok.inj (hresolve.symm.trans hyears)
    exact ⟨s, h, Eq.mp (congrArg s.WellScoped (by decide +kernel)) hscoped⟩
  · obtain ⟨sql, h⟩ : ∃ sql, Query.fibreByCounty.toSql {} = .ok sql := ⟨_, rfl⟩
    obtain ⟨years, s, hyears, -, rfl, hscoped⟩ := Query.toSql_wellScoped h
    have hresolve : Period.resolve Query.fibreByCounty.period none = .ok [2023, 2024] := rfl
    obtain rfl := Except.ok.inj (hresolve.symm.trans hyears)
    exact ⟨s, h, Eq.mp (congrArg s.WellScoped (by decide +kernel)) hscoped⟩

end Broadband
