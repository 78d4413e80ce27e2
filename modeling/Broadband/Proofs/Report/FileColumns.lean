import Broadband.Proofs.Report.Columns
import Broadband.Proofs.Report.Rejections
import Broadband.Proofs.Sql.FileColumns

/-!
# Queries and the columns of the files

Fields, groupings and segments are the same words whatever is counted, but the files differ: addresses have
no technology, speed or provider, and subscriptions have no building type. Before a statement is made, only
the segments of customers are checked against the metric, so a query may be accepted although its statement
asks for a column that the files do not have. Which queries do not is said here (`Query.FitsFiles`), and that
it is these whose statements find all their columns.

The metric never asks for a missing column, and no requirement on addresses does: its fields are looked up in
the coverage rows first and in the address behind them, which together have them all.
-/

namespace Broadband

open Checks Sql

/-! ## Queries that fit the files -/

/-- The field that a filter compares, if it compares one. -/
def Filter.fields : Filter → List Field
  | .segment _ => []
  | .compare field _ _ => [field]

/-- What the query says of addresses is in their files: neither its groups nor its filters are about coverage,
of which an address may have several rows. -/
def Query.FitsAddresses (q : Query) : Prop :=
  q.grouping ∉ [.provider, .technology] ∧
    ∀ f ∈ q.filters.flatMap Filter.fields, f ∉ [.technology, .download, .upload, .provider]

/-- What the query says of subscriptions is in their files: neither its filters nor its requirement are about
buildings. -/
def Query.FitsSubscriptions (q : Query) : Prop :=
  (∀ f ∈ q.filters.flatMap Filter.fields, f ≠ .buildingType) ∧
    ∀ f ∈ q.requirement.toList.flatMap Requirement.fields, f ≠ .buildingType

/-- What the query says of the rows that it counts is in their files. -/
def Query.FitsFiles (q : Query) : Prop :=
  if q.metric = .subscriptions then q.FitsSubscriptions else q.FitsAddresses

instance : DecidablePred Query.FitsAddresses := fun _ => inferInstanceAs (Decidable (_ ∧ _))

instance : DecidablePred Query.FitsSubscriptions := fun _ => inferInstanceAs (Decidable (_ ∧ _))

instance : DecidablePred Query.FitsFiles := fun _ => inferInstanceAs (Decidable (ite _ _ _))

/-! ## The vocabulary and the files -/

theorem Grouping.columns_addresses (g : Grouping) :
    (∀ name ∈ g.columns, name ∈ Dataset.addresses.taggedColumns) ↔ g ∉ [.provider, .technology] := by
  cases g <;> decide

theorem Grouping.columns_subscriptions (g : Grouping) :
    ∀ name ∈ g.columns, name ∈ Dataset.subscriptions.taggedColumns := by
  cases g <;> decide

theorem Metric.columns_addresses (m : Metric) :
    ∀ name ∈ m.columns, name ∈ Dataset.addresses.taggedColumns := by
  cases m <;> decide

theorem Field.column_addresses (f : Field) :
    f.column ∈ Dataset.addresses.taggedColumns ↔ f ∉ [.technology, .download, .upload, .provider] := by
  cases f <;> decide

theorem Field.column_subscriptions (f : Field) :
    f.column ∈ Dataset.subscriptions.taggedColumns ↔ f ≠ .buildingType := by
  cases f <;> decide

/-- What the addresses lack, coverage rows have. -/
theorem Field.column_coverage (f : Field) :
    f.column ∈ Dataset.fixedCoverage.taggedColumns ∨ f.column ∈ Dataset.addresses.taggedColumns := by
  cases f <;> decide

theorem Filter.column_addresses {f : Filter}
    (h : ∀ s, f = .segment s → ¬ (s = .residential ∨ s = .business)) :
    f.column ∈ Dataset.addresses.taggedColumns ↔
      ∀ field ∈ f.fields, field ∉ [.technology, .download, .upload, .provider] := by
  cases f with
  | segment s =>
    refine iff_of_true ?_ (List.forall_mem_nil _)
    have hsegment := h s rfl
    cases s with
    | urban => decide
    | rural => decide
    | residential => exact absurd (.inl rfl) hsegment
    | business => exact absurd (.inr rfl) hsegment
  | compare field op value =>
    rw [Filter.fields, List.forall_mem_singleton]
    exact field.column_addresses

theorem Filter.column_subscriptions (f : Filter) :
    f.column ∈ Dataset.subscriptions.taggedColumns ↔ ∀ field ∈ f.fields, field ≠ .buildingType := by
  cases f with
  | segment s =>
    refine iff_of_true ?_ (List.forall_mem_nil _)
    cases s <;> decide
  | compare field op value =>
    rw [Filter.fields, List.forall_mem_singleton]
    exact field.column_subscriptions

namespace Report

/-! ## The end of a report -/

/-- The result and the tables that are made of it. -/
def closingNames : List String := ["result", "top_groups", "pivoted", "national", "combined"]

/-- What closes a report reads the result and its own tables, and no file. -/
structure Closes (e : Statement) : Prop where
  files : fileScope e.tables = []
  tables : ∀ t ∈ e.tables.flatMap (·.body.tables), t ∈ closingNames
  main : ∀ t ∈ e.main.tables Source.tables, t ∈ closingNames

theorem ofResult_closes (r : Report) : Closes (r.ofResult []) := by
  unfold ofResult
  by_cases hcounty : r.byCounty = true
  · rw [if_pos hcounty]
    have hmain : ∀ t ∈ ["combined"], t ∈ closingNames := by decide
    cases r.query.limit with
    | none =>
      have htables : ∀ t ∈ ["result", "result", "national"], t ∈ closingNames := by decide
      exact ⟨rfl, htables, hmain⟩
    | some n =>
      have htables : ∀ t ∈ ["result", "result", "top_groups", "national"], t ∈ closingNames := by decide
      exact ⟨rfl, htables, hmain⟩
  · rw [if_neg hcounty]
    have hmain : ∀ t ∈ ["result"], t ∈ closingNames := by decide
    exact ⟨rfl, List.forall_mem_nil _, hmain⟩

theorem sideBySide_closes (r : Report) : Closes r.sideBySide := by
  unfold sideBySide
  by_cases hcounty : r.byCounty = true
  · rw [if_pos hcounty]
    have htables : ∀ t ∈ ["result", "result", "pivoted", "national"], t ∈ closingNames := by decide
    have hmain : ∀ t ∈ ["combined"], t ∈ closingNames := by decide
    cases r.query.limit with
    | none => exact ⟨rfl, htables, hmain⟩
    | some n => exact ⟨rfl, htables, hmain⟩
  · rw [if_neg hcounty]
    have hmain : ∀ t ∈ ["result"], t ∈ closingNames := by decide
    exact ⟨rfl, List.forall_mem_nil _, hmain⟩

theorem coverageEnd_closes (r : Report) : Closes r.coverageEnd := by
  unfold coverageEnd
  split
  · exact r.sideBySide_closes
  · exact r.ofResult_closes

/-- With what closes a report left out, only tables up to the result have to be looked at again. -/
theorem findsColumns_iff {front : List Definition} {e : Statement} {scope : Scope} (hclose : Closes e)
    (h : Statement.WellScoped ⟨front ++ e.tables, e.main⟩ scope)
    (hfront : ∀ t ∈ closingNames, t ∉ (fileScope front).map Prod.fst) :
    Statement.FindsColumns ⟨front ++ e.tables, e.main⟩ (fileScope (front ++ e.tables) ++ scope) ↔
      ∀ d ∈ front, (∃ t ∈ d.body.tables, t ∈ (fileScope front).map Prod.fst) →
        d.body.InScope (fileScope front ++ scope) := by
  have hfiles : fileScope (front ++ e.tables) = fileScope front := by
    rw [fileScope_append, hclose.files, List.append_nil]
  have hfinds := h.findsColumns_iff
  rw [hfiles] at hfinds ⊢
  rw [hfinds fun t ht => hfront t (hclose.main t ht), List.forall_mem_append]
  refine and_iff_left fun d hd => ?_
  rintro ⟨t, ht, hmem⟩
  exact absurd hmem (hfront t (hclose.tables t (List.mem_flatMap.2 ⟨d, hd, ht⟩)))

/-! ## Coverage -/

section

variable {r : Report} {scope : Scope}

theorem fileColumns_files (hyears : r.years ≠ []) (d : Dataset) (ds : List Dataset) :
    (r.files (d :: ds)).fileColumns = some d.taggedColumns := by
  obtain ⟨year, years, h⟩ := List.exists_cons_of_ne_nil hyears
  rw [files, h]
  rfl

/-- Sums over addresses find their columns if the label of the groups and the filters do. -/
theorem addressSums_findsColumns (hadr : scope.lookup "adr" = some (some Dataset.addresses.taggedColumns))
    (hsegments : ∀ s, .segment s ∈ r.query.filters → ¬ (s = .residential ∨ s = .business))
    {short : Option String} {conditions : List Condition}
    (hfilters : filterConditions r.query.filters short = .ok conditions) (name : String)
    {ps : List Predicate} (hps : ∀ p ∈ ps, p.InScope [Table.bound scope ⟨"adr", short⟩] scope) :
    (Body.select (r.addressSums short name (ps ++ conditions.map .holds))).InScope scope ↔
      r.query.FitsAddresses := by
  have hhas : ∀ column, Scope.Has [Table.bound scope ⟨"adr", short⟩] ⟨short, column⟩ ↔
      column ∈ Dataset.addresses.taggedColumns := by
    intro column
    rw [Table.bound, Scope.columnsOf, hadr]
    exact has_cons_iff (fun s hs => Table.eq_getD_short hs) (List.forall_mem_nil _)
  have hyear : "aar" ∈ Dataset.addresses.taggedColumns := by decide
  rw [Query.FitsAddresses, addressSums_inScope, List.forall_mem_append, List.forall_mem_append,
    List.forall_mem_append, List.forall_mem_singleton, and_iff_right hps, inScope_filters hfilters, List.forall_mem_flatMap]
  simp only [hhas]
  rw [Grouping.columns_addresses, and_iff_left r.query.metric.columns_addresses, and_iff_left hyear]
  refine and_congr_right fun _ => forall₂_congr fun f hf => Filter.column_addresses ?_
  rintro s rfl
  exact hsegments s hf

/-- A requirement on addresses finds its columns, whatever it compares. -/
theorem coverageMembership_findsColumns {x : Requirement} {covered : Predicate}
    (h : coverageMembership.predicate x = .ok covered)
    (hadr : scope.lookup "adr" = some (some Dataset.addresses.taggedColumns))
    (hdekning : scope.lookup "dekning" = some (some Dataset.fixedCoverage.taggedColumns)) :
    covered.InScope [Table.bound scope ⟨"adr", some "a"⟩] scope := by
  have haddress : ∀ name ∈ Dataset.addresses.taggedColumns,
      Scope.Has [Table.bound scope ⟨"adr", some "a"⟩] ⟨some "a", name⟩ :=
    fun name => Table.has_of_mem (t := ⟨"adr", some "a"⟩) (List.mem_singleton_self _) hadr
  have hrows : ∀ view, ∀ name ∈ Dataset.fixedCoverage.taggedColumns,
      Scope.Has (coverageMembership.source.bound scope :: view) ⟨some "d", name⟩ :=
    fun view name => Table.has_of_mem (t := coverageMembership.source) List.mem_cons_self hdekning
  refine inScope_coverageMembership h (fun name hname => haddress name ?_)
    (fun name hname => hrows _ name ?_) fun f _ => ?_
  · exact List.forall_mem_cons.2 ⟨by decide, by decide⟩ name hname
  · exact List.forall_mem_cons.2 ⟨by decide, by decide⟩ name hname
  · rcases f.column_coverage with hcolumn | hcolumn
    · exact (hrows _ _ hcolumn).unqualified
    · exact (Scope.Has.cons (haddress _ hcolumn) _).unqualified

/-- Without a requirement, the population alone is read from files. -/
theorem populationTables_reading (filters : List Condition) :
    (∀ d ∈ r.populationTables filters, (∃ t ∈ d.body.tables, t ∈ ["adr"]) → d.body.InScope scope) ↔
      (Body.select (r.addressSums none "total" (filters.map .holds))).InScope scope := by
  have hresult : "adr" ∉ ["population"] := by decide
  rw [populationTables, List.forall_mem_cons, List.forall_mem_cons, List.forall_mem_singleton]
  constructor
  · rintro ⟨-, hpopulation, -⟩
    exact hpopulation ⟨"adr", List.mem_cons_self, List.mem_singleton_self _⟩
  · intro hpopulation
    refine ⟨fun _ => trivial, fun _ => hpopulation, ?_⟩
    rintro ⟨t, ht, hmem⟩
    obtain rfl := List.mem_singleton.1 hmem
    exact absurd ht hresult

/-- With one, what is covered of it is too. -/
theorem coveredTables_reading (filters : List Condition) (covered : Predicate)
    (filters' : List Condition) :
    (∀ d ∈ r.coveredTables filters covered filters',
        (∃ t ∈ d.body.tables, t ∈ ["adr", "dekning"]) → d.body.InScope scope) ↔
      (Body.select (r.addressSums none "total" (filters.map .holds))).InScope scope ∧
      (Body.select (r.addressSums (some "a") "covered" (covered :: filters'.map .holds))).InScope scope := by
  have hresult : ∀ t ∈ ["adr", "dekning"], t ∉ ["population", "coverage"] := by decide
  rw [coveredTables, List.forall_mem_cons, List.forall_mem_cons, List.forall_mem_cons,
    List.forall_mem_cons, List.forall_mem_singleton]
  constructor
  · rintro ⟨-, -, hpopulation, hcoverage, -⟩
    exact ⟨hpopulation ⟨"adr", List.mem_cons_self, List.mem_cons_self⟩,
      hcoverage ⟨"adr", List.mem_cons_self, List.mem_cons_self⟩⟩
  · rintro ⟨hpopulation, hcoverage⟩
    refine ⟨fun _ => trivial, fun _ => trivial, fun _ => hpopulation, fun _ => hcoverage, ?_⟩
    rintro ⟨t, ht, hmem⟩
    exact absurd ht (hresult t hmem)

/-- The files of coverage, with their columns. -/
def coverageFiles : Scope :=
  [("adr", some Dataset.addresses.taggedColumns), ("dekning", some Dataset.fixedCoverage.taggedColumns)]

theorem fileScope_populationTables (hyears : r.years ≠ []) (filters : List Condition) :
    fileScope (r.populationTables filters) = [("adr", some Dataset.addresses.taggedColumns)] := by
  rw [populationTables, fileScope, List.filterMap_cons, fileColumns_files hyears]
  rfl

theorem fileScope_coveredTables (hyears : r.years ≠ []) (filters : List Condition) (covered : Predicate)
    (filters' : List Condition) :
    fileScope (r.coveredTables filters covered filters') = coverageFiles := by
  rw [coveredTables, fileScope, List.filterMap_cons, fileColumns_files hyears, List.filterMap_cons,
    fileColumns_files hyears]
  rfl

/-- Coverage finds its columns if the label of the groups and the filters do. -/
theorem coverageTables_findColumns (hyears : r.years ≠ []) {tables : List Definition}
    (h : r.coverageTables = .ok tables)
    (hsegments : ∀ s, .segment s ∈ r.query.filters → ¬ (s = .residential ∨ s = .business)) :
    (∀ d ∈ tables, (∃ t ∈ d.body.tables, t ∈ (fileScope tables).map Prod.fst) →
        d.body.InScope (fileScope tables ++ scope)) ↔
      r.query.FitsAddresses := by
  obtain ⟨filters, hfilters, ⟨-, rfl⟩ | ⟨x, covered, filters', -, hcovered, hfilters', rfl⟩⟩ :=
    coverageTables_cases h
  · rw [fileScope_populationTables hyears]
    refine (populationTables_reading filters).trans ?_
    exact addressSums_findsColumns rfl hsegments hfilters "total" (List.forall_mem_nil _)
  · rw [fileScope_coveredTables hyears]
    refine (coveredTables_reading filters covered filters').trans ?_
    have hmember : covered.InScope [Table.bound (coverageFiles ++ scope) ⟨"adr", some "a"⟩]
        (coverageFiles ++ scope) := coverageMembership_findsColumns hcovered rfl rfl
    -- what is covered is found where the population is
    refine (and_congr ?_ ?_).trans and_self_iff
    · exact addressSums_findsColumns rfl hsegments hfilters "total" (List.forall_mem_nil _)
    · exact addressSums_findsColumns rfl hsegments hfilters' "covered" (List.forall_mem_singleton.2 hmember)

/-! ## Subscriptions -/

/-- What is in view where subscriptions are counted, with the columns of the files. -/
def filedSubscriptionView (r : Report) : Scope :=
  ("s", some Dataset.subscriptions.taggedColumns) :: if r.byCounty then
    [("af", some Dataset.addresses.taggedColumns), ("fm", some ["komnr", "old_fylke", "fylke", "aar"])]
  else []

theorem has_filedSubscriptionView (r : Report) (name : String) :
    r.filedSubscriptionView.Has (subscriptionColumn name) ↔
      name ∈ Dataset.subscriptions.taggedColumns := by
  refine has_cons_iff (by rintro s ⟨⟩; rfl) ?_
  by_cases hcounty : r.byCounty = true
  · rw [if_pos hcounty]
    exact List.forall_mem_cons.2 ⟨⟨"s", rfl, by decide⟩, List.forall_mem_singleton.2 ⟨"s", rfl, by decide⟩⟩
  · rw [if_neg hcounty]
    exact List.forall_mem_nil _

/-- The label of the groups of subscriptions is found, also that of counties. -/
theorem subscriptionGroup_found (r : Report) : r.subscriptionGroup.InScope r.filedSubscriptionView := by
  by_cases hcounty : r.byCounty = true
  · rw [subscriptionGroup, filedSubscriptionView, if_pos hcounty, if_pos hcounty]
    decide
  · rw [subscriptionGroup, if_neg hcounty, Grouping.inScope_label]
    intro name hname
    exact (r.has_filedSubscriptionView name).2 (r.query.grouping.columns_subscriptions name hname)

theorem countyJoins_found (hcounty : r.byCounty = true) :
    ∀ j ∈ countyJoins, ∀ c ∈ j.conditions, c.InScope r.filedSubscriptionView := by
  rw [filedSubscriptionView, if_pos hcounty]
  decide

theorem matchingSubscriptions_findsColumns {covered : Scalar} (h : r.matchingSubscriptions = .ok covered) :
    covered.InScope r.filedSubscriptionView ↔
      ∀ f ∈ r.query.requirement.toList.flatMap Requirement.fields, f ≠ .buildingType := by
  unfold matchingSubscriptions at h
  cases hrequirement : r.query.requirement with
  | none =>
    rw [hrequirement] at h
    obtain rfl := Except.ok.inj h
    exact iff_of_true trivial (List.forall_mem_nil _)
  | some x =>
    rw [hrequirement] at h
    obtain ⟨c, hc, rfl⟩ := map_eq_ok_iff.1 h
    rw [Option.toList_some, List.flatMap_singleton]
    refine (and_iff_left ⟨trivial, trivial⟩).trans ((Requirement.inScope_condition hc).trans ?_)
    exact forall₂_congr fun f _ => (r.has_filedSubscriptionView _).trans f.column_subscriptions

/-- Where subscriptions are counted, columns are found if those of the filters and of the requirement are. -/
theorem countedSubscriptions_findsColumns {covered : Scalar} {filters : List Condition}
    (hview : (r.countedSubscriptions covered filters).view (Source.bound scope) scope
      = r.filedSubscriptionView)
    (hcovered : r.matchingSubscriptions = .ok covered)
    (hfilters : filterConditions r.query.filters (some "s") = .ok filters) :
    (Body.select (r.countedSubscriptions covered filters)).InScope scope ↔
      r.query.FitsSubscriptions := by
  have hyear : r.filedSubscriptionView.Has (subscriptionColumn "aar") :=
    (r.has_filedSubscriptionView "aar").2 (by decide)
  have hjoins : ∀ j ∈ if r.byCounty then countyJoins else [], ∀ c ∈ j.conditions,
      c.InScope r.filedSubscriptionView := by
    by_cases hcounty : r.byCounty = true
    · rw [if_pos hcounty]
      exact countyJoins_found hcounty
    · rw [if_neg hcounty]
      exact List.forall_mem_nil _
  have hkept : (∀ p ∈ filters.map Predicate.holds, p.InScope r.filedSubscriptionView scope) ↔
      ∀ f ∈ r.query.filters.flatMap Filter.fields, f ≠ .buildingType := by
    rw [inScope_filters hfilters, List.forall_mem_flatMap]
    exact forall₂_congr fun f _ => (r.has_filedSubscriptionView _).trans f.column_subscriptions
  rw [countedSubscriptions_inScope r covered filters hview, and_iff_right r.subscriptionGroup_found,
    and_iff_right hyear, matchingSubscriptions_findsColumns hcovered, and_iff_right hjoins, hkept,
    Query.FitsSubscriptions, and_comm]

/-- The files of subscriptions, with their columns. By county, the addresses are among them. -/
def subscriptionFiles (r : Report) : Scope :=
  ("ab", some Dataset.subscriptions.taggedColumns) ::
    if r.byCounty then [("adr", some Dataset.addresses.taggedColumns)] else []

theorem fileScope_subscriptionTables (hyears : r.years ≠ []) (result : Select Source) :
    fileScope (r.subscriptionTables ++ [⟨"result", .select result⟩]) = r.subscriptionFiles := by
  rw [subscriptionTables, subscriptionFiles, List.cons_append, fileScope, List.filterMap_cons,
    fileColumns_files hyears]
  by_cases hcounty : r.byCounty = true
  · rw [if_pos hcounty, if_pos hcounty, List.cons_append, List.filterMap_cons, fileColumns_files hyears]
    rfl
  · rw [if_neg hcounty, if_neg hcounty]
    rfl

/-- The counties of municipalities are found in the files. -/
theorem countyMap_found :
    (Body.nested countyMap).InScope [("ab", some Dataset.subscriptions.taggedColumns),
      ("adr", some Dataset.addresses.taggedColumns)] :=
  ⟨by decide, by decide⟩

theorem view_countedSubscriptions {covered : Scalar} {filters : List Condition}
    (hmap : r.byCounty = true →
      scope.lookup "fylke_map" = some (some ["komnr", "old_fylke", "fylke", "aar"])) :
    (r.countedSubscriptions covered filters).view (Source.bound (r.subscriptionFiles ++ scope))
      (r.subscriptionFiles ++ scope) = r.filedSubscriptionView := by
  rw [Select.view, countedSubscriptions, filedSubscriptionView, subscriptionFiles]
  by_cases hcounty : r.byCounty = true
  · rw [if_pos hcounty, if_pos hcounty, if_pos hcounty]
    have hcounties : Table.bound ([("ab", some Dataset.subscriptions.taggedColumns),
        ("adr", some Dataset.addresses.taggedColumns)] ++ scope) ⟨"fylke_map", some "fm"⟩
          = ("fm", some ["komnr", "old_fylke", "fylke", "aar"]) := by
      rw [Table.bound, Scope.columnsOf, lookup_append_of_notMem (by decide), hmap hcounty]
      rfl
    exact congrArg (fun counties => [_, _, counties]) hcounties
  · rw [if_neg hcounty, if_neg hcounty, if_neg hcounty]
    rfl

/-- Subscriptions find their columns if the filters and the requirement do. -/
theorem subscriptionTables_findColumns {covered : Scalar} {filters : List Condition}
    (hcovered : r.matchingSubscriptions = .ok covered)
    (hfilters : filterConditions r.query.filters (some "s") = .ok filters)
    (hmap : r.byCounty = true →
      scope.lookup "fylke_map" = some (some ["komnr", "old_fylke", "fylke", "aar"])) :
    (∀ d ∈ r.subscriptionTables ++ [⟨"result", .select (r.countedSubscriptions covered filters)⟩],
        (∃ t ∈ d.body.tables, t ∈ r.subscriptionFiles.map Prod.fst) →
          d.body.InScope (r.subscriptionFiles ++ scope)) ↔
      r.query.FitsSubscriptions := by
  rw [← countedSubscriptions_findsColumns (view_countedSubscriptions hmap) hcovered hfilters,
    List.forall_mem_append, List.forall_mem_singleton]
  have hresult : ∃ t ∈ (Body.select (r.countedSubscriptions covered filters)).tables,
      t ∈ r.subscriptionFiles.map Prod.fst := ⟨"ab", List.mem_cons_self, List.mem_cons_self⟩
  rw [forall_prop_of_true hresult]
  refine and_iff_right ?_
  rw [subscriptionTables, List.forall_mem_cons]
  refine ⟨fun _ => trivial, ?_⟩
  by_cases hcounty : r.byCounty = true
  · rw [if_pos hcounty, List.forall_mem_cons, List.forall_mem_singleton]
    refine ⟨fun _ => trivial, fun _ => ?_⟩
    rw [subscriptionFiles, if_pos hcounty]
    refine (Body.inScope_congr fun t ht => ?_).2 countyMap_found
    have hfiles : ∀ t ∈ (Body.nested countyMap).tables, t ∈ ["ab", "adr"] := by decide
    exact lookup_append_of_mem (hfiles t ht)
  · rw [if_neg hcounty]
    exact List.forall_mem_nil _

end

/-! ## All reports -/

section

variable {r : Report} (hyears : r.years ≠ [])

include hyears

/-! No file is called like a table that closes a report. -/

theorem coverageTables_fresh {tables : List Definition} (h : r.coverageTables = .ok tables) :
    ∀ t ∈ closingNames, t ∉ (fileScope tables).map Prod.fst := by
  obtain ⟨filters, -, ⟨-, rfl⟩ | ⟨x, covered, filters', -, -, -, rfl⟩⟩ := coverageTables_cases h
  · rw [fileScope_populationTables hyears]
    decide
  · rw [fileScope_coveredTables hyears]
    decide

theorem subscriptionTables_fresh (result : Select Source) : ∀ t ∈ closingNames,
    t ∉ (fileScope (r.subscriptionTables ++ [⟨"result", .select result⟩])).map Prod.fst := by
  rw [fileScope_subscriptionTables hyears, subscriptionFiles]
  split
  · decide
  · decide

end

theorem statement_wellScoped {r : Report} {s : Statement} (h : r.statement = .ok s) :
    s.WellScoped (r.query.scope r.years) := by
  obtain ⟨hdistinct, hearlier, hreads, -, -⟩ := statement_outline h
  obtain ⟨htables, hmain⟩ := statement_scoped h
  exact ⟨hdistinct, hearlier, hreads, htables, hmain⟩

/-- A report on single rows finds its columns if its query fits the files. -/
theorem statement_findsColumns {r : Report} {s : Statement} (h : r.statement = .ok s)
    (hlate : ¬ ∃ y ∈ r.years, y < 2022) (hyears : r.years ≠ [])
    (hsegments : r.query.checkOwnership = .ok ()) :
    s.FindsColumns (fileScope s.tables ++ r.query.scope r.years) ↔ r.query.FitsFiles := by
  have hscoped := statement_wellScoped h
  rw [← historical_iff r.toResolved] at hlate
  unfold Query.FitsFiles
  by_cases hmetric : r.query.metric = .subscriptions
  · rw [if_pos hmetric]
    rw [statement_of_subscriptions hlate hmetric, subscription_eq] at h
    obtain ⟨covered, hcovered, h⟩ := bind_eq_ok_iff.1 h
    obtain ⟨filters, hfilters, h⟩ := bind_eq_ok_iff.1 h
    obtain rfl := pure_eq_ok_iff.1 h
    rw [ofResult_eq] at hscoped ⊢
    rw [findsColumns_iff r.ofResult_closes hscoped (subscriptionTables_fresh hyears _),
      fileScope_subscriptionTables hyears]
    refine subscriptionTables_findColumns hcovered hfilters fun hcounty => ?_
    rw [historical_iff] at hlate
    rw [Query.scope, if_neg hlate, Query.baseScope, if_pos hmetric, if_pos (of_decide_eq_true hcounty)]
    rfl
  · rw [if_neg hmetric]
    rw [statement_of_coverage hlate hmetric] at h
    obtain ⟨tables, htables, rfl⟩ := map_eq_ok_iff.1 h
    rw [findsColumns_iff r.coverageEnd_closes hscoped (coverageTables_fresh hyears htables)]
    refine coverageTables_findColumns hyears htables ?_
    exact (Query.checkOwnership_eq_ok_iff.1 hsegments).resolve_left hmetric

end Report

/-! ## The main statement -/

/-- **A statement finds its columns exactly if its query fits the files.** Whatever a query asks for in years
with data on single rows, if it is accepted, then all columns that its statement selects, sums, compares,
groups or sorts by anywhere are columns of a table in view, with the files having the columns of their
datasets, exactly in these cases. Of subscriptions, neither a filter nor the requirement compares the building
type. Of anything else, the groups are neither providers nor technologies, and no filter compares a
technology, a speed or a provider. The statement of any other accepted query asks for a column that is not
there. -/
theorem Query.toSql_findsColumns_iff {q : Query} {o : Options} {sql : String} (h : q.toSql o = .ok sql) :
    ∃ (years : List Int) (s : Statement), Period.resolve q.period o.year = .ok years ∧
      q.statement o = .ok s ∧ s.text = sql ∧
      ((∀ y ∈ years, 2022 ≤ y) →
        (s.FindsColumns (fileScope s.tables ++ q.scope years) ↔ q.FitsFiles)) := by
  obtain ⟨s, hs, htext⟩ := map_eq_ok_iff.1 h
  obtain ⟨r, hresolve, hreport⟩ := bind_eq_ok_iff.1 hs
  obtain ⟨hsegments, -⟩ := check_bind_eq_ok_iff.1 hresolve
  obtain ⟨rfl, hyears, hne⟩ := Query.resolve_eq_ok hresolve
  refine ⟨r.years, s, hyears, hs, htext, fun hlate => ?_⟩
  refine Report.statement_findsColumns hreport ?_ hne hsegments
  rintro ⟨y, hy, hearly⟩
  have hyear := hlate y hy
  omega

/-- Homes by provider: addresses have no provider. -/
def Query.homesByProvider : Query := { metric := .homes, grouping := .provider }

/-- Homes of one building type with a provider: the one is asked of addresses, the other of coverage rows. -/
def Query.housesOfProvider : Query :=
  { requirement := some (.single (.compare .provider .eq (.text "Telenor") false)),
    filters := [.compare .buildingType .eq (.text "Enebolig")], metric := .homes, grouping := .county }

/-- Subscriptions in buildings of one type: subscriptions have no building type. -/
def Query.subscriptionsInHouses : Query :=
  { filters := [.compare .buildingType .eq (.text "Enebolig")], metric := .subscriptions,
    grouping := .provider }

/-- All three are accepted, and only the second finds its columns. -/
theorem Query.toSql_findsColumns_houses :
    (∃ s : Statement, Query.homesByProvider.toSql { year := some 2024 } = .ok s.text ∧
      ¬ s.FindsColumns (fileScope s.tables ++ Query.homesByProvider.scope [2024])) ∧
    (∃ s : Statement, Query.housesOfProvider.toSql { year := some 2024 } = .ok s.text ∧
      s.FindsColumns (fileScope s.tables ++ Query.housesOfProvider.scope [2024])) ∧
    ∃ s : Statement, Query.subscriptionsInHouses.toSql { year := some 2024 } = .ok s.text ∧
      ¬ s.FindsColumns (fileScope s.tables ++ Query.subscriptionsInHouses.scope [2024]) := by
  have hresolve : Period.resolve none (some 2024) = .ok [2024] := rfl
  refine ⟨?_, ?_, ?_⟩
  · obtain ⟨sql, h⟩ : ∃ sql, Query.homesByProvider.toSql { year := some 2024 } = .ok sql := ⟨_, rfl⟩
    obtain ⟨years, s, hyears, -, rfl, hfinds⟩ := Query.toSql_findsColumns_iff h
    obtain rfl := Except.ok.inj (hresolve.symm.trans hyears)
    exact ⟨s, h, mt (hfinds (by decide)).1 (by decide)⟩
  · obtain ⟨sql, h⟩ : ∃ sql, Query.housesOfProvider.toSql { year := some 2024 } = .ok sql := ⟨_, rfl⟩
    obtain ⟨years, s, hyears, -, rfl, hfinds⟩ := Query.toSql_findsColumns_iff h
    obtain rfl := Except.ok.inj (hresolve.symm.trans hyears)
    exact ⟨s, h, (hfinds (by decide)).2 (by decide)⟩
  · obtain ⟨sql, h⟩ : ∃ sql, Query.subscriptionsInHouses.toSql { year := some 2024 } = .ok sql := ⟨_, rfl⟩
    obtain ⟨years, s, hyears, -, rfl, hfinds⟩ := Query.toSql_findsColumns_iff h
    obtain rfl := Except.ok.inj (hresolve.symm.trans hyears)
    exact ⟨s, h, mt (hfinds (by decide)).1 (by decide)⟩

end Broadband
