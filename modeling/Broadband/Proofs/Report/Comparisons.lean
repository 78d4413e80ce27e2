import Broadband.Compile
import Broadband.Proofs.Report.Requirement

/-!
# Comparisons in reports

Which columns a report compares with which texts, for each of the ways in which the data for single
addresses are asked. Apart from requirement and filters nothing in the named tables of a report is
compared with a text; the only comparison outside of them is the one that puts the row for the whole
country last. `Report.statement_holds` collects what follows for the statement of a report.
-/

namespace Broadband

open Checks Sql

/-! ## The comparisons of a query -/

namespace Query

/-- The comparisons with texts in the filters. -/
def filtersCompared (q : Query) (qualifier : Option String) : List Compared :=
  q.filters.flatMap (Filter.compared qualifier)

/-- The comparisons with texts in a report of coverage: the population is filtered, and so are the
addresses that have the coverage which is asked for. -/
def coverageCompared (q : Query) : List Compared :=
  q.filtersCompared none ++
    q.requirement.toList.flatMap fun r => r.compared none ++ q.filtersCompared (some "a")

/-- The comparisons with texts in a report of subscriptions: the requirement stands twice, in the
number and in the percentage. -/
def subscriptionCompared (q : Query) : List Compared :=
  q.requirement.toList.flatMap (fun r => r.compared (some "s") ++ r.compared (some "s")) ++
    q.filtersCompared (some "s")

/-- The comparisons with texts in the named tables of a report. -/
def compared (q : Query) : List Compared :=
  if q.metric = .subscriptions then q.subscriptionCompared else q.coverageCompared

/-- The comparison that puts the row for the whole country last. -/
def closing (q : Query) : List Compared :=
  if q.grouping = .county then [⟨"gruppe", .eq, nationalLabel⟩] else []

end Query

/-! ## Groups, weights and years -/

variable {qualifier : Option String}

theorem Sql.Scalar.silent_column_mk (hq : Plain qualifier) {name : String} (hname : Word name) :
    (Scalar.column ⟨qualifier, name⟩).silent = true :=
  silent_column (Column.readable_mk hq hname)

theorem Grouping.silent_label (g : Grouping) (hq : Plain qualifier) :
    (g.label qualifier).silent = true := by
  cases g with
  | national => rfl
  | county => exact Scalar.silent_column_mk hq (by decide)
  | municipality => exact Scalar.silent_column_mk hq (by decide)
  | postal => exact Scalar.silent_column_mk hq (by decide)
  | urban =>
    have hurban : (Column.mk qualifier "ertett").readable = true :=
      Column.readable_mk hq (by decide)
    simp [label, Scalar.silent, Scalar.readable, Scalar.compared, Condition.readable,
      Condition.compared, hurban]
  | provider => exact Scalar.silent_column_mk hq (by decide)
  | technology => exact Scalar.silent_column_mk hq (by decide)

theorem Metric.silent_weight (m : Metric) (hq : Plain qualifier) :
    (m.weight qualifier).silent = true := by
  cases m with
  | homes => exact Scalar.silent_column_mk hq (by decide)
  | addresses => rfl
  | buildings => exact Scalar.silent_column_mk hq (by decide)
  | cabins => exact Scalar.silent_column_mk hq (by decide)
  | subscriptions => rfl

namespace Report

/-- What holds of a part holds of it also where it stands only if there are several years. -/
theorem forall_mem_ifMultiYear {α : Type} {P : α → Prop} (r : Report) {x : α} (h : P x) :
    ∀ y ∈ r.ifMultiYear x, P y := by
  intro y hy
  unfold ifMultiYear at hy
  split at hy
  · rwa [List.mem_singleton.1 hy]
  · exact absurd hy List.not_mem_nil

theorem yearCondition_compared (r : Report) (hq : Plain qualifier) :
    (r.yearCondition qualifier).readable = true ∧ (r.yearCondition qualifier).compared = [] := by
  have hyear : (Column.mk qualifier "aar").readable = true := Column.readable_mk hq (by decide)
  unfold yearCondition
  split <;> exact ⟨by simp [Condition.readable, Operand.readable, hyear], rfl⟩

/-- The filters of a query as predicates. -/
theorem filters_compared (hq : Plain qualifier) {fs : List Filter} {cs : List Condition}
    (h : filterConditions fs qualifier = .ok cs) :
    (∀ p ∈ cs.map Predicate.holds, p.readable = true) ∧
      (cs.map Predicate.holds).flatMap Predicate.compared
        = fs.flatMap (Filter.compared qualifier) := by
  obtain ⟨hreadable, hcompared⟩ := filterConditions_compared hq h
  rw [List.forall_mem_map, List.flatMap_map, ← hcompared]
  exact ⟨hreadable, rfl⟩

theorem files_readable {r : Report} (hpath : '\'' ∉ r.dataPath.toList) (datasets : List Dataset) :
    (r.files datasets).Readable := by
  intro f hf
  simp only [List.mem_flatMap, List.mem_map] at hf
  obtain ⟨year, -, d, -, rfl⟩ := hf
  exact hpath

/-! ## Coverage -/

/-- The sums over addresses compare what their filters do. -/
theorem addressSums_holds (r : Report) {short : Option String} (hshort : Plain short)
    {name : String} (hname : Unmarked name) {filters : List Predicate}
    (hfilters : ∀ p ∈ filters, p.readable = true) :
    (r.addressSums short name filters).Holds (filters.flatMap Predicate.compared) := by
  have hgroup := r.query.grouping.silent_label hshort
  have hweight := r.query.metric.silent_weight hshort
  have hyear : (Column.mk short "aar").readable = true := Column.readable_mk hshort (by decide)
  obtain ⟨hyears, hyears'⟩ := r.yearCondition_compared hshort
  have hcolumns : ∀ i ∈ (r.addressSums short name filters).columns, i.silent = true :=
    List.forall_mem_cons.2 ⟨Item.silent_named hgroup (by decide), List.forall_mem_append.2
      ⟨r.forall_mem_ifMultiYear (Item.silent_same hyear),
        List.forall_mem_singleton.2 (Item.silent_named hweight hname)⟩⟩
  have hsource : Unmarked (Table.mk "adr" short).text := by
    cases short with
    | none => decide
    | some q => exact (show Unmarked "adr " by decide).append (hshort q rfl).unmarked
  have hgroupBy : ∀ x ∈ (r.addressSums short name filters).groupBy, x.silent = true :=
    List.forall_mem_cons.2 ⟨hgroup, r.forall_mem_ifMultiYear (Scalar.silent_column hyear)⟩
  have hselect := Select.holds_of_silent (s := r.addressSums short name filters) hcolumns hsource
    (List.forall_mem_nil _) (List.forall_mem_cons.2 ⟨hyears, hfilters⟩) hgroupBy
    (List.forall_mem_nil _)
  -- the first filter is the one for the years, which compares numbers only
  refine ⟨hselect.readable, hselect.compared.trans ?_⟩
  rw [addressSums, List.flatMap_cons, Predicate.compared, hyears', List.nil_append]
  exact List.append_nil _

/-- The result compares nothing with a text. -/
theorem coverageResult_holds (r : Report) {covered : Scalar} (hcovered : covered.silent = true)
    (joins : List Join) (hjoins : ∀ j ∈ joins, Unmarked j.text) :
    (r.coverageResult covered joins).Holds [] := by
  have htotal : (Scalar.column ⟨some "p", "total"⟩).silent = true := by decide
  have hsource : Unmarked (Table.mk "population" (some "p")).text := by decide
  refine Select.holds_of_silent (s := r.coverageResult covered joins) ?_ hsource hjoins
    (List.forall_mem_nil _) (List.forall_mem_nil _) (List.forall_mem_nil _)
  refine List.forall_mem_cons.2 ⟨by decide, List.forall_mem_append.2
    ⟨r.forall_mem_ifMultiYear (by decide), ?_⟩⟩
  simp only [List.forall_mem_cons]
  exact ⟨Item.silent_named hcovered (by decide), by decide,
    Item.silent_named (Scalar.silent_percentage hcovered htotal) (by decide), List.forall_mem_nil _⟩

theorem unmarked_coverageJoin (r : Report) : Unmarked r.coverageJoin.text := by
  unfold coverageJoin ifMultiYear
  split <;> decide

theorem coverageMembership_readable : coverageMembership.Readable :=
  ⟨by decide, by decide, by decide, by simp [coverageMembership]; decide⟩

/-- The tables of coverage hold the comparisons of filters and requirement. -/
theorem coverageTables_hold {r : Report} (hpath : '\'' ∉ r.dataPath.toList)
    {tables : List Definition} (h : r.coverageTables = .ok tables) :
    Hold tables r.query.coverageCompared := by
  have hadr : Hold [⟨"adr", r.files [.addresses]⟩] [] :=
    hold_singleton (show Unmarked "adr" by decide) (files_readable hpath _)
  unfold coverageTables at h
  obtain ⟨filters, hfilters, h⟩ := bind_eq_ok_iff.1 h
  obtain ⟨hreadable, hcompared⟩ := filters_compared plain_none hfilters
  have hpopulation := (r.addressSums_holds plain_none (show Unmarked "total" by decide)
    hreadable).table (show Unmarked "population" by decide)
  rw [hcompared] at hpopulation
  rw [Query.coverageCompared]
  cases hrequirement : r.query.requirement with
  | none =>
    rw [hrequirement] at h
    obtain rfl := pure_eq_ok_iff.1 h
    have hall : (Scalar.column ⟨some "p", "total"⟩).silent = true := by decide
    have hresult := (r.coverageResult_holds hall [] (List.forall_mem_nil _)).table
      (show Unmarked "result" by decide)
    exact hadr.append (hpopulation.append hresult)
  | some requirement =>
    rw [hrequirement] at h
    obtain ⟨covered, hcovered, h⟩ := bind_eq_ok_iff.1 h
    obtain ⟨filters', hfilters', h⟩ := bind_eq_ok_iff.1 h
    obtain rfl := pure_eq_ok_iff.1 h
    have ha : Plain (some "a") := plain_some (by decide)
    obtain ⟨hcoveredReadable, hcoveredCompared⟩ :=
      coverageMembership.predicate_compared coverageMembership_readable hcovered
    obtain ⟨hreadable', hcompared'⟩ := filters_compared ha hfilters'
    have hdekning : Hold [⟨"dekning", r.files [.fixedCoverage, .mobileCoverage]⟩] [] :=
      hold_singleton (show Unmarked "dekning" by decide) (files_readable hpath _)
    -- the covered addresses meet the requirement and pass the filters of the population
    have hcoverage := (r.addressSums_holds ha (show Unmarked "covered" by decide)
      (List.forall_mem_cons.2 ⟨hcoveredReadable, hreadable'⟩)).table
      (show Unmarked "coverage" by decide)
    rw [List.flatMap_cons, hcoveredCompared, hcompared'] at hcoverage
    have hnone : (Scalar.coalesce [.column ⟨some "c", "covered"⟩, .literal (.number 0)]).silent
        = true := by decide
    have hresult := (r.coverageResult_holds hnone [r.coverageJoin]
      (List.forall_mem_singleton.2 r.unmarked_coverageJoin)).table (show Unmarked "result" by decide)
    have htables := hadr.append (hdekning.append (hpopulation.append (hcoverage.append hresult)))
    simpa [Query.filtersCompared] using htables

/-! ## The end of a report -/

theorem closing_eq (r : Report) :
    r.query.closing = if r.byCounty = true then [⟨"gruppe", .eq, nationalLabel⟩] else [] := by
  simp [Query.closing, byCounty]

theorem silent_order (r : Report) : ∀ k ∈ r.order, k.value.silent = true := by
  have hkey : ∀ key, (column (sortColumn key)).silent = true := by
    intro key
    cases key <;> decide
  exact List.forall_mem_cons.2 ⟨hkey _, r.forall_mem_ifMultiYear (by decide)⟩

theorem silent_shownColumns (r : Report) : ∀ i ∈ r.shownColumns, i.silent = true := by
  refine List.forall_mem_map.2 (List.forall_mem_cons.2 ⟨by decide, List.forall_mem_append.2
    ⟨r.forall_mem_ifMultiYear (by decide), ?_⟩⟩)
  cases r.query.figures <;> decide

theorem silent_nationalGroup : nationalGroup.silent = true := by decide

/-- Rows of `result` in an order that compares nothing with a text. -/
theorem sorted_holds {columns : List Item} (hcolumns : ∀ i ∈ columns, i.silent = true)
    {groupBy : List Scalar} (hgroupBy : ∀ x ∈ groupBy, x.silent = true) {ks : List OrderKey}
    (hks : ∀ k ∈ ks, k.value.silent = true) (limit : Option Nat) :
    (Select.mk columns (Source.table ⟨"result", none⟩) [] [] groupBy ks limit).Holds [] := by
  simp only [Scalar.silent_iff] at hks
  have hsource : Unmarked (Table.mk "result" none).text := by decide
  have hselect := Select.holds_of_silent
    (s := ⟨columns, .table ⟨"result", none⟩, [], [], groupBy, ks, limit⟩) hcolumns hsource
    (List.forall_mem_nil _) (List.forall_mem_nil _) hgroupBy fun k hk => (hks k hk).1
  have horder := List.flatMap_eq_nil_iff.2 fun k hk => (hks k hk).2
  exact ⟨hselect.readable, hselect.compared.trans horder⟩

/-- Rows of `combined`, among which the one for the whole country is told apart by its label. -/
theorem nationalLast_holds {columns : List Item} (hcolumns : ∀ i ∈ columns, i.silent = true)
    {ks : List OrderKey} (hks : ∀ k ∈ ks, k.value.silent = true) :
    (Select.mk columns (Source.table ⟨"combined", none⟩) [] [] [] (nationalLast :: ks) none).Holds
      [⟨"gruppe", .eq, nationalLabel⟩] := by
  simp only [Scalar.silent_iff] at hks
  have hsource : Unmarked (Table.mk "combined" none).text := by decide
  have hselect := Select.holds_of_silent
    (s := ⟨columns, .table ⟨"combined", none⟩, [], [], [], nationalLast :: ks, none⟩) hcolumns
    hsource (List.forall_mem_nil _) (List.forall_mem_nil _) (List.forall_mem_nil _)
    (List.forall_mem_cons.2 ⟨by decide, fun k hk => (hks k hk).1⟩)
  have horder : (nationalLast :: ks).flatMap (·.value.compared)
      = [⟨"gruppe", .eq, nationalLabel⟩] := by
    rw [List.flatMap_cons, List.flatMap_eq_nil_iff.2 fun k hk => (hks k hk).2]
    rfl
  exact ⟨hselect.readable, hselect.compared.trans horder⟩

theorem nationalRows_holds (r : Report) : r.nationalRows.Holds [] :=
  sorted_holds
    (List.forall_mem_cons.2 ⟨silent_nationalGroup, List.forall_mem_append.2
      ⟨r.forall_mem_ifMultiYear (by decide), by decide⟩⟩)
    (r.forall_mem_ifMultiYear (by decide)) (List.forall_mem_nil _) none

/-- Rows together with the row for the whole country. -/
theorem combined_hold {groups : String} (h : Unmarked groups) :
    Hold [⟨"combined", .union [groups, "national"]⟩] [] := by
  have hbody : (Body.union [groups, "national"]).Readable :=
    List.forall_mem_cons.2 ⟨h, by decide⟩
  exact hold_singleton (show Unmarked "combined" by decide) hbody

/-- A report on the rows of `result` adds to their tables only the comparison with the label of the
whole country, if it is by county. -/
theorem ofResult_holds (r : Report) {tables : List Definition} {cs : List Compared}
    (h : Hold tables cs) :
    (r.ofResult tables).Holds (cs.map Compared.shifted ++ r.query.closing) := by
  unfold ofResult
  rw [closing_eq]
  by_cases hcounty : r.byCounty = true
  · rw [if_pos hcounty, if_pos hcounty]
    have hmain := nationalLast_holds r.silent_shownColumns r.silent_order
    have hnational := r.nationalRows_holds.table (show Unmarked "national" by decide)
    cases r.query.limit with
    | none =>
      have htables := h.append (hnational.append (combined_hold (show Unmarked "result" by decide)))
      simpa using htables.statement hmain
    | some n =>
      -- the limit is taken before the row for the whole country is added
      have htop := (sorted_holds (List.forall_mem_nil _) (List.forall_mem_nil _) r.silent_order
        (some n)).table (show Unmarked "top_groups" by decide)
      have htables := (h.append htop).append
        (hnational.append (combined_hold (show Unmarked "top_groups" by decide)))
      simpa using htables.statement hmain
  · rw [if_neg hcounty, if_neg hcounty]
    exact h.statement
      (sorted_holds r.silent_shownColumns (List.forall_mem_nil _) r.silent_order r.query.limit)

/-! ## Years side by side -/

theorem silent_ofYear (year : Int) {name : String} (hname : Word name) :
    (ofYear year name).silent = true := by
  have hyear : (Column.mk none "aar").readable = true := by decide
  have hcolumn : (Column.mk none name).readable = true := Column.readable_mk plain_none hname
  simp [ofYear, column, Scalar.silent, Scalar.readable, Scalar.compared, Condition.readable,
    Condition.compared, Operand.readable, hyear, hcolumn]

theorem silent_yearColumns (figures : Figures) (year : Int) :
    ∀ i ∈ yearColumns figures year, i.silent = true := by
  have hcovered := silent_ofYear year (show Word "covered" by decide)
  have htotal := silent_ofYear year (show Word "total" by decide)
  have hname : ∀ name : String, Unmarked name → Unmarked (name ++ "_" ++ toString year) :=
    fun name h => (h.append (by decide)).append (unmarked_toString year)
  have hcounts : (Item.named (ofYear year "covered") ("covered" ++ "_" ++ toString year)).silent = true ∧
      (Item.named (ofYear year "total") ("total" ++ "_" ++ toString year)).silent = true :=
    ⟨Item.silent_named hcovered (hname _ (by decide)), Item.silent_named htotal (hname _ (by decide))⟩
  have hpercent := Item.silent_named (Scalar.silent_percentage hcovered htotal)
    (hname "percent" (by decide))
  refine List.forall_mem_append.2 ⟨?_, ?_⟩
  · split
    · simpa using hcounts
    · exact List.forall_mem_nil _
  · split
    · simpa using hpercent
    · exact List.forall_mem_nil _

theorem silent_pivotColumns (r : Report) : ∀ i ∈ r.pivotColumns, i.silent = true := by
  intro i hi
  obtain ⟨year, -, hyear⟩ := List.mem_flatMap.1 hi
  exact silent_yearColumns _ _ i hyear

theorem silent_groupOrder (r : Report) : ∀ k ∈ [r.groupOrder], k.value.silent = true :=
  List.forall_mem_singleton.2 (show (column "gruppe").silent = true by decide)

/-- One row for each group, in some order. -/
theorem pivotRows_holds (r : Report) {ks : List OrderKey} (hks : ∀ k ∈ ks, k.value.silent = true)
    (limit : Option Nat) : Select.Holds { r.pivotRows with orderBy := ks, limit := limit } [] :=
  sorted_holds (List.forall_mem_cons.2 ⟨by decide, r.silent_pivotColumns⟩)
    (List.forall_mem_singleton.2 (show (column "gruppe").silent = true by decide)) hks limit

/-- A report with the years side by side holds the comparisons of its tables, and the one with the
label of the whole country if it is by county. -/
theorem pivot_holds {r : Report} (hpath : '\'' ∉ r.dataPath.toList) {s : Statement}
    (h : r.pivot = .ok s) :
    s.Holds (r.query.coverageCompared.map Compared.shifted ++ r.query.closing) := by
  obtain ⟨tables, htables, h⟩ := bind_eq_ok_iff.1 h
  have hhold := coverageTables_hold hpath htables
  have hlimited := r.pivotRows_holds r.silent_groupOrder r.query.limit
  rw [closing_eq]
  by_cases hcounty : r.byCounty = true
  · rw [if_pos hcounty] at h ⊢
    obtain rfl := pure_eq_ok_iff.1 h
    -- the groups are ordered only where some of them are left out
    have hpivoted : Hold [⟨"pivoted", .select (if r.query.limit.isSome then
        { r.pivotRows with orderBy := [r.groupOrder], limit := r.query.limit }
        else r.pivotRows)⟩] [] := by
      split
      · exact hlimited.table (by decide)
      · exact (r.pivotRows_holds (List.forall_mem_nil _) none).table (by decide)
    have hnational := (sorted_holds
      (List.forall_mem_cons.2 ⟨silent_nationalGroup, r.silent_pivotColumns⟩)
      (List.forall_mem_nil _) (List.forall_mem_nil _) none).table (show Unmarked "national" by decide)
    have hend := hpivoted.append
      (hnational.append (combined_hold (show Unmarked "pivoted" by decide)))
    have hmain := nationalLast_holds (List.forall_mem_nil _) r.silent_groupOrder
    simpa using (hhold.append hend).statement hmain
  · rw [if_neg hcounty] at h ⊢
    obtain rfl := pure_eq_ok_iff.1 h
    exact hhold.statement hlimited

/-! ## Subscriptions -/

theorem silent_subscriptionGroup (r : Report) : r.subscriptionGroup.silent = true := by
  unfold subscriptionGroup
  split
  · decide
  · exact r.query.grouping.silent_label (plain_some (by decide))

theorem unmarked_countyJoins : ∀ j ∈ countyJoins, Unmarked j.text := by
  decide

/-- No text stands in the map from recorded counties to current ones. -/
theorem unmarked_countyMap : Unmarked (countyMap.text Derived.text) := by
  have hranked : Unmarked (rankedCounties.text Source.text) :=
    Clauses.unmarked_text (by decide +kernel) (by decide +kernel) (by decide) (by decide)
      (by decide) (by decide)
  have hopen : Unmarked "(\n" := by decide
  have hsource : Unmarked (Derived.mk rankedCounties "ranked").text :=
    ((hopen.append (unmarked_indent hranked)).append (by decide)).append (by decide)
  exact Clauses.unmarked_text (by decide) hsource (by decide) (by decide) (by decide) (by decide)

/-- The number of subscriptions holds the comparisons of the requirement. -/
theorem matchingSubscriptions_compared {r : Report} {covered : Scalar}
    (h : r.matchingSubscriptions = .ok covered) :
    covered.readable = true ∧
      covered.compared = r.query.requirement.toList.flatMap (Requirement.compared (some "s")) := by
  unfold matchingSubscriptions at h
  cases hrequirement : r.query.requirement with
  | none =>
    rw [hrequirement] at h
    obtain rfl := Except.ok.inj h
    exact ⟨rfl, rfl⟩
  | some requirement =>
    rw [hrequirement] at h
    obtain ⟨c, hc, rfl⟩ := map_eq_ok_iff.1 h
    obtain ⟨hreadable, hcompared⟩ :=
      requirement.condition_compared (plain_some (show Word "s" by decide)) hc
    exact ⟨by simp [Scalar.readable, hreadable], by simp [Scalar.compared, hcompared]⟩

/-- The tables by which the county of a subscription is found. -/
theorem counties_hold {r : Report} (hpath : '\'' ∉ r.dataPath.toList) :
    Hold (if r.byCounty then [⟨"adr", r.files [.addresses]⟩, ⟨"fylke_map", .nested countyMap⟩]
      else []) [] := by
  split
  · exact (hold_singleton (show Unmarked "adr" by decide) (files_readable hpath _)).append
      (hold_singleton (b := .nested countyMap) (show Unmarked "fylke_map" by decide)
        unmarked_countyMap)
  · exact hold_nil

/-- The result of counting subscriptions holds what their number does, twice, and what the filters
do. -/
theorem subscriptionResult_holds (r : Report) {covered : Scalar} (hcovered : covered.readable = true)
    {filters : List Predicate} (hfilters : ∀ p ∈ filters, p.readable = true) :
    Select.Holds
      { columns := .named r.subscriptionGroup "gruppe" ::
          (r.ifMultiYear (.same (subscriptionColumn "aar")) ++
            [.named covered "covered", .named .countRows "total",
             .named (.percentage covered .countRows) "percent"])
        source := .table ⟨"ab", some "s"⟩
        joins := if r.byCounty then countyJoins else []
        filters := .holds (r.yearCondition (some "s")) :: filters
        groupBy := r.subscriptionGroup :: r.ifMultiYear (.column (subscriptionColumn "aar")) }
      (covered.compared ++ covered.compared ++ filters.flatMap Predicate.compared) := by
  obtain ⟨hgroup, hgroup'⟩ := Scalar.silent_iff.1 r.silent_subscriptionGroup
  obtain ⟨hyears, hyears'⟩ := r.yearCondition_compared (plain_some (show Word "s" by decide))
  have hsource : Unmarked (Table.mk "ab" (some "s")).text := by decide
  refine ⟨⟨?_, hsource, ?_, List.forall_mem_cons.2 ⟨hyears, hfilters⟩, ?_, List.forall_mem_nil _⟩, ?_⟩
  · -- the columns: the group, the year, the number, the number of all, and the percentage
    refine List.forall_mem_cons.2 ⟨Item.readable_named hgroup (by decide),
      List.forall_mem_append.2 ⟨r.forall_mem_ifMultiYear (by decide), ?_⟩⟩
    simp only [List.forall_mem_cons]
    exact ⟨Item.readable_named hcovered (by decide), by decide,
      Item.readable_named (by simp [Scalar.readable, hcovered]) (by decide), List.forall_mem_nil _⟩
  · split
    · exact unmarked_countyJoins
    · exact List.forall_mem_nil _
  · exact List.forall_mem_cons.2 ⟨hgroup, r.forall_mem_ifMultiYear (by decide)⟩
  · have hcolumns : (r.ifMultiYear (Item.same (subscriptionColumn "aar"))).flatMap
        (·.value.compared) = [] :=
      List.flatMap_eq_nil_iff.2 (r.forall_mem_ifMultiYear rfl)
    have hgroupBy : (r.ifMultiYear (Scalar.column (subscriptionColumn "aar"))).flatMap
        Scalar.compared = [] :=
      List.flatMap_eq_nil_iff.2 (r.forall_mem_ifMultiYear rfl)
    simp [Select.compared, Item.named, hgroup', hcolumns, hgroupBy, hyears', Predicate.compared,
      Scalar.compared]

/-- A report of subscriptions holds the comparisons of the requirement twice, then those of the
filters. -/
theorem subscription_holds {r : Report} (hpath : '\'' ∉ r.dataPath.toList) {s : Statement}
    (h : r.subscription = .ok s) :
    s.Holds (r.query.subscriptionCompared.map Compared.shifted ++ r.query.closing) := by
  obtain ⟨covered, hcovered, h⟩ := bind_eq_ok_iff.1 h
  obtain ⟨filters, hfilters, h⟩ := bind_eq_ok_iff.1 h
  obtain rfl := pure_eq_ok_iff.1 h
  refine r.ofResult_holds ?_
  obtain ⟨hreadable, hcompared⟩ := matchingSubscriptions_compared hcovered
  obtain ⟨hfilters, hfilters'⟩ := filters_compared (plain_some (show Word "s" by decide)) hfilters
  have hab : Hold [⟨"ab", r.files [.subscriptions]⟩] [] :=
    hold_singleton (show Unmarked "ab" by decide) (files_readable hpath _)
  have hresult := (r.subscriptionResult_holds hreadable hfilters).table
    (show Unmarked "result" by decide)
  rw [hfilters', hcompared] at hresult
  have htables := hab.append ((counties_hold hpath).append hresult)
  cases hrequirement : r.query.requirement with
  | none => simpa [Query.subscriptionCompared, Query.filtersCompared, hrequirement] using htables
  | some requirement =>
    simpa [Query.subscriptionCompared, Query.filtersCompared, hrequirement] using htables

/-! ## Any report on single addresses -/

theorem metric_of_strategy {r : Resolved} :
    (r.strategy = .subscription → r.query.metric = .subscriptions) ∧
      (r.strategy = .pivot ∨ r.strategy = .coverage → r.query.metric ≠ .subscriptions) := by
  unfold Resolved.strategy
  split
  · simp
  · split
    · simp_all
    · split <;> simp_all

/-- The statement of a report can be read, and compares with texts what the query does. -/
theorem statement_holds {r : Report} (hpath : '\'' ∉ r.dataPath.toList)
    (hstrategy : r.strategy ≠ .historical) {s : Statement} (h : r.statement = .ok s) :
    s.Holds (r.query.compared.map Compared.shifted ++ r.query.closing) := by
  unfold statement at h
  rw [Query.compared]
  obtain ⟨hsubscription, haddress⟩ := metric_of_strategy (r := r.toResolved)
  cases hcase : r.strategy with
  | historical => exact absurd hcase hstrategy
  | subscription =>
    rw [hcase] at h
    rw [if_pos (hsubscription hcase)]
    exact subscription_holds hpath h
  | pivot =>
    rw [hcase] at h
    rw [if_neg (haddress (.inl hcase))]
    exact pivot_holds hpath h
  | coverage =>
    rw [hcase] at h
    rw [if_neg (haddress (.inr hcase))]
    obtain ⟨tables, htables, rfl⟩ := map_eq_ok_iff.1 h
    exact r.ofResult_holds (coverageTables_hold hpath htables)

end Report

theorem Options.directory_unquoted {o : Options} (h : ∀ path ∈ o.dataPath, '\'' ∉ path.toList) :
    '\'' ∉ o.directory.toList := by
  unfold Options.directory
  cases hpath : o.dataPath with
  | none => decide
  | some path => exact h path hpath

/-- A query is resolved into itself with years for its period, and at least one. -/
theorem Query.resolve_eq_ok {q : Query} {fallback : Option Int} {r : Resolved}
    (h : q.resolve fallback = .ok r) :
    r.query = q ∧ Period.resolve q.period fallback = .ok r.years ∧ r.years ≠ [] := by
  obtain ⟨-, h⟩ := check_bind_eq_ok_iff.1 h
  obtain ⟨years, hyears, h⟩ := bind_eq_ok_iff.1 h
  simp only [ite_throw_eq_ok_iff, List.isEmpty_iff] at h
  obtain ⟨hne, h⟩ := h
  split at h
  · obtain ⟨-, h⟩ := check_bind_eq_ok_iff.1 h
    obtain rfl := pure_eq_ok_iff.1 h
    exact ⟨rfl, hyears, hne⟩
  · obtain rfl := pure_eq_ok_iff.1 h
    exact ⟨rfl, hyears, hne⟩

/-- The statement that answers a query can be read, and compares with texts what the query does. -/
theorem Query.statement_holds {q : Query} {o : Options} {r : Resolved}
    (hresolve : q.resolve o.year = .ok r) (hstrategy : r.strategy ≠ .historical)
    (hpath : ∀ path ∈ o.dataPath, '\'' ∉ path.toList) {s : Statement} (h : q.statement o = .ok s) :
    s.Holds (q.compared.map Compared.shifted ++ q.closing) := by
  rw [Query.statement, hresolve, ok_bind] at h
  obtain ⟨hquery, -⟩ := Query.resolve_eq_ok hresolve
  have hreport := Report.statement_holds (r := ⟨r, o.directory⟩)
    (Options.directory_unquoted hpath) hstrategy h
  rwa [hquery] at hreport

end Broadband
