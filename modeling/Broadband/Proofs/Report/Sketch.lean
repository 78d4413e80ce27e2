import Broadband.Proofs.Report.Columns
import Broadband.Proofs.Sql.Sketch

/-!
# The statement of a report is read back

All names that reports give to tables, columns and groups are single words, and what stands in a
condition beside them are literals; conditions that are joined by `AND` stand in parentheses
wherever that could be taken for the `AND` between two filters. So the statement of every report is
neat (`Report.statement_neat`), and what is known of a report as data is found in its text:
`Query.statement_readBack`.
-/

namespace Broadband

open Checks Sql

/-! ## Conditions -/

/-- The short names of the tables whose columns conditions are about. -/
def qualifiers : List (Option String) := [none, some "a", some "s"]

variable {qualifier : Option String}

theorem eq_of_mem_qualifiers (hq : qualifier ∈ qualifiers) :
    qualifier = none ∨ qualifier = some "a" ∨ qualifier = some "s" := by
  simpa [qualifiers] using hq

theorem Field.neat_column (hq : qualifier ∈ qualifiers) (f : Field) :
    (Column.mk qualifier f.column).neat = true := by
  rcases eq_of_mem_qualifiers hq with rfl | rfl | rfl <;> cases f <;> rfl

theorem Field.neat_condition (hq : qualifier ∈ qualifiers) {f : Field} {op : Comparison} {v : Value}
    {c : Condition} (h : f.condition op v qualifier = .ok c) : c.neat = true ∧ c.apart = true := by
  obtain ⟨l, -, rfl⟩ := map_eq_ok_iff.1 h
  exact ⟨by simp [Condition.neat, Operand.neat, f.neat_column hq], rfl⟩

theorem neat_negateIf (negated : Bool) {c : Condition} (h : c.neat = true ∧ c.apart = true) :
    (negateIf negated c).neat = true ∧ (negateIf negated c).apart = true := by
  cases negated with
  | false => exact h
  | true => exact ⟨h.1, rfl⟩

theorem Criterion.neat_condition (hq : qualifier ∈ qualifiers) {c : Criterion} {cond : Condition}
    (h : c.condition qualifier = .ok cond) : cond.neat = true ∧ cond.apart = true := by
  induction c generalizing cond with
  | technology t negated =>
    obtain rfl := Except.ok.inj h
    have hcolumn : (Column.mk qualifier technologyColumn).neat = true :=
      Field.neat_column hq .technology
    exact neat_negateIf negated ⟨by simpa [Condition.neat, Operand.neat] using hcolumn, rfl⟩
  | compare field op value negated =>
    obtain ⟨inner, hinner, rfl⟩ := map_eq_ok_iff.1 h
    exact neat_negateIf negated (Field.neat_condition hq hinner)
  | join op left right ihl ihr =>
    -- a join gets its parentheses where it is made, so it stands apart whatever it joins
    obtain ⟨l, hl, hrest⟩ := bind_eq_ok_iff.1 h
    obtain ⟨r, hr, hcond⟩ := bind_eq_ok_iff.1 hrest
    obtain rfl := pure_eq_ok_iff.1 hcond
    exact ⟨by simp [Condition.neat, ihl hl, ihr hr], rfl⟩
  | not inner ih =>
    obtain ⟨c, hc, hcond⟩ := bind_eq_ok_iff.1 h
    obtain rfl := pure_eq_ok_iff.1 hcond
    exact ⟨(ih hc).1, rfl⟩

theorem Filter.neat_condition (hq : qualifier ∈ qualifiers) {f : Filter} {cond : Condition}
    (h : f.condition qualifier = .ok cond) : cond.neat = true ∧ cond.apart = true := by
  cases f with
  | segment s =>
    obtain rfl := Except.ok.inj h
    rcases eq_of_mem_qualifiers hq with rfl | rfl | rfl <;> cases s <;> exact ⟨rfl, rfl⟩
  | compare field op value => exact Field.neat_condition hq h

theorem neat_filters (hq : qualifier ∈ qualifiers) {fs : List Filter} {conds : List Condition}
    (h : filterConditions fs qualifier = .ok conds) :
    ∀ p ∈ conds.map Predicate.holds, p.neat = true ∧ p.apart = true :=
  List.forall_mem_map.2 (forall_mem_of_mapM (fun _ _ hf => Filter.neat_condition hq hf) h)

/-- Conditions joined from the left stand in parentheses, unless there is only one. -/
theorem neat_joinAll (op : Connective) {first : Condition} {rest : List Condition}
    (h : ∀ c ∈ first :: rest, c.neat = true ∧ c.apart = true) :
    (Condition.joinAll op first rest).neat = true ∧
      (Condition.joinAll op first rest).apart = true := by
  have hfold : ∀ (cs : List Condition) (c : Condition), (∀ d ∈ c :: cs, d.neat = true) →
      (cs.foldl (.join op) c).neat = true := by
    intro cs
    induction cs with
    | nil => exact fun c hc => hc c List.mem_cons_self
    | cons d ds ih =>
      intro c hc
      simp only [List.forall_mem_cons] at hc
      exact ih _ (List.forall_mem_cons.2 ⟨by simp [Condition.neat, hc.1, hc.2.1], hc.2.2⟩)
  cases rest with
  | nil => exact h first List.mem_cons_self
  | cons d ds => exact ⟨hfold (d :: ds) first fun c hc => (h c hc).1, rfl⟩

theorem Requirement.neat_condition (hq : qualifier ∈ qualifiers) {r : Requirement}
    {cond : Condition} (h : r.condition qualifier = .ok cond) : cond.neat = true := by
  unfold Requirement.condition at h
  generalize r.branches = branches at h
  obtain ⟨quantifier, criteria⟩ := branches
  obtain ⟨conds, hconds, hcond⟩ := bind_eq_ok_iff.1 h
  have hneat := forall_mem_of_mapM (fun _ _ hc => Criterion.neat_condition hq hc) hconds
  cases conds with
  | nil => exact absurd hcond throw_ne_ok
  | cons first rest =>
    obtain rfl := pure_eq_ok_iff.1 hcond
    have hgrouped : ∀ c : Condition, c.grouped.neat = c.neat := by
      intro c
      cases c <;> rfl
    -- the alternatives that are denied get parentheses, which add no name
    cases quantifier with
    | any => exact (neat_joinAll .or hneat).1
    | all => exact (neat_joinAll .and hneat).1
    | none => exact (hgrouped _).trans (neat_joinAll .or hneat).1

/-- The names of a membership can be read. -/
structure Membership.Neat (m : Membership) : Prop where
  key : m.key.neat = true
  source : m.source.neat = true
  sourceKey : m.sourceKey.neat = true
  correlation : ∀ c ∈ m.correlation, c.neat = true

theorem Membership.neat_subquery {m : Membership} (h : m.Neat) {c : Condition}
    (hc : c.neat = true) :
    (m.subquery c).neat = true := by
  have hconditions : ∀ d ∈ m.correlation.toList ++ [c], d.neat = true :=
    List.forall_mem_append.2 ⟨fun d hd => h.correlation d (Option.mem_toList.1 hd),
      List.forall_mem_singleton.2 hc⟩
  simp only [Membership.subquery, Subquery.neat, h.sourceKey, h.source,
    List.all_eq_true.2 hconditions, Bool.and_true]

theorem Membership.neat_predicate {m : Membership} (hm : m.Neat) {r : Requirement} {p : Predicate}
    (h : m.predicate r = .ok p) : p.neat = true ∧ p.apart = true := by
  unfold Membership.predicate at h
  generalize r.branches = branches at h
  obtain ⟨quantifier, criteria⟩ := branches
  obtain ⟨conds, hconds, hp⟩ := bind_eq_ok_iff.1 h
  have hq : none ∈ qualifiers := List.mem_cons_self
  have hneat := forall_mem_of_mapM (fun _ _ hc => Criterion.neat_condition hq hc) hconds
  cases conds with
  | nil => exact absurd hp throw_ne_ok
  | cons first rest =>
    obtain rfl := pure_eq_ok_iff.1 hp
    have hjoin := neat_subquery hm (neat_joinAll .or hneat).1
    have hkey := hm.key
    cases quantifier with
    | any => exact ⟨by simp [Predicate.neat, hkey, hjoin], rfl⟩
    | none => exact ⟨by simp [Predicate.neat, hkey, hjoin], rfl⟩
    | all =>
      have heach : ∀ s ∈ (first :: rest).map m.subquery, s.neat = true :=
        List.forall_mem_map.2 fun c hc => neat_subquery hm (hneat c hc).1
      exact ⟨by rw [Predicate.neat, hkey, List.all_eq_true.2 heach]; rfl, rfl⟩

theorem Grouping.neat_label (hq : qualifier ∈ qualifiers) (g : Grouping) :
    (g.label qualifier).neat = true := by
  rcases eq_of_mem_qualifiers hq with rfl | rfl | rfl <;> cases g <;> rfl

theorem Metric.neat_weight (hq : qualifier ∈ qualifiers) (m : Metric) :
    (m.weight qualifier).neat = true := by
  rcases eq_of_mem_qualifiers hq with rfl | rfl | rfl <;> cases m <;> rfl

theorem Sql.Item.neat_named {value : Scalar} (h : value.neat = true) {name : String}
    (hname : isIdentifier name = true) : (Item.named value name).neat = true := by
  rw [Item.neat, Bool.and_eq_true]
  exact ⟨h, hname⟩

theorem Sql.Item.neat_same {c : Column} (h : c.neat = true) : (Item.same c).neat = true := by
  rw [Item.neat, Bool.and_eq_true]
  exact ⟨h, rfl⟩

namespace Report

theorem neat_year (hq : qualifier ∈ qualifiers) : (Column.mk qualifier "aar").neat = true := by
  rcases eq_of_mem_qualifiers hq with rfl | rfl | rfl <;> rfl

theorem neat_yearCondition (r : Report) (hq : qualifier ∈ qualifiers) :
    (r.yearCondition qualifier).neat = true ∧ (r.yearCondition qualifier).apart = true := by
  have hyear := neat_year hq
  unfold yearCondition
  split <;> exact ⟨by simp [Condition.neat, Operand.neat, hyear], rfl⟩

theorem neat_files {r : Report} (hyears : r.years ≠ []) (hpath : '\'' ∉ r.dataPath.toList)
    {datasets : List Dataset} (hdatasets : datasets ≠ []) {name : String}
    (hname : isIdentifier name = true) :
    Definition.Neat ⟨name, r.files datasets⟩ := by
  refine ⟨hname, ?_, fun f hf => ?_⟩
  · intro hnil
    obtain ⟨year, years, hcons⟩ := List.exists_cons_of_ne_nil hyears
    have hfirst := List.flatMap_eq_nil_iff.1 hnil year (hcons ▸ List.mem_cons_self)
    exact hdatasets (List.map_eq_nil_iff.1 hfirst)
  · simp only [List.mem_flatMap, List.mem_map] at hf
    obtain ⟨year, -, d, -, rfl⟩ := hf
    exact hpath

theorem neat_select (name : String) (hname : isIdentifier name = true) {s : Select Source}
    (h : s.Neat Source.text) : Definition.Neat ⟨name, .select s⟩ :=
  ⟨hname, h⟩

/-! ## Coverage -/

theorem neat_addressSums (r : Report) {short : Option String} (hshort : short ∈ qualifiers)
    {name : String} (hname : isIdentifier name = true) {filters : List Predicate}
    (hfilters : ∀ p ∈ filters, p.neat = true ∧ p.apart = true) :
    (r.addressSums short name filters).Neat Source.text := by
  have hgroup := r.query.grouping.neat_label hshort
  have hweight : (Scalar.sum (r.query.metric.weight short)).neat = true :=
    r.query.metric.neat_weight hshort
  have hyear := neat_year hshort
  have hsource : (Source.table ⟨"adr", short⟩).neat = true := by
    rcases eq_of_mem_qualifiers hshort with rfl | rfl | rfl <;> rfl
  refine ⟨?_, Source.oneLine_text hsource, List.forall_mem_nil _,
    List.forall_mem_cons.2 ⟨r.neat_yearCondition hshort, hfilters⟩, ?_, List.forall_mem_nil _⟩
  · exact List.forall_mem_cons.2 ⟨Item.neat_named hgroup rfl, List.forall_mem_append.2
      ⟨r.forall_mem_ifMultiYear (Item.neat_same hyear),
        List.forall_mem_singleton.2 (Item.neat_named hweight hname)⟩⟩
  · exact List.forall_mem_cons.2 ⟨hgroup,
      r.forall_mem_ifMultiYear (x := Scalar.column ⟨short, "aar"⟩) hyear⟩

theorem neat_percentage {part whole : Scalar} (hpart : part.neat = true)
    (hwhole : whole.neat = true) :
    (Scalar.percentage part whole).neat = true := by
  rw [Scalar.neat, hpart, hwhole]
  rfl

theorem neat_coverageResult (r : Report) {covered : Scalar} (hcovered : covered.neat = true)
    {joins : List Join} (hjoins : ∀ j ∈ joins, j.neat = true) :
    (r.coverageResult covered joins).Neat Source.text := by
  refine ⟨?_, Source.oneLine_text (s := .table ⟨"population", some "p"⟩) rfl, hjoins,
    List.forall_mem_nil _, List.forall_mem_nil _, List.forall_mem_nil _⟩
  refine List.forall_mem_cons.2 ⟨rfl, List.forall_mem_append.2 ⟨r.forall_mem_ifMultiYear rfl, ?_⟩⟩
  simp only [List.forall_mem_cons]
  exact ⟨Item.neat_named hcovered rfl, rfl, Item.neat_named (neat_percentage hcovered rfl) rfl,
    List.forall_mem_nil _⟩

theorem neat_coverageJoin (r : Report) : r.coverageJoin.neat = true := by
  unfold coverageJoin ifMultiYear
  split <;> rfl

theorem neat_coverageMembership : coverageMembership.Neat :=
  ⟨rfl, rfl, rfl, by rintro c ⟨⟩; rfl⟩

theorem neat_coverageTables {r : Report} (hyears : r.years ≠ []) (hpath : '\'' ∉ r.dataPath.toList)
    {tables : List Definition} (h : r.coverageTables = .ok tables) :
    tables ≠ [] ∧ ∀ d ∈ tables, d.Neat := by
  have hnone : none ∈ qualifiers := List.mem_cons_self
  have ha : some "a" ∈ qualifiers := by decide
  have hadr : Definition.Neat ⟨"adr", r.files [.addresses]⟩ :=
    neat_files hyears hpath (List.cons_ne_nil _ _) rfl
  unfold coverageTables at h
  obtain ⟨filters, hfilters, h⟩ := bind_eq_ok_iff.1 h
  have hpopulation :
      Definition.Neat ⟨"population", .select (r.addressSums none "total" (filters.map .holds))⟩ :=
    neat_select _ (by decide) (r.neat_addressSums hnone rfl (neat_filters hnone hfilters))
  cases hrequirement : r.query.requirement with
  | none =>
    rw [hrequirement] at h
    obtain rfl := pure_eq_ok_iff.1 h
    have hall : (Scalar.column ⟨some "p", "total"⟩).neat = true := rfl
    have hresult := r.neat_coverageResult hall (List.forall_mem_nil _)
    simp only [List.forall_mem_cons]
    exact ⟨List.cons_ne_nil _ _, hadr, hpopulation, neat_select _ (by decide) hresult,
      List.forall_mem_nil _⟩
  | some requirement =>
    rw [hrequirement] at h
    obtain ⟨covered, hcovered, h⟩ := bind_eq_ok_iff.1 h
    obtain ⟨filters', hfilters', h⟩ := bind_eq_ok_iff.1 h
    obtain rfl := pure_eq_ok_iff.1 h
    have hmembership := coverageMembership.neat_predicate neat_coverageMembership hcovered
    have hdekning : Definition.Neat ⟨"dekning", r.files [.fixedCoverage, .mobileCoverage]⟩ :=
      neat_files hyears hpath (List.cons_ne_nil _ _) rfl
    have hname : isIdentifier "covered" = true := rfl
    have hcoverage := r.neat_addressSums ha hname
      (List.forall_mem_cons.2 ⟨hmembership, neat_filters ha hfilters'⟩)
    have hsome :
        (Scalar.coalesce [.column ⟨some "c", "covered"⟩, .literal (.number 0)]).neat = true := rfl
    have hresult := r.neat_coverageResult hsome (List.forall_mem_singleton.2 r.neat_coverageJoin)
    simp only [List.forall_mem_cons]
    exact ⟨List.cons_ne_nil _ _, hadr, hdekning, hpopulation, neat_select _ (by decide) hcoverage,
      neat_select _ (by decide) hresult, List.forall_mem_nil _⟩

/-! ## The end of a report -/

theorem neat_order (r : Report) : ∀ k ∈ r.order, k.value.neat = true := by
  have hkey : ∀ key, (column (sortColumn key)).neat = true := by
    intro key
    cases key <;> rfl
  exact List.forall_mem_cons.2 ⟨hkey _,
    r.forall_mem_ifMultiYear (x := OrderKey.mk (column "aar") .asc) rfl⟩

theorem neat_shownColumns (r : Report) : ∀ i ∈ r.shownColumns, i.neat = true := by
  have hfigures : ∀ f : Figures, ∀ name ∈ shownFigures f, (Item.same ⟨none, name⟩).neat = true := by
    intro f
    cases f <;> decide
  exact List.forall_mem_map.2 (List.forall_mem_cons.2 ⟨rfl, List.forall_mem_append.2
    ⟨r.forall_mem_ifMultiYear rfl, hfigures _⟩⟩)

/-- Rows of a table, grouped and sorted. -/
theorem neat_rows (table : String) (htable : isIdentifier table = true) {columns : List Item}
    (hcolumns : ∀ i ∈ columns, i.neat = true) {groupBy : List Scalar}
    (hgroupBy : ∀ x ∈ groupBy, x.neat = true) {ks : List OrderKey}
    (hks : ∀ k ∈ ks, k.value.neat = true) (limit : Option Nat) :
    (Select.mk columns (Source.table ⟨table, none⟩) [] [] groupBy ks limit).Neat Source.text := by
  have hsource : (Source.table ⟨table, none⟩).neat = true := by
    rw [Source.neat, Table.neat, htable]
    rfl
  exact ⟨hcolumns, Source.oneLine_text hsource, List.forall_mem_nil _, List.forall_mem_nil _,
    hgroupBy, hks⟩

theorem neat_nationalRows (r : Report) : r.nationalRows.Neat Source.text := by
  refine neat_rows _ (by decide) ?_ (r.forall_mem_ifMultiYear (x := column "aar") rfl)
    (List.forall_mem_nil _) none
  refine List.forall_mem_cons.2 ⟨by decide, ?_⟩
  exact List.forall_mem_append.2 ⟨r.forall_mem_ifMultiYear rfl, by decide⟩

theorem neat_combined {groups : String} (h : isIdentifier groups = true) :
    Definition.Neat ⟨"combined", .union [groups, "national"]⟩ :=
  have hname : isIdentifier "combined" = true := by decide
  ⟨hname, List.cons_ne_nil _ _, List.forall_mem_cons.2 ⟨h, by decide⟩⟩

theorem neat_nationalLast {ks : List OrderKey} (h : ∀ k ∈ ks, k.value.neat = true) :
    ∀ k ∈ nationalLast :: ks, k.value.neat = true :=
  List.forall_mem_cons.2 ⟨by decide, h⟩

/-- A report on the rows of `result` has neat tables if those before it are. -/
theorem neat_ofResult (r : Report) {tables : List Definition}
    (h : tables ≠ [] ∧ ∀ d ∈ tables, d.Neat) : (r.ofResult tables).Neat := by
  unfold ofResult
  by_cases hcounty : r.byCounty = true
  · rw [if_pos hcounty]
    have hmain := neat_rows "combined" (by decide) r.neat_shownColumns (List.forall_mem_nil _)
      (neat_nationalLast r.neat_order) none
    have hnational := neat_select "national" (by decide) r.neat_nationalRows
    cases r.query.limit with
    | none =>
      refine ⟨by simp, ?_, hmain⟩
      simp only [List.forall_mem_append, List.forall_mem_cons]
      exact ⟨⟨h.2, List.forall_mem_nil _⟩, hnational, neat_combined (by decide),
        List.forall_mem_nil _⟩
    | some n =>
      have htop := neat_select "top_groups" (by decide)
        (neat_rows "result" (by decide) (List.forall_mem_nil _) (List.forall_mem_nil _)
          r.neat_order (some n))
      refine ⟨by simp, ?_, hmain⟩
      simp only [List.forall_mem_append, List.forall_mem_cons]
      exact ⟨⟨h.2, htop, List.forall_mem_nil _⟩, hnational, neat_combined (by decide),
        List.forall_mem_nil _⟩
  · rw [if_neg hcounty]
    have hmain := neat_rows "result" (by decide) r.neat_shownColumns (List.forall_mem_nil _)
      r.neat_order r.query.limit
    exact ⟨h.1, h.2, hmain⟩

/-! ## Years side by side -/

theorem neat_ofYear (year : Int) (name : String) (hname : isIdentifier name = true) :
    (ofYear year name).neat = true := by
  have hcolumn : (Column.mk none name).neat = true := hname
  have hyear : (Column.mk none "aar").neat = true := rfl
  simp [ofYear, column, Scalar.neat, Condition.neat, Operand.neat, hcolumn, hyear]

/-- A year behind a name gives another name. -/
theorem isIdentifier_year (name : String) (hname : name.toList.all isTight = true) (year : Int) :
    isIdentifier (name ++ "_" ++ toString year) = true := by
  have htight : (name ++ "_" ++ toString year).toList.all isTight = true := by
    rw [String.toList_append, String.toList_append, List.all_append, List.all_append, hname,
      isTight_toString]
    rfl
  -- no reserved word has an underscore in it
  have hreserved : ∀ w ∈ reserved, '_' ∉ w.toList := by decide
  rw [isIdentifier, htight, Bool.true_and, decide_eq_true_eq]
  intro hmem
  exact hreserved _ hmem (by simp)

theorem neat_yearColumns (figures : Figures) (year : Int) :
    ∀ i ∈ yearColumns figures year, i.neat = true := by
  have hcovered := neat_ofYear year "covered" rfl
  have htotal := neat_ofYear year "total" rfl
  have hcounts : ∀ i ∈ [Item.named (ofYear year "covered") ("covered" ++ "_" ++ toString year),
      Item.named (ofYear year "total") ("total" ++ "_" ++ toString year)], i.neat = true := by
    simp only [List.forall_mem_cons]
    exact ⟨Item.neat_named hcovered (isIdentifier_year _ (by decide) year),
      Item.neat_named htotal (isIdentifier_year _ (by decide) year), List.forall_mem_nil _⟩
  have hpercent := Item.neat_named (neat_percentage hcovered htotal)
    (isIdentifier_year "percent" (by decide) year)
  refine List.forall_mem_append.2 ⟨?_, ?_⟩
  · split
    · exact hcounts
    · exact List.forall_mem_nil _
  · split
    · exact List.forall_mem_singleton.2 hpercent
    · exact List.forall_mem_nil _

theorem neat_pivotColumns (r : Report) : ∀ i ∈ r.pivotColumns, i.neat = true := by
  intro i hi
  obtain ⟨year, -, hyear⟩ := List.mem_flatMap.1 hi
  exact neat_yearColumns _ _ i hyear

theorem neat_pivotRows (r : Report) {ks : List OrderKey} (hks : ∀ k ∈ ks, k.value.neat = true)
    (limit : Option Nat) :
    Select.Neat Source.text { r.pivotRows with orderBy := ks, limit := limit } :=
  neat_rows _ (by decide) (List.forall_mem_cons.2 ⟨by decide, r.neat_pivotColumns⟩)
    (List.forall_mem_singleton.2 (show (column "gruppe").neat = true by decide)) hks limit

theorem neat_pivot {r : Report} (hyears : r.years ≠ []) (hpath : '\'' ∉ r.dataPath.toList)
    {s : Statement} (h : r.pivot = .ok s) : s.Neat := by
  obtain ⟨tables, htables, h⟩ := bind_eq_ok_iff.1 h
  have hneat := neat_coverageTables hyears hpath htables
  have hgroupOrder : ∀ k ∈ [r.groupOrder], k.value.neat = true :=
    List.forall_mem_singleton.2 (show (column "gruppe").neat = true by decide)
  have hlimited := r.neat_pivotRows hgroupOrder r.query.limit
  by_cases hcounty : r.byCounty = true
  · rw [if_pos hcounty] at h
    obtain rfl := pure_eq_ok_iff.1 h
    have hpivoted : Select.Neat Source.text
        (if r.query.limit.isSome then
          { r.pivotRows with orderBy := [r.groupOrder], limit := r.query.limit }
        else r.pivotRows) := by
      split
      · exact hlimited
      · exact r.neat_pivotRows (List.forall_mem_nil _) none
    have hnational := neat_rows "result" (by decide)
      (List.forall_mem_cons.2 ⟨show nationalGroup.neat = true by decide, r.neat_pivotColumns⟩)
      (List.forall_mem_nil _) (List.forall_mem_nil _) none
    refine ⟨by simp, ?_, neat_rows _ (by decide) (List.forall_mem_nil _) (List.forall_mem_nil _)
      (neat_nationalLast hgroupOrder) none⟩
    simp only [List.forall_mem_append, List.forall_mem_cons]
    exact ⟨hneat.2, neat_select _ (by decide) hpivoted, neat_select _ (by decide) hnational,
      neat_combined (by decide), List.forall_mem_nil _⟩
  · rw [if_neg hcounty] at h
    obtain rfl := pure_eq_ok_iff.1 h
    exact ⟨hneat.1, hneat.2, hlimited⟩

/-! ## Subscriptions -/

theorem neat_matchingSubscriptions {r : Report} {covered : Scalar}
    (h : r.matchingSubscriptions = .ok covered) :
    covered.neat = true := by
  unfold matchingSubscriptions at h
  cases hrequirement : r.query.requirement with
  | none =>
    rw [hrequirement] at h
    obtain rfl := Except.ok.inj h
    rfl
  | some requirement =>
    rw [hrequirement] at h
    obtain ⟨c, hc, rfl⟩ := map_eq_ok_iff.1 h
    have hs : some "s" ∈ qualifiers := by decide
    have hcondition := requirement.neat_condition hs hc
    simp [Scalar.neat, hcondition]

theorem neat_countyMap : countyMap.Neat Derived.text := by
  have hranked : rankedCounties.Neat Source.text := by
    have hsource : rankedCounties.source.neat = true := by decide
    exact ⟨by decide, Source.oneLine_text hsource, by decide, List.forall_mem_nil _, by decide,
      List.forall_mem_nil _⟩
  exact ⟨by decide, Derived.oneLine_text hranked (by decide), List.forall_mem_nil _, by decide,
    List.forall_mem_nil _, List.forall_mem_nil _⟩

theorem neat_countyJoins : ∀ j ∈ countyJoins, j.neat = true := by decide

theorem neat_subscription {r : Report} (hyears : r.years ≠ []) (hpath : '\'' ∉ r.dataPath.toList)
    {s : Statement} (h : r.subscription = .ok s) : s.Neat := by
  obtain ⟨covered, hcovered, h⟩ := bind_eq_ok_iff.1 h
  obtain ⟨filters, hfilters, h⟩ := bind_eq_ok_iff.1 h
  obtain rfl := pure_eq_ok_iff.1 h
  have hs : some "s" ∈ qualifiers := by decide
  have hnumber := neat_matchingSubscriptions hcovered
  have hgroup : r.subscriptionGroup.neat = true := by
    unfold subscriptionGroup
    split
    · decide
    · exact r.query.grouping.neat_label hs
  have hab : Definition.Neat ⟨"ab", r.files [.subscriptions]⟩ :=
    neat_files hyears hpath (List.cons_ne_nil _ _) rfl
  have hadr : Definition.Neat ⟨"adr", r.files [.addresses]⟩ :=
    neat_files hyears hpath (List.cons_ne_nil _ _) rfl
  have hmap : Definition.Neat ⟨"fylke_map", .nested countyMap⟩ := ⟨by decide, neat_countyMap⟩
  refine r.neat_ofResult ⟨List.cons_ne_nil _ _, ?_⟩
  refine List.forall_mem_cons.2 ⟨hab, List.forall_mem_append.2 ⟨?_, List.forall_mem_singleton.2 ?_⟩⟩
  · split
    · simp only [List.forall_mem_cons]
      exact ⟨hadr, hmap, List.forall_mem_nil _⟩
    · exact List.forall_mem_nil _
  · refine neat_select _ (by decide) ⟨?_, Source.oneLine_text (s := .table ⟨"ab", some "s"⟩) rfl,
      ?_, ?_, ?_, ?_⟩
    · refine List.forall_mem_cons.2 ⟨Item.neat_named hgroup rfl, List.forall_mem_append.2
        ⟨r.forall_mem_ifMultiYear rfl, ?_⟩⟩
      simp only [List.forall_mem_cons]
      exact ⟨Item.neat_named hnumber rfl, rfl, Item.neat_named (neat_percentage hnumber rfl) rfl,
        List.forall_mem_nil _⟩
    · split
      · exact neat_countyJoins
      · exact List.forall_mem_nil _
    · exact List.forall_mem_cons.2 ⟨r.neat_yearCondition hs, neat_filters hs hfilters⟩
    · exact List.forall_mem_cons.2 ⟨hgroup, r.forall_mem_ifMultiYear
        (x := Scalar.column (subscriptionColumn "aar")) rfl⟩
    · exact List.forall_mem_nil _

/-! ## Shares, and all reports -/

theorem neat_historicalShares {r : Report} (hyears : r.years ≠ [])
    (hpath : '\'' ∉ r.dataPath.toList) (first : Indicator) (rest : List Indicator) :
    (r.historicalShares first rest).Neat := by
  have hnone : none ∈ qualifiers := List.mem_cons_self
  have harea : (areaCondition r.query).neat = true ∧ (areaCondition r.query).apart = true := by
    unfold areaCondition
    split <;> exact ⟨rfl, rfl⟩
  have hindicators : ∀ c ∈ first.condition :: rest.map Indicator.condition,
      c.neat = true ∧ c.apart = true := by
    rw [← List.map_cons, List.forall_mem_map]
    exact fun i _ => ⟨rfl, rfl⟩
  have hhist : Definition.Neat ⟨"hist", r.files [.historical]⟩ :=
    neat_files hyears hpath (List.cons_ne_nil _ _) rfl
  have hkey : ∀ key, (column (shareSortColumn key)).neat = true := by
    intro key
    cases key <;> rfl
  refine ⟨List.cons_ne_nil _ _, List.forall_mem_singleton.2 hhist, ?_,
    Source.oneLine_text (s := .table ⟨"hist", none⟩) rfl, List.forall_mem_nil _, ?_, ?_, ?_⟩
  · refine List.forall_mem_cons.2 ⟨rfl, ?_⟩
    rw [List.forall_mem_append, List.forall_mem_append]
    refine ⟨⟨?_, ?_⟩, ?_⟩
    · exact r.forall_mem_ifMultiYear rfl
    · exact forall_mem_ifSeveral rest rfl
    · exact List.forall_mem_singleton.2 rfl
  · simp only [historicalShares, List.forall_mem_cons]
    exact ⟨r.neat_yearCondition hnone, harea, neat_joinAll .or hindicators, List.forall_mem_nil _⟩
  · refine List.forall_mem_cons.2 ⟨rfl, List.forall_mem_append.2 ⟨?_, ?_⟩⟩
    · exact r.forall_mem_ifMultiYear (x := column "aar") rfl
    · exact forall_mem_ifSeveral rest (x := column "indikator") rfl
  · refine List.forall_mem_cons.2 ⟨hkey _, List.forall_mem_append.2 ⟨?_, ?_⟩⟩
    · exact r.forall_mem_ifMultiYear (x := OrderKey.mk (column "aar") .asc) rfl
    · exact forall_mem_ifSeveral rest (x := OrderKey.mk (column "indikator") .asc) rfl

/-- The statement of every report is neat. -/
theorem statement_neat {r : Report} (hyears : r.years ≠ []) (hpath : '\'' ∉ r.dataPath.toList)
    {s : Statement} (h : r.statement = .ok s) : s.Neat := by
  -- shares, subscriptions, years side by side, coverage
  rcases statement_cases h with ⟨-, h⟩ | ⟨-, ⟨-, h⟩ | ⟨-, ⟨-, h⟩ | ⟨-, h⟩⟩⟩
  · obtain ⟨-, -, first, rest, -, rfl⟩ := historical_eq_ok_iff.1 h
    exact neat_historicalShares hyears hpath first rest
  · exact neat_subscription hyears hpath h
  · exact neat_pivot hyears hpath h
  · obtain ⟨tables, htables, rfl⟩ := map_eq_ok_iff.1 h
    exact r.neat_ofResult (neat_coverageTables hyears hpath htables)

end Report

/-! ## The main statement -/

/-- **What a report is made of is found in its text.** Reading the text of the statement that
answers a query gives back the names of its tables, which are those of `Query.scope`, the columns
that each of them and the statement itself select, with their names, and all joins, filters, groups,
sort keys and limits, as they stand in the statement. -/
theorem Query.statement_readBack {q : Query} {o : Options} {s : Statement}
    (h : q.statement o = .ok s) (hpath : ∀ path ∈ o.dataPath, '\'' ∉ path.toList)
    (hreturn : ∀ d ∈ s.tables, ¬ ['\r', '\n'] <:+: d.body.text.toList) :
    readStatement? s.text = some s.sketch ∧
      ∃ years, Period.resolve q.period o.year = .ok years ∧
        s.sketch.1.map Prod.fst = (q.scope years).map Prod.fst := by
  obtain ⟨r, hresolve, hreport⟩ := bind_eq_ok_iff.1 h
  obtain ⟨rfl, hyears, hne⟩ := Query.resolve_eq_ok hresolve
  have hneat : s.Neat :=
    Report.statement_neat (r := ⟨r, o.directory⟩) hne (Options.directory_unquoted hpath) hreport
  have hnames := (Report.statement_scoped hreport).1.names_eq
  refine ⟨hneat.readStatement?_text hreturn, r.years, hyears, ?_⟩
  rw [List.map_nil, List.nil_append] at hnames
  rw [hnames, Statement.sketch, List.map_map]
  rfl

-- the tables of a query that has no literals of its own are free of carriage returns
example :
    let q : Query := { metric := .homes, limit := some 3 }
    ∃ s, q.statement { year := some 2024 } = .ok s ∧ readStatement? s.text = some s.sketch := by
  intro q
  obtain ⟨s, hs⟩ : ∃ s, q.statement { year := some 2024 } = .ok s := ⟨_, rfl⟩
  have hreturn : ∀ d ∈ s.tables, '\r' ∉ d.body.text.toList := by
    obtain rfl := Except.ok.inj hs
    decide +kernel
  exact ⟨s, hs, (Query.statement_readBack hs nofun fun d hd hpair =>
    hreturn d hd (hpair.subset List.mem_cons_self)).1⟩

end Broadband
