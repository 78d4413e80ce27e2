import Broadband.Proofs.Query.Years
import Broadband.Proofs.Report.Meaning
import Broadband.Proofs.Report.TwoRuns

/-!
# Which queries on single addresses are rejected

A query that asks for no year before the detailed data is rejected for one of a few reasons, and they are
all named by `Query.Fault`: segments of customers where no subscriptions are counted, no year, a quantifier
over nothing, and a speed that has no representation in the unit of the data. The three ways to ask
the data look for the last two in different places and in a different order. Which of two faults is
reported differs with that, but not whether there is one (`Report.exists_statement_iff`): a report of
coverage is made of the same requirement and the same filters as a report of subscriptions, and
everything that is built from them after that is built in any case.
-/

namespace Broadband

open Checks Sql

/-! ## The faults of a query -/

/-- The numbers that fields are compared with in a criterion, at any depth. -/
def Criterion.numbers : Criterion → List (Field × Int)
  | .technology _ _ => []
  | .compare field _ (.number n) _ => [(field, n)]
  | .compare _ _ (.text _) _ => []
  | .join _ left right => left.numbers ++ right.numbers
  | .not inner => inner.numbers

/-- The numbers that fields are compared with in a requirement. -/
def Requirement.numbers : Requirement → List (Field × Int)
  | .single c => c.numbers
  | .quantified _ cs => cs.flatMap Criterion.numbers

/-- The number that a filter compares a field with, if it does. -/
def Filter.numbers : Filter → List (Field × Int)
  | .compare field _ (.number n) => [(field, n)]
  | _ => []

/-- The numbers that fields are compared with anywhere in a query. -/
def Query.numbers (q : Query) : List (Field × Int) :=
  q.requirement.toList.flatMap Requirement.numbers ++ q.filters.flatMap Filter.numbers

/-- A speed, in Mbit/s, that cannot be given in kbit/s. -/
structure Excessive (p : Field × Int) : Prop where
  speed : p.1 = .download ∨ p.1 = .upload
  range : p.2 < -9223372036854775 ∨ 9223372036854775 < p.2

/-- Why a query has no answer from the data for single addresses. -/
inductive Query.Fault (q : Query) (fallback : Option Int) : Prop
  /-- A segment of customers is asked for, but no subscriptions are counted. -/
  | ownership (segment : Segment) (asked : .segment segment ∈ q.filters)
      (owner : segment = .residential ∨ segment = .business) (metric : q.metric ≠ .subscriptions)
  /-- Neither the query nor the caller names a year. -/
  | unnamed (period : q.period = none) (offered : fallback = none)
  /-- The list of years is empty. -/
  | emptyList (period : q.period = some (.years []))
  /-- No known year meets the comparison. -/
  | barren (period : Period.Barren q.period)
  /-- A quantifier has nothing to range over. -/
  | emptyRequirement (quantifier : Quantifier)
      (requirement : q.requirement = some (.quantified quantifier []))
  /-- Somewhere in requirement or filters a speed is out of range. -/
  | speed (p : Field × Int) (compared : p ∈ q.numbers) (excessive : Excessive p)

/-! ## Speeds that fit -/

theorem Field.isSpeed_iff {f : Field} : f.isSpeed = true ↔ f = .download ∨ f = .upload := by
  cases f <;> simp [Field.isSpeed]

/-- A value fits exactly if it is no number out of range. -/
theorem Field.fits_number_iff {f : Field} {n : Int} : f.Fits (.number n) ↔ ¬ Excessive (f, n) := by
  constructor
  · rintro hfits ⟨hspeed, hrange⟩
    have hbounds := hfits n rfl (Field.isSpeed_iff.2 hspeed)
    simp only at hrange
    omega
  · intro hnot m hm hspeed
    obtain rfl := Value.number.inj hm
    by_contra hbounds
    exact hnot ⟨Field.isSpeed_iff.1 hspeed, by simp only; omega⟩

theorem Field.fits_text (f : Field) (s : String) : f.Fits (.text s) := by
  intro n hn
  cases hn

theorem Criterion.fits_iff (x : Criterion) : x.Fits ↔ ∀ p ∈ x.numbers, ¬ Excessive p := by
  induction x with
  | technology t negated => simp [Criterion.Fits, Criterion.numbers]
  | compare field op value negated =>
    cases value with
    | number n => simp [Criterion.Fits, Criterion.numbers, Field.fits_number_iff]
    | text s => simp [Criterion.Fits, Criterion.numbers, Field.fits_text]
  | join op left right ihl ihr =>
    rw [Criterion.Fits, Criterion.numbers, List.forall_mem_append, ihl, ihr]
  | not inner ih => exact ih

/-- Every speed of the filter fits. -/
def Filter.Fits : Filter → Prop
  | .segment _ => True
  | .compare field _ value => field.Fits value

theorem Filter.fits_iff (f : Filter) : f.Fits ↔ ∀ p ∈ f.numbers, ¬ Excessive p := by
  cases f with
  | segment s => simp [Filter.Fits, Filter.numbers]
  | compare field op value =>
    cases value with
    | number n => simp [Filter.Fits, Filter.numbers, Field.fits_number_iff]
    | text s => simp [Filter.Fits, Filter.numbers, Field.fits_text]

/-- The requirement has branches, and every speed in them fits. -/
def Requirement.Fits (r : Requirement) : Prop := r.branches.2 ≠ [] ∧ ∀ x ∈ r.branches.2, x.Fits

theorem Requirement.fits_iff (r : Requirement) :
    r.Fits ↔ (∀ quantifier, r ≠ .quantified quantifier []) ∧ ∀ p ∈ r.numbers, ¬ Excessive p := by
  cases r with
  | single c => simp [Requirement.Fits, Requirement.branches, Requirement.numbers, c.fits_iff]
  | quantified quantifier cs =>
    simp only [Requirement.Fits, Requirement.branches, Requirement.numbers, List.forall_mem_flatMap,
      Criterion.fits_iff, ne_eq, Requirement.quantified.injEq, not_and]
    refine and_congr_left fun _ => ⟨fun h _ _ => h, fun h => h quantifier rfl⟩

theorem Query.fits_iff (q : Query) :
    ((∀ x ∈ q.requirement, x.Fits) ∧ ∀ f ∈ q.filters, f.Fits) ↔
      (∀ quantifier, q.requirement ≠ some (.quantified quantifier [])) ∧
        ∀ p ∈ q.numbers, ¬ Excessive p := by
  rw [Query.numbers, List.forall_mem_append, ← and_assoc]
  refine and_congr ?_ ?_
  · cases q.requirement with
    | none => simp
    | some x => simp [x.fits_iff]
  · simp only [List.forall_mem_flatMap, Filter.fits_iff]

/-! ## Conditions exist -/

theorem Filter.exists_condition_iff {qualifier : Option String} (f : Filter) :
    (∃ c, f.condition qualifier = .ok c) ↔ f.Fits := by
  cases f with
  | segment s => exact ⟨fun _ => trivial, fun _ => ⟨_, rfl⟩⟩
  | compare field op value => exact Field.exists_condition_iff

theorem exists_filterConditions_iff {qualifier : Option String} {fs : List Filter} :
    (∃ cs, filterConditions fs qualifier = .ok cs) ↔ ∀ f ∈ fs, f.Fits := by
  rw [filterConditions, exists_mapM_iff]
  exact forall₂_congr fun f _ => f.exists_condition_iff

/-- A requirement on an address can be written whenever a requirement on a row can. -/
theorem Membership.exists_predicate_iff (m : Membership) (r : Requirement) :
    (∃ p, m.predicate r = .ok p) ↔ r.Fits := by
  have hcondition : (∃ c, r.condition none = .ok c) ↔ r.Fits := r.exists_condition_iff
  rw [← hcondition]
  unfold Membership.predicate Requirement.condition
  generalize r.branches = branches
  obtain ⟨quantifier, criteria⟩ := branches
  rw [exists_bind_iff, exists_bind_iff]
  refine exists_congr fun conds => and_congr_right fun _ => ?_
  cases conds with
  | nil => exact ⟨fun ⟨_, h⟩ => absurd h throw_ne_ok, fun ⟨_, h⟩ => absurd h throw_ne_ok⟩
  | cons first rest => exact ⟨fun _ => ⟨_, rfl⟩, fun _ => ⟨_, rfl⟩⟩

/-! ## Statements exist -/

namespace Report

/-- What is asked of the data by requirement and filters can be asked. -/
def Fits (r : Report) : Prop :=
  (∀ x ∈ r.query.requirement, x.Fits) ∧ ∀ f ∈ r.query.filters, f.Fits

/-- The tables of coverage ask for the filters twice, with the population and with what is covered of
it; if they can be asked for once, they can be asked for again. -/
theorem exists_coverageTables_iff (r : Report) : (∃ ts, r.coverageTables = .ok ts) ↔ r.Fits := by
  rw [coverageTables, exists_bind_iff, Fits]
  cases r.query.requirement with
  | none =>
    constructor
    · rintro ⟨fs, hfs, -⟩
      exact ⟨by simp, exists_filterConditions_iff.1 ⟨fs, hfs⟩⟩
    · rintro ⟨-, hfilters⟩
      obtain ⟨fs, hfs⟩ := exists_filterConditions_iff.2 hfilters
      exact ⟨fs, hfs, _, rfl⟩
  | some x =>
    have hpredicate := coverageMembership.exists_predicate_iff x
    constructor
    · rintro ⟨fs, hfs, tables, h⟩
      obtain ⟨p, hp, -⟩ := bind_eq_ok_iff.1 h
      exact ⟨by simpa using hpredicate.1 ⟨p, hp⟩, exists_filterConditions_iff.1 ⟨fs, hfs⟩⟩
    · rintro ⟨hx, hfilters⟩
      obtain ⟨fs, hfs⟩ := exists_filterConditions_iff.2 hfilters
      obtain ⟨p, hp⟩ := hpredicate.2 (hx x rfl)
      obtain ⟨fs', hfs'⟩ := exists_filterConditions_iff.2 hfilters
      exact ⟨fs, hfs, _, bind_eq_ok_iff.2 ⟨p, hp, bind_eq_ok_iff.2 ⟨fs', hfs', rfl⟩⟩⟩

theorem exists_matchingSubscriptions_iff (r : Report) :
    (∃ x, r.matchingSubscriptions = .ok x) ↔ ∀ x ∈ r.query.requirement, x.Fits := by
  rw [matchingSubscriptions]
  cases r.query.requirement with
  | none => simp
  | some x =>
    have hcondition : (∃ c, x.condition (some "s") = .ok c) ↔ x.Fits := x.exists_condition_iff
    simp only [exists_map_iff, hcondition, Option.mem_some_iff, forall_eq']

theorem exists_subscription_iff (r : Report) : (∃ s, r.subscription = .ok s) ↔ r.Fits := by
  rw [subscription, exists_bind_iff, Fits, ← exists_matchingSubscriptions_iff]
  constructor
  · rintro ⟨covered, hcovered, s, h⟩
    obtain ⟨fs, hfs, -⟩ := bind_eq_ok_iff.1 h
    exact ⟨⟨covered, hcovered⟩, exists_filterConditions_iff.1 ⟨fs, hfs⟩⟩
  · rintro ⟨⟨covered, hcovered⟩, hfilters⟩
    obtain ⟨fs, hfs⟩ := exists_filterConditions_iff.2 hfilters
    exact ⟨covered, hcovered, _, bind_eq_ok_iff.2 ⟨fs, hfs, rfl⟩⟩

/-- With its tables, a report of coverage has a statement, whichever its columns, order and limit. -/
theorem exists_pivot_iff (r : Report) : (∃ s, r.pivot = .ok s) ↔ ∃ ts, r.coverageTables = .ok ts := by
  rw [pivot, exists_bind_iff]
  refine exists_congr fun ts => and_iff_left ?_
  by_cases hcounty : r.byCounty = true
  · exact ⟨_, if_pos hcounty⟩
  · exact ⟨_, if_neg hcounty⟩

/-- **A report on single addresses has a statement exactly if its requirement and filters can be asked
for**, whichever way the data are asked. -/
theorem exists_statement_iff {r : Report} (h : r.strategy ≠ .historical) :
    (∃ s, r.statement = .ok s) ↔ r.Fits := by
  rw [statement]
  cases hstrategy : r.strategy with
  | historical => exact absurd hstrategy h
  | subscription => exact r.exists_subscription_iff
  | pivot => exact r.exists_pivot_iff.trans r.exists_coverageTables_iff
  | coverage => exact exists_map_iff.trans r.exists_coverageTables_iff

end Report

/-! ## The checks before -/

theorem Query.checkOwnership_eq_ok_iff {q : Query} :
    q.checkOwnership = .ok () ↔ q.metric = .subscriptions ∨
      ∀ s, .segment s ∈ q.filters → ¬ (s = .residential ∨ s = .business) := by
  have howner : ∀ s : Segment, s.isOwnership = true ↔ s = .residential ∨ s = .business := by
    intro s
    cases s <;> simp [Segment.isOwnership]
  rw [Query.checkOwnership]
  by_cases hmetric : q.metric = .subscriptions
  · simp [hmetric]
  · simp only [hmetric, if_false, false_or, ← howner]
    split
    · next hnone =>
      refine ⟨fun _ s hs hown => ?_, fun _ => rfl⟩
      have hs := List.filterMap_eq_nil_iff.1 hnone _ hs
      simp [hown] at hs
    · next owner owners howners =>
      refine ⟨fun h => (nomatch h), fun h => ?_⟩
      obtain ⟨f, hf, hs⟩ := List.mem_filterMap.1 (howners ▸ List.mem_cons_self)
      cases f with
      | segment s => simp [h s hf] at hs
      | compare field op value => cases hs

/-- The checks that need the years, for years of the detailed data. -/
theorem Report.exists_checkedStatement_iff {r : Report} (h : ∀ y ∈ r.years, 2022 ≤ y) :
    (∃ s, r.checkedStatement = .ok s) ↔ r.years ≠ [] ∧ r.Fits := by
  have hdetailed := Resolved.historical_eq_false (r := r.toResolved) h
  have hstrategy := Resolved.strategy_ne_historical (r := r.toResolved) h
  simp only [Report.checkedStatement, hdetailed, ite_throw_eq_ok_iff, List.isEmpty_iff,
    exists_and_left, Bool.false_eq_true, if_false, Report.exists_statement_iff hstrategy, ne_eq]

/-- The steps that answer a query about detailed years. -/
theorem Query.exists_toSql_iff {q : Query} {o : Options}
    (h : ∀ y, Period.Denotes o.year q.period y → 2022 ≤ y) :
    (∃ sql, q.toSql o = .ok sql) ↔ q.checkOwnership = .ok () ∧
      (∃ years, Period.resolve q.period o.year = .ok years ∧ years ≠ []) ∧
      (∀ x ∈ q.requirement, x.Fits) ∧ ∀ f ∈ q.filters, f.Fits := by
  -- the years that are found are those that the period denotes, so they are detailed ones
  have hchecked : ∀ years, Period.resolve q.period o.year = .ok years →
      ((∃ s, Report.checkedStatement ⟨⟨q, years⟩, o.directory⟩ = .ok s) ↔
        years ≠ [] ∧ Report.Fits ⟨⟨q, years⟩, o.directory⟩) := by
    intro years hyears
    refine Report.exists_checkedStatement_iff fun y hy => h y ?_
    exact ((Period.resolve_sound hyears).2 y).1 hy
  rw [Query.toSql, exists_map_iff, Query.statement_eq]
  simp only [exists_bind_iff]
  constructor
  · rintro ⟨_, hownership, years, hyears, hs⟩
    obtain ⟨hne, hfits⟩ := (hchecked years hyears).1 hs
    exact ⟨hownership, ⟨years, hyears, hne⟩, hfits⟩
  · rintro ⟨hownership, ⟨years, hyears, hne⟩, hfits⟩
    exact ⟨(), hownership, years, hyears, (hchecked years hyears).2 ⟨hne, hfits⟩⟩

/-! ## The main statement -/

theorem Query.not_fault_iff {q : Query} {fallback : Option Int} :
    ¬ q.Fault fallback ↔
      (q.metric = .subscriptions ∨
        ∀ s, .segment s ∈ q.filters → ¬ (s = .residential ∨ s = .business)) ∧
      (∃ y, Period.Denotes fallback q.period y) ∧
      (∀ quantifier, q.requirement ≠ some (.quantified quantifier [])) ∧
      ∀ p ∈ q.numbers, ¬ Excessive p := by
  rw [Period.exists_denotes_iff]
  constructor
  · intro h
    refine ⟨?_, ⟨fun ⟨hperiod, hoffered⟩ => h (.unnamed hperiod hoffered),
      fun hperiod => h (.emptyList hperiod), fun hperiod => h (.barren hperiod)⟩,
      fun quantifier hempty => h (.emptyRequirement quantifier hempty),
      fun p hp hexcessive => h (.speed p hp hexcessive)⟩
    by_cases hmetric : q.metric = .subscriptions
    · exact .inl hmetric
    · exact .inr fun s hs howner => h (.ownership s hs howner hmetric)
  · rintro ⟨hownership, ⟨hunnamed, hlist, hbarren⟩, hrequirement, hspeed⟩ hfault
    cases hfault with
    | ownership s hs howner hmetric =>
      rcases hownership with hsubscriptions | hnone
      · exact hmetric hsubscriptions
      · exact hnone s hs howner
    | unnamed hperiod hoffered => exact hunnamed ⟨hperiod, hoffered⟩
    | emptyList hperiod => exact hlist hperiod
    | barren hperiod => exact hbarren hperiod
    | emptyRequirement quantifier hempty => exact hrequirement quantifier hempty
    | speed p hp hexcessive => exact hspeed p hp hexcessive

/-- **Which queries on detailed years are rejected.** A query that denotes no year before them is
rejected exactly if it has one of the faults, and otherwise it has a statement. -/
theorem Query.toSql_eq_error_iff_fault (q : Query) (o : Options)
    (h : ∀ y, Period.Denotes o.year q.period y → 2022 ≤ y) :
    ((∃ e, q.toSql o = .error e) ↔ q.Fault o.year) ∧
      ((∃ sql, q.toSql o = .ok sql) ↔ ¬ q.Fault o.year) := by
  have hok : (∃ sql, q.toSql o = .ok sql) ↔ ¬ q.Fault o.year := by
    rw [Query.exists_toSql_iff h, Query.checkOwnership_eq_ok_iff, Period.exists_resolve_iff,
      q.fits_iff, Query.not_fault_iff]
  refine ⟨?_, hok⟩
  rw [exists_error_iff, hok, not_not]

/-- Subscriptions of customers with a download speed, deep inside a requirement. -/
def Query.privateDownloads (mbps : Int) : Query where
  requirement := some (.quantified .none [.technology .fiber true,
    .not (.join .or (.compare .provider .eq (.text "a") false)
      (.not (.compare .download .lt (.number mbps) true)))])
  filters := [.segment .residential, .compare .postal .ge (.number 9223372036854775807)]
  metric := .subscriptions
  grouping := .county
  period := some (.compare .ge 2023)

/-- A speed that just fits, and the next one. A number that is no speed may be any. -/
theorem Query.toSql_privateDownloads :
    (∀ y, Period.Denotes none (privateDownloads 0).period y → 2022 ≤ y) ∧
      (∃ sql, (privateDownloads 9223372036854775).toSql {} = .ok sql) ∧
      ∃ e, (privateDownloads 9223372036854776).toSql {} = .error e := by
  have hyears : ∀ mbps y, Period.Denotes none (privateDownloads mbps).period y → 2022 ≤ y := by
    intro mbps y hy
    have hrelates : (2023 : Int) ≤ y := hy.2
    omega
  refine ⟨hyears 0, ?_, ?_⟩
  · refine (toSql_eq_error_iff_fault (privateDownloads 9223372036854775) {} (hyears _)).2.2 ?_
    refine Query.not_fault_iff.2 ⟨.inl rfl, ⟨2024, by decide, ?_⟩, fun quantifier h => ?_, ?_⟩
    · exact show (2023 : Int) ≤ 2024 by decide
    · cases h
    · have hnumbers : (privateDownloads 9223372036854775).numbers
          = [(.download, 9223372036854775), (.postal, 9223372036854775807)] := rfl
      rw [hnumbers]
      rintro p hp ⟨hspeed, hrange⟩
      simp only [List.mem_cons, List.not_mem_nil, or_false] at hp
      rcases hp with rfl | rfl
      · simp at hrange
      · simp at hspeed
  · refine (toSql_eq_error_iff_fault (privateDownloads 9223372036854776) {} (hyears _)).1.2 ?_
    exact .speed (.download, 9223372036854776) (by decide) ⟨.inl rfl, .inr (by decide)⟩

end Broadband
