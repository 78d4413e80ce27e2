import Broadband.Compile
import Broadband.Proofs.Checks

/-!
# The tables of a report

A report on single rows is made of two parts. The tables up to `result` are made of data files, the
requirement and the filters; what closes the report is made of `result` alone. Here both parts are named,
and the statement of a report is written as the one behind the other.
-/

namespace Broadband.Report

open Checks Sql

/-! ## The tables up to the result -/

/-- The tables of coverage without a requirement, given what is made of the filters. -/
def populationTables (r : Report) (filters : List Condition) : List Definition :=
  [⟨"adr", r.files [.addresses]⟩,
   ⟨"population", .select (r.addressSums none "total" (filters.map .holds))⟩,
   ⟨"result", .select (r.coverageResult (.column ⟨some "p", "total"⟩) [])⟩]

/-- The tables of coverage, given what is made of the requirement and, once for the population and once for
what is covered of it, of the filters. -/
def coveredTables (r : Report) (filters : List Condition) (covered : Predicate)
    (filters' : List Condition) : List Definition :=
  [⟨"adr", r.files [.addresses]⟩, ⟨"dekning", r.files [.fixedCoverage, .mobileCoverage]⟩,
   ⟨"population", .select (r.addressSums none "total" (filters.map .holds))⟩,
   ⟨"coverage", .select (r.addressSums (some "a") "covered" (covered :: filters'.map .holds))⟩,
   ⟨"result", .select (r.coverageResult
      (.coalesce [.column ⟨some "c", "covered"⟩, .literal (.number 0)]) [r.coverageJoin])⟩]

/-- What coverage is made of. -/
theorem coverageTables_cases {r : Report} {tables : List Definition} (h : r.coverageTables = .ok tables) :
    ∃ filters, filterConditions r.query.filters none = .ok filters ∧
      (r.query.requirement = none ∧ tables = r.populationTables filters ∨
        ∃ x covered filters', r.query.requirement = some x ∧ coverageMembership.predicate x = .ok covered ∧
          filterConditions r.query.filters (some "a") = .ok filters' ∧
          tables = r.coveredTables filters covered filters') := by
  obtain ⟨filters, hfilters, h⟩ := bind_eq_ok_iff.1 h
  refine ⟨filters, hfilters, ?_⟩
  cases hrequirement : r.query.requirement with
  | none =>
    rw [hrequirement] at h
    exact .inl ⟨rfl, pure_eq_ok_iff.1 h⟩
  | some x =>
    rw [hrequirement] at h
    obtain ⟨covered, hcovered, h⟩ := bind_eq_ok_iff.1 h
    obtain ⟨filters', hfilters', h⟩ := bind_eq_ok_iff.1 h
    exact .inr ⟨x, covered, filters', rfl, hcovered, hfilters', pure_eq_ok_iff.1 h⟩

/-- The selection that counts subscriptions, given what is made of the requirement and of the filters. -/
def countedSubscriptions (r : Report) (covered : Scalar) (filters : List Condition) : Select Source where
  columns := .named r.subscriptionGroup "gruppe" ::
    (r.ifMultiYear (.same (subscriptionColumn "aar")) ++
      [.named covered "covered", .named .countRows "total",
       .named (.percentage covered .countRows) "percent"])
  source := .table ⟨"ab", some "s"⟩
  joins := if r.byCounty then countyJoins else []
  filters := .holds (r.yearCondition (some "s")) :: filters.map .holds
  groupBy := r.subscriptionGroup :: r.ifMultiYear (.column (subscriptionColumn "aar"))

/-- The tables in front of the one that counts subscriptions. -/
def subscriptionTables (r : Report) : List Definition :=
  ⟨"ab", r.files [.subscriptions]⟩ ::
    if r.byCounty then [⟨"adr", r.files [.addresses]⟩, ⟨"fylke_map", .nested countyMap⟩] else []

/-- One for each subscription that meets a condition. -/
def countIf (c : Condition) : Scalar := .sum (.ifElse c (.literal (.number 1)) (.literal (.number 0)))

theorem subscription_eq (r : Report) :
    r.subscription = (do
      let covered ← r.matchingSubscriptions
      let filters ← filterConditions r.query.filters (some "s")
      return r.ofResult (r.subscriptionTables ++
        [⟨"result", .select (r.countedSubscriptions covered filters)⟩])) := rfl

/-! ## What closes a report -/

/-- What closes a report does not depend on the tables up to `result`. -/
theorem ofResult_eq (r : Report) (tables : List Definition) :
    r.ofResult tables = ⟨tables ++ (r.ofResult []).tables, (r.ofResult []).main⟩ := by
  unfold ofResult
  by_cases hcounty : r.byCounty = true
  · rw [if_pos hcounty, if_pos hcounty]
    cases r.query.limit with
    | none => simp
    | some n => simp
  · rw [if_neg hcounty, if_neg hcounty, List.append_nil]

/-- What puts the years of coverage side by side, behind the tables up to `result`. -/
def sideBySide (r : Report) : Statement :=
  let limited : Select Source :=
    { r.pivotRows with orderBy := [r.groupOrder], limit := r.query.limit }
  if r.byCounty then
    let rows := if r.query.limit.isSome then limited else r.pivotRows
    let national : Select Source :=
      { columns := nationalGroup :: r.pivotColumns, source := .table ⟨"result", none⟩ }
    { tables :=
        [⟨"pivoted", .select rows⟩, ⟨"national", .select national⟩,
         ⟨"combined", .union ["pivoted", "national"]⟩]
      main :=
        { source := .table ⟨"combined", none⟩
          orderBy := [nationalLast, r.groupOrder] } }
  else { tables := [], main := limited }

theorem pivot_eq (r : Report) :
    r.pivot = r.coverageTables.map fun tables =>
      ⟨tables ++ r.sideBySide.tables, r.sideBySide.main⟩ := by
  rw [pivot]
  cases r.coverageTables with
  | error e => rfl
  | ok tables =>
    rw [ok_bind, Except.map, sideBySide]
    by_cases hcounty : r.byCounty = true
    · rw [if_pos hcounty, if_pos hcounty]
      rfl
    · rw [if_neg hcounty, if_neg hcounty, List.append_nil]
      rfl

/-- What closes a report of coverage. -/
def coverageEnd (r : Report) : Statement :=
  if r.strategy = .pivot then r.sideBySide else r.ofResult []

/-! ## Statements -/

section

variable {r : Report} (hlate : ¬ r.toResolved.historical = true)

include hlate

/-- Subscriptions are counted whatever the years. -/
theorem statement_of_subscriptions (hmetric : r.query.metric = .subscriptions) :
    r.statement = r.subscription := by
  have hstrategy : r.strategy = .subscription := by
    rw [Resolved.strategy, if_neg hlate, if_pos hmetric]
  rw [statement, hstrategy]

/-- Coverage is made of the same tables whether or not its years are put side by side. -/
theorem statement_of_coverage (hmetric : r.query.metric ≠ .subscriptions) :
    r.statement = r.coverageTables.map fun tables =>
      ⟨tables ++ r.coverageEnd.tables, r.coverageEnd.main⟩ := by
  rw [statement, coverageEnd, Resolved.strategy, if_neg hlate, if_neg hmetric]
  by_cases hpivot : r.multiYear = true ∧ r.query.grouping ≠ .national
  · rw [if_pos hpivot, if_pos rfl]
    exact r.pivot_eq
  · rw [if_neg hpivot, if_neg (by decide)]
    exact congrArg (fun close => r.coverageTables.map close) (funext r.ofResult_eq)

end

end Broadband.Report
