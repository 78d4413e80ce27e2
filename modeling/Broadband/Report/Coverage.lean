import Broadband.Report.Basic

/-!
# Coverage of a population

The population is what the addresses hold after the filters of the query; it is covered as far as
its addresses have the coverage that the requirement asks for. Both numbers are sums over the same
addresses by the same groups, the second over fewer of them, and a group of which nothing is covered
has no row in the second table and counts as zero.

This is Span's generator for `Strategy.Coverage`, with `write_result` and `result_select`.
-/

namespace Broadband.Report

open Sql

/-- Coverage rows are those of the same address and year. Span's `MEMBERSHIP`. -/
def coverageMembership : Membership where
  key := ⟨some "a", "adrid"⟩
  source := ⟨"dekning", some "d"⟩
  sourceKey := ⟨some "d", "adrid"⟩
  correlation := some (.compare ⟨some "d", "aar"⟩ .eq (.column ⟨some "a", "aar"⟩))

/-- The sum of the metric over the addresses that meet some predicates, by group. -/
def addressSums (r : Report) (short : Option String) (name : String) (filters : List Predicate) :
    Select Source :=
  let group := r.query.grouping.label short
  { columns := .named group "gruppe" :: (r.ifMultiYear (.same ⟨short, "aar"⟩) ++
      [.named (.sum (r.query.metric.weight short)) name])
    source := .table ⟨"adr", short⟩
    filters := .holds (r.yearCondition short) :: filters
    groupBy := group :: r.ifMultiYear (.column ⟨short, "aar"⟩) }

/-- The result: the population with what is covered of it. Span's `result_select`. -/
def coverageResult (r : Report) (covered : Scalar) (joins : List Join) : Select Source :=
  let total : Column := ⟨some "p", "total"⟩
  { columns := .same ⟨some "p", "gruppe"⟩ :: (r.ifMultiYear (.same ⟨some "p", "aar"⟩) ++
      [.named covered "covered", .same total,
       .named (.percentage covered (.column total)) "percent"])
    source := .table ⟨"population", some "p"⟩
    joins }

/-- The coverage of a group stands beside its population. -/
def coverageJoin (r : Report) : Join where
  outer := true
  table := ⟨"coverage", some "c"⟩
  conditions :=
    .compare ⟨some "p", "gruppe"⟩ .eq (.column ⟨some "c", "gruppe"⟩) ::
      r.ifMultiYear (.compare ⟨some "p", "aar"⟩ .eq (.column ⟨some "c", "aar"⟩))

/-- The tables up to `result`. Without a requirement all of the population is covered. Span's
`write_result`. -/
def coverageTables (r : Report) : Except Rejection (List Definition) := do
  let addresses : Definition := ⟨"adr", r.files [.addresses]⟩
  let filters ← filterConditions r.query.filters none
  let population : Definition :=
    ⟨"population", .select (r.addressSums none "total" (filters.map .holds))⟩
  match r.query.requirement with
  | none =>
    let result := r.coverageResult (.column ⟨some "p", "total"⟩) []
    return [addresses, population, ⟨"result", .select result⟩]
  | some requirement =>
    let covered ← coverageMembership.predicate requirement
    let filters ← filterConditions r.query.filters (some "a")
    let coverage := r.addressSums (some "a") "covered" (covered :: filters.map .holds)
    let result := r.coverageResult
      (.coalesce [.column ⟨some "c", "covered"⟩, .literal (.number 0)]) [r.coverageJoin]
    return [addresses, ⟨"dekning", r.files [.fixedCoverage, .mobileCoverage]⟩, population,
      ⟨"coverage", .select coverage⟩, ⟨"result", .select result⟩]

/-- The report of coverage, one row for each group and year. -/
def coverage (r : Report) : Except Rejection Statement :=
  r.coverageTables.map r.ofResult

end Broadband.Report
