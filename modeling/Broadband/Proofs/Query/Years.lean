import Broadband.Compile
import Broadband.Proofs.Checks
import Mathlib.Data.List.Sort

/-!
# Only the set of years counts

A period lists years or compares them, and a query without one takes the year that the caller offers.
`Period.Denotes` says which years that is, without a word on how they are found. Resolving a period gives
these years as a strictly ascending list (`Period.resolve_eq_ok_iff`), and there is only one such list
for a set. So two periods that denote the same years are resolved alike, and as nothing after that looks
at the period again, the statement is the same too: no repeated year makes a report span several years,
and it does not matter in which order they are named.

The one way to fail is a comparison that no known year meets. An empty list denotes no year either, but
it is resolved; the query is then rejected for want of a year, as one is for which nobody names any.
-/

namespace Broadband

open Checks

/-! ## The years that a period denotes -/

/-- What a comparison says of two numbers. -/
def Comparison.Relates : Comparison → Int → Int → Prop
  | .eq, a, b => a = b
  | .ne, a, b => a ≠ b
  | .gt, a, b => b < a
  | .ge, a, b => b ≤ a
  | .lt, a, b => a < b
  | .le, a, b => a ≤ b

theorem Comparison.holds_iff_relates {op : Comparison} {a b : Int} :
    op.holds a b = true ↔ op.Relates a b := by
  cases op <;> simp [Comparison.holds, Comparison.Relates]

namespace Period

/-- The years of a period, or the one that the caller offers if there is no period. -/
def Denotes (fallback : Option Int) : Option Period → Int → Prop
  | none, y => fallback = some y
  | some (.years ys), y => y ∈ ys
  | some (.compare op year), y => (2013 ≤ y ∧ y ≤ 2024) ∧ op.Relates y year

/-- The period is a comparison that no known year meets. -/
def Barren (period : Option Period) : Prop :=
  ∃ op year, period = some (.compare op year) ∧ ∀ y, ¬ ((2013 ≤ y ∧ y ≤ 2024) ∧ op.Relates y year)

end Period

/-! ## Sets of years as lists -/

namespace Year

theorem mem_insert {y year : Int} {ys : List Int} : y ∈ insert year ys ↔ y = year ∨ y ∈ ys := by
  induction ys with
  | nil => simp [insert]
  | cons z zs ih =>
    rw [insert]
    split
    · rw [List.mem_cons]
    · split
      · next heq => rw [List.mem_cons, heq, or_self_left]
      · rw [List.mem_cons, List.mem_cons, ih, or_left_comm]

theorem pairwise_insert {year : Int} {ys : List Int} (h : ys.Pairwise (· < ·)) :
    (insert year ys).Pairwise (· < ·) := by
  induction ys with
  | nil => exact List.pairwise_singleton _ _
  | cons z zs ih =>
    obtain ⟨hz, hzs⟩ := List.pairwise_cons.1 h
    rw [insert]
    split
    · next hlt =>
      refine List.pairwise_cons.2 ⟨fun x hx => ?_, h⟩
      rcases List.mem_cons.1 hx with rfl | hx
      · exact hlt
      · exact hlt.trans (hz x hx)
    · split
      · exact h
      · next hge hne =>
        -- the year comes behind `z`, as do the years that follow it
        refine List.pairwise_cons.2 ⟨fun x hx => ?_, ih hzs⟩
        rcases mem_insert.1 hx with rfl | hx
        · omega
        · exact hz x hx

theorem mem_sorted {y : Int} {ys : List Int} : y ∈ sorted ys ↔ y ∈ ys := by
  induction ys with
  | nil => rfl
  | cons z zs ih =>
    rw [sorted, List.foldr_cons, mem_insert, List.mem_cons]
    exact or_congr_right ih

theorem pairwise_sorted (ys : List Int) : (sorted ys).Pairwise (· < ·) := by
  induction ys with
  | nil => exact .nil
  | cons z zs ih => exact pairwise_insert ih

theorem mem_known {y : Int} : y ∈ known ↔ 2013 ≤ y ∧ y ≤ 2024 := by
  simp only [known, List.mem_cons, List.not_mem_nil, or_false]
  omega

theorem pairwise_known : known.Pairwise (· < ·) := by decide

/-- The years that meet a comparison. Where only the detailed years are looked through, the year that is
asked for is no earlier than they are, so none that equals it is missed. -/
theorem mem_matching {op : Comparison} {year y : Int} :
    y ∈ matching op year ↔ (2013 ≤ y ∧ y ≤ 2024) ∧ op.Relates y year := by
  rw [matching, List.mem_filter, Comparison.holds_iff_relates]
  refine and_congr_left fun hrelates => ?_
  split
  · next hdetailed =>
    simp only [Bool.and_eq_true, decide_eq_true_eq, Bool.not_eq_true', isHistorical,
      decide_eq_false_iff_not] at hdetailed
    obtain ⟨rfl, hyear⟩ := hdetailed
    obtain rfl : y = year := hrelates
    rw [detailed, List.mem_filter, mem_known]
    simp [isHistorical, hyear]
  · exact mem_known

theorem pairwise_matching (op : Comparison) (year : Int) : (matching op year).Pairwise (· < ·) := by
  rw [matching]
  split
  · exact (pairwise_known.filter _).filter _
  · exact pairwise_known.filter _

end Year

/-! ## Resolving a period -/

namespace Period

theorem resolve_eq_error_iff {period : Option Period} {fallback : Option Int} {e : Rejection} :
    resolve period fallback = .error e ↔ ∃ op year, period = some (.compare op year) ∧
      (∀ y, ¬ Denotes fallback period y) ∧ e = .noKnownYear op year := by
  cases period with
  | none => simp [resolve]
  | some p =>
    cases p with
    | years ys => simp [resolve]
    | compare op year =>
      have hnone : Year.matching op year = [] ↔ ∀ y, ¬ Denotes fallback (some (.compare op year)) y := by
        rw [List.eq_nil_iff_forall_not_mem]
        exact forall_congr' fun y => not_congr Year.mem_matching
      rw [← hnone, resolve]
      cases Year.matching op year with
      | nil =>
        constructor
        · intro h
          exact ⟨op, year, rfl, rfl, (Except.error.inj h).symm⟩
        · rintro ⟨op', year', hperiod, -, rfl⟩
          cases hperiod
          rfl
      | cons y ys => simp

theorem barren_iff {period : Option Period} (fallback : Option Int) :
    Barren period ↔ ∃ e, resolve period fallback = .error e := by
  constructor
  · rintro ⟨op, year, rfl, hnone⟩
    exact ⟨_, resolve_eq_error_iff.2 ⟨op, year, rfl, hnone, rfl⟩⟩
  · rintro ⟨e, he⟩
    obtain ⟨op, year, rfl, hnone, -⟩ := resolve_eq_error_iff.1 he
    exact ⟨op, year, rfl, hnone⟩

/-- What a period is resolved to are the years that it denotes, ascending. -/
theorem resolve_sound {period : Option Period} {fallback : Option Int} {ys : List Int}
    (h : resolve period fallback = .ok ys) :
    ys.Pairwise (· < ·) ∧ ∀ y, y ∈ ys ↔ Denotes fallback period y := by
  cases period with
  | none =>
    obtain rfl := Except.ok.inj h
    constructor
    · cases fallback with
      | none => exact .nil
      | some y => exact List.pairwise_singleton _ _
    · intro y
      rw [Option.mem_toList]
      rfl
  | some p =>
    cases p with
    | years zs =>
      obtain rfl := Except.ok.inj h
      exact ⟨Year.pairwise_sorted zs, fun y => Year.mem_sorted⟩
    | compare op year =>
      have hmatching : Year.matching op year = ys := by
        rw [resolve] at h
        split at h
        · cases h
        · exact Except.ok.inj h
      rw [← hmatching]
      exact ⟨Year.pairwise_matching op year, fun y => Year.mem_matching⟩

/-- **A period is resolved to the strictly ascending list of the years that it denotes**, unless it is a
comparison that denotes none. -/
theorem resolve_eq_ok_iff {period : Option Period} {fallback : Option Int} {ys : List Int} :
    resolve period fallback = .ok ys ↔
      ¬ Barren period ∧ ys.Pairwise (· < ·) ∧ ∀ y, y ∈ ys ↔ Denotes fallback period y := by
  rw [barren_iff fallback]
  constructor
  · intro h
    exact ⟨by simp [h], resolve_sound h⟩
  · rintro ⟨hbarren, hsorted, hmem⟩
    cases hresolve : resolve period fallback with
    | error e => exact absurd ⟨e, hresolve⟩ hbarren
    | ok zs =>
      -- both lists ascend and have the same members
      obtain ⟨hsorted', hmem'⟩ := resolve_sound hresolve
      have hsame : zs = ys := hsorted'.eq_of_mem_iff hsorted fun y => (hmem' y).trans (hmem y).symm
      rw [hsame]

/-- A period is resolved to some year exactly if it denotes one. -/
theorem exists_resolve_iff {period : Option Period} {fallback : Option Int} :
    (∃ ys, resolve period fallback = .ok ys ∧ ys ≠ []) ↔ ∃ y, Denotes fallback period y := by
  constructor
  · rintro ⟨ys, hys, hne⟩
    obtain ⟨y, hy⟩ := List.exists_mem_of_ne_nil ys hne
    exact ⟨y, ((resolve_sound hys).2 y).1 hy⟩
  · rintro ⟨y, hy⟩
    cases hresolve : resolve period fallback with
    | error e =>
      obtain ⟨-, -, -, hnone, -⟩ := resolve_eq_error_iff.1 hresolve
      exact absurd hy (hnone y)
    | ok ys => exact ⟨ys, rfl, List.ne_nil_of_mem (((resolve_sound hresolve).2 y).2 hy)⟩

/-- The ways to denote no year: to name none, to list none, and to compare in vain. -/
theorem exists_denotes_iff {period : Option Period} {fallback : Option Int} :
    (∃ y, Denotes fallback period y) ↔
      ¬ (period = none ∧ fallback = none) ∧ period ≠ some (.years []) ∧ ¬ Barren period := by
  cases period with
  | none => simp [Denotes, Barren, Option.ne_none_iff_exists']
  | some p =>
    cases p with
    | years ys => simp [Denotes, Barren, List.eq_nil_iff_forall_not_mem]
    | compare op year => simp [Denotes, Barren, and_assoc]

/-- Periods that denote the same years are resolved alike. -/
theorem resolve_congr {period period' : Option Period} {fallback fallback' : Option Int}
    (h : ¬ Barren period) (h' : ¬ Barren period')
    (hsame : ∀ y, Denotes fallback period y ↔ Denotes fallback' period' y) :
    resolve period fallback = resolve period' fallback' := by
  cases hresolve : resolve period fallback with
  | error e => exact absurd ((barren_iff fallback).2 ⟨e, hresolve⟩) h
  | ok ys =>
    obtain ⟨hsorted, hmem⟩ := resolve_sound hresolve
    exact (resolve_eq_ok_iff.2 ⟨h', hsorted, fun y => (hmem y).trans (hsame y)⟩).symm

end Period

/-! ## The statement -/

/-- The statement of a report, behind the checks that need its years. -/
def Report.checkedStatement (r : Report) : Except Rejection Sql.Statement := do
  if r.years.isEmpty then
    throw .noYear
  if r.toResolved.historical then
    r.query.checkHistorical
  r.statement

/-- The way to a statement: the segments of customers, the years, and what depends on them. -/
theorem Query.statement_eq (q : Query) (o : Options) :
    q.statement o = q.checkOwnership >>= fun _ => Period.resolve q.period o.year >>= fun years =>
      Report.checkedStatement ⟨⟨q, years⟩, o.directory⟩ := by
  rw [Query.statement, Query.resolve]
  cases q.checkOwnership with
  | error e => rfl
  | ok _ =>
    cases Period.resolve q.period o.year with
    | error e => rfl
    | ok years =>
      simp only [ok_bind, Report.checkedStatement]
      by_cases hempty : years.isEmpty = true
      · rw [if_pos hempty, if_pos hempty]
        rfl
      · rw [if_neg hempty, if_neg hempty]
        by_cases hearly : (Resolved.mk q years).historical = true
        · rw [if_pos hearly, if_pos hearly]
          cases q.checkHistorical with
          | error e => rfl
          | ok _ => rfl
        · rw [if_neg hearly, if_neg hearly]
          rfl

/-- Once a query has its years, its period is not looked at again. -/
theorem Report.checkedStatement_period (q : Query) (years : List Int) (dataPath : String)
    (period : Option Period) :
    Report.checkedStatement ⟨⟨{ q with period }, years⟩, dataPath⟩
      = Report.checkedStatement ⟨⟨q, years⟩, dataPath⟩ := rfl

/-- **Only the set of years counts.** A period, or the year offered in its place, is resolved to the
strictly ascending list of exactly the years that it denotes; it is not resolved exactly if it is a
comparison that denotes none. Queries that differ in nothing but the form in which they name the same
years have the same answer, be it a text or a rejection. -/
theorem Query.toSql_of_sameYears :
    (∀ (period : Option Period) (fallback : Option Int),
      (∀ ys, Period.resolve period fallback = .ok ys ↔
        ¬ Period.Barren period ∧ ys.Pairwise (· < ·) ∧
          ∀ y, y ∈ ys ↔ Period.Denotes fallback period y) ∧
      ∀ e, Period.resolve period fallback = .error e ↔
        ∃ op year, period = some (.compare op year) ∧
          (∀ y, ¬ Period.Denotes fallback period y) ∧ e = .noKnownYear op year) ∧
    ∀ (q : Query) (period : Option Period) (fallback fallback' : Option Int)
      (dataPath : Option String), ¬ Period.Barren q.period → ¬ Period.Barren period →
      (∀ y, Period.Denotes fallback q.period y ↔ Period.Denotes fallback' period y) →
      q.toSql ⟨fallback, dataPath⟩ = { q with period }.toSql ⟨fallback', dataPath⟩ := by
  refine ⟨fun period fallback => ⟨fun ys => Period.resolve_eq_ok_iff, fun e =>
    Period.resolve_eq_error_iff⟩, ?_⟩
  intro q period fallback fallback' dataPath hperiod hperiod' hsame
  have hresolve := Period.resolve_congr hperiod hperiod' hsame
  have hownership : { q with period }.checkOwnership = q.checkOwnership := rfl
  rw [Query.toSql, Query.toSql, Query.statement_eq, Query.statement_eq, hresolve, hownership]
  simp only [Report.checkedStatement_period]
  rfl

/-- The homes by county in some years. -/
def Query.homesByCounty (period : Option Period) : Query :=
  { metric := .homes, grouping := .county, period }

/-- Years out of order and repeated, compared, and offered by the caller; a repeated year is one year. -/
theorem Query.toSql_homesByCounty :
    Period.resolve (some (.years [2024, 2022, 2024, 2023])) none = .ok [2022, 2023, 2024] ∧
      Period.resolve (some (.compare .eq 2025)) none = .error (.noKnownYear .eq 2025) ∧
      ¬ Period.Barren (some (.compare .ge 2022)) ∧
      (∀ y, Period.Denotes none (some (.years [2024, 2022, 2024, 2023])) y ↔
        Period.Denotes (some 2013) (some (.compare .ge 2022)) y) ∧
      (homesByCounty (some (.years [2024, 2022, 2024, 2023]))).toSql ⟨none, none⟩
        = (homesByCounty (some (.compare .ge 2022))).toSql ⟨some 2013, none⟩ ∧
      (homesByCounty (some (.years [2024, 2024]))).toSql ⟨none, none⟩
        = (homesByCounty none).toSql ⟨some 2024, none⟩ := by
  have hlist : ∀ ys, ¬ Period.Barren (some (.years ys)) := by
    rintro ys ⟨op, year, hperiod, -⟩
    cases hperiod
  have hnone : ¬ Period.Barren none := by
    rintro ⟨op, year, hperiod, -⟩
    cases hperiod
  have hcompare : ¬ Period.Barren (some (.compare .ge 2022)) := by
    rintro ⟨op, year, hperiod, hbarren⟩
    cases hperiod
    exact hbarren 2024 ⟨by decide, show (2022 : Int) ≤ 2024 by decide⟩
  have hsame : ∀ y, Period.Denotes none (some (.years [2024, 2022, 2024, 2023])) y ↔
      Period.Denotes (some 2013) (some (.compare .ge 2022)) y := by
    intro y
    simp only [Period.Denotes, Comparison.Relates, List.mem_cons, List.not_mem_nil, or_false]
    omega
  obtain ⟨hresolve, hsql⟩ := toSql_of_sameYears
  refine ⟨?_, ?_, hcompare, hsame, ?_, ?_⟩
  · refine ((hresolve _ none).1 _).2 ⟨hlist _, by decide, fun y => ?_⟩
    simp only [Period.Denotes, List.mem_cons, List.not_mem_nil, or_false]
    omega
  · refine ((hresolve _ none).2 _).2 ⟨.eq, 2025, rfl, fun y => ?_, rfl⟩
    simp only [Period.Denotes, Comparison.Relates]
    omega
  · exact hsql (homesByCounty _) _ none (some 2013) none (hlist _) hcompare hsame
  · refine hsql (homesByCounty _) _ none (some 2024) none (hlist _) hnone fun y => ?_
    simp only [homesByCounty, Period.Denotes, List.mem_cons, List.not_mem_nil, or_false, or_self,
      Option.some.injEq]
    omega

end Broadband
