import Broadband.Proofs.Report.Comparisons
import Broadband.Proofs.Sql.Blank

/-!
# Texts and the structure of statements

Two queries that differ only in the texts they compare fields with get the same answer but for these
texts: either both are rejected for the same reason, or both have statements that differ in nothing
but the content of literals. The way there compares the run on a query with the run on the query whose
texts have been left out (`Query.blank`), part by part, up to the texts in what they build.
-/

namespace Broadband

open Checks Sql

/-! ## Queries without their texts -/

/-- A value with an empty text in place of any text. -/
def Value.blank : Value → Value
  | .text _ => .text ""
  | .number n => .number n

/-- A criterion with empty texts. -/
def Criterion.blank : Criterion → Criterion
  | .technology t negated => .technology t negated
  | .compare field op value negated => .compare field op value.blank negated
  | .join op left right => .join op left.blank right.blank
  | .not inner => .not inner.blank

/-- A requirement with empty texts. -/
def Requirement.blank : Requirement → Requirement
  | .single c => .single c.blank
  | .quantified q cs => .quantified q (cs.map Criterion.blank)

/-- A filter with an empty text. -/
def Filter.blank : Filter → Filter
  | .segment s => .segment s
  | .compare field op value => .compare field op value.blank

/-- A query with empty texts in its requirement and its filters. -/
def Query.blank (q : Query) : Query :=
  { q with
    requirement := q.requirement.map Requirement.blank
    filters := q.filters.map Filter.blank }

/-- A report on the query with empty texts. -/
def Report.blank (r : Report) : Report := { r with query := r.query.blank }

/-! ## Conditions -/

variable {qualifier : Option String}

theorem Field.condition_blank (f : Field) (op : Comparison) (v : Value) :
    (f.condition op v.blank qualifier).map Condition.blank
      = (f.condition op v qualifier).map Condition.blank := by
  cases v <;> rfl

theorem negateIf_blank (negated : Bool) (c : Condition) :
    (negateIf negated c).blank = negateIf negated c.blank := by
  cases negated <;> rfl

theorem Criterion.condition_blank (c : Criterion) :
    (c.blank.condition qualifier).map Condition.blank
      = (c.condition qualifier).map Condition.blank := by
  induction c with
  | technology t negated => rfl
  | compare field op value negated =>
    refine map_map_congr (field.condition_blank op value) fun c c' h => ?_
    rw [negateIf_blank, negateIf_blank, h]
  | join op left right ihl ihr =>
    refine map_bind_congr ihl fun l l' hl => map_bind_congr ihr fun r r' hr => ?_
    change Except.ok _ = Except.ok _
    simp only [Condition.blank, hl, hr]
  | not inner ih =>
    refine map_bind_congr ih fun c c' hc => ?_
    change Except.ok _ = Except.ok _
    simp only [Condition.blank, hc]

theorem Filter.condition_blank (f : Filter) :
    (f.blank.condition qualifier).map Condition.blank
      = (f.condition qualifier).map Condition.blank := by
  cases f with
  | segment s => rfl
  | compare field op value => exact field.condition_blank op value

theorem filterConditions_blank (fs : List Filter) :
    (filterConditions (fs.map Filter.blank) qualifier).map (List.map Condition.blank)
      = (filterConditions fs qualifier).map (List.map Condition.blank) :=
  map_mapM_congr Filter.condition_blank fs

theorem joinAll_blank (op : Connective) (first : Condition) (rest : List Condition) :
    (Condition.joinAll op first rest).blank
      = Condition.joinAll op first.blank (rest.map Condition.blank) := by
  have hfold : ∀ c : Condition, (rest.foldl (.join op) c).blank
      = (rest.map Condition.blank).foldl (.join op) c.blank := by
    induction rest with
    | nil => intro c; rfl
    | cons d ds ih => intro c; exact ih (.join op c d)
  unfold Condition.joinAll
  rw [List.isEmpty_map]
  split
  · rfl
  · rw [Condition.blank, hfold]

/-- Whether a condition gets parentheses does not depend on the texts in it. -/
theorem grouped_blank (c : Condition) : c.grouped.blank = c.blank.grouped := by
  cases c <;> rfl

theorem Requirement.branches_blank (r : Requirement) :
    r.blank.branches = (r.branches.1, r.branches.2.map Criterion.blank) := by
  cases r <;> rfl

theorem joinAll_congr (op : Connective) {first first' : Condition} {rest rest' : List Condition}
    (h : (first :: rest).map Condition.blank = (first' :: rest').map Condition.blank) :
    (Condition.joinAll op first rest).blank = (Condition.joinAll op first' rest').blank := by
  obtain ⟨hfirst, hrest⟩ := List.cons.inj h
  rw [joinAll_blank, joinAll_blank, hfirst, hrest]

theorem Requirement.condition_blank (r : Requirement) :
    (r.blank.condition qualifier).map Condition.blank
      = (r.condition qualifier).map Condition.blank := by
  unfold Requirement.condition
  rw [Requirement.branches_blank]
  generalize r.branches = branches
  obtain ⟨quantifier, criteria⟩ := branches
  refine map_bind_congr (map_mapM_congr Criterion.condition_blank criteria) fun cs cs' hcs => ?_
  cases cs with
  | nil =>
    obtain rfl := List.map_eq_nil_iff.1 hcs.symm
    rfl
  | cons first rest =>
    -- both runs have made as many conditions, so neither stops here alone
    cases cs' with
    | nil => exact absurd hcs (by simp)
    | cons first' rest' =>
      change Except.ok _ = Except.ok _
      cases quantifier with
      | any => exact congrArg Except.ok (joinAll_congr .or hcs)
      | all => exact congrArg Except.ok (joinAll_congr .and hcs)
      | none => simp only [Condition.blank, grouped_blank, joinAll_congr .or hcs]

theorem Membership.subquery_blank (m : Membership) (c : Condition) :
    (m.subquery c).blank
      = ⟨m.sourceKey, m.source, m.correlation.toList.map Condition.blank ++ [c.blank]⟩ := by
  simp [subquery, Subquery.blank]

theorem Membership.predicate_blank (m : Membership) (r : Requirement) :
    (m.predicate r.blank).map Predicate.blank = (m.predicate r).map Predicate.blank := by
  unfold Membership.predicate
  rw [Requirement.branches_blank]
  generalize r.branches = branches
  obtain ⟨quantifier, criteria⟩ := branches
  refine map_bind_congr (map_mapM_congr Criterion.condition_blank criteria) fun cs cs' hcs => ?_
  cases cs with
  | nil =>
    obtain rfl := List.map_eq_nil_iff.1 hcs.symm
    rfl
  | cons first rest =>
    cases cs' with
    | nil => exact absurd hcs (by simp)
    | cons first' rest' =>
      change Except.ok _ = Except.ok _
      have hjoin := joinAll_congr .or hcs
      cases quantifier with
      | any => simp only [Predicate.blank, subquery_blank, hjoin]
      | none => simp only [Predicate.blank, subquery_blank, hjoin]
      | all =>
        have hmap : ∀ ds : List Condition, (ds.map m.subquery).map Subquery.blank
            = (ds.map Condition.blank).map fun c =>
              ⟨m.sourceKey, m.source, m.correlation.toList.map Condition.blank ++ [c]⟩ := by
          intro ds
          simp [subquery_blank]
        simp only [Predicate.blank, hmap, hcs]

/-! ## Reports -/

namespace Report

theorem map_holds_congr {cs cs' : List Condition}
    (h : cs.map Condition.blank = cs'.map Condition.blank) :
    (cs.map Predicate.holds).map Predicate.blank = (cs'.map Predicate.holds).map Predicate.blank := by
  have hmap : ∀ ds : List Condition, (ds.map Predicate.holds).map Predicate.blank
      = (ds.map Condition.blank).map Predicate.holds := by
    intro ds
    simp [Predicate.blank]
  rw [hmap, hmap, h]

theorem addressSums_congr (r : Report) (short : Option String) (name : String)
    {ps ps' : List Predicate} (h : ps.map Predicate.blank = ps'.map Predicate.blank) :
    (r.blank.addressSums short name ps).blank = (r.addressSums short name ps').blank := by
  simp only [addressSums, Select.blank, List.map_cons, h]
  rfl

/-- The tables of coverage, with and without the texts. -/
theorem coverageTables_blank (r : Report) :
    r.blank.coverageTables.map (List.map Definition.blank)
      = r.coverageTables.map (List.map Definition.blank) := by
  unfold coverageTables
  refine map_bind_congr (filterConditions_blank r.query.filters) fun fs fs' hfs => ?_
  have hpopulation := r.addressSums_congr none "total" (map_holds_congr hfs)
  have hquery : r.blank.query.requirement = r.query.requirement.map Requirement.blank := rfl
  rw [hquery]
  cases r.query.requirement with
  | none =>
    change Except.ok _ = Except.ok _
    simp only [List.map_cons, Definition.blank, Body.blank, hpopulation]
    rfl
  | some requirement =>
    refine map_bind_congr (coverageMembership.predicate_blank requirement) fun p p' hp => ?_
    refine map_bind_congr (filterConditions_blank r.query.filters) fun gs gs' hgs => ?_
    have hfilters : (p :: gs.map Predicate.holds).map Predicate.blank
        = (p' :: gs'.map Predicate.holds).map Predicate.blank := by
      rw [List.map_cons, List.map_cons, hp, map_holds_congr hgs]
    have hcoverage := r.addressSums_congr (some "a") "covered" hfilters
    -- the files and the columns of the answer do not look at the texts
    change Except.ok _ = Except.ok _
    simp only [List.map_cons, Definition.blank, Body.blank, hpopulation, hcoverage]
    rfl

/-- The end of a report leaves the tables before it as they are. -/
theorem ofResult_congr (r : Report) {tables tables' : List Definition}
    (h : tables.map Definition.blank = tables'.map Definition.blank) :
    (r.blank.ofResult tables).blank = (r.ofResult tables').blank := by
  have hend : r.blank.ofResult tables = r.ofResult tables := rfl
  rw [hend]
  unfold ofResult
  split
  · simp only [Statement.blank, List.map_append, h]
  · simp only [Statement.blank, h]

theorem pivot_blank (r : Report) :
    r.blank.pivot.map Statement.blank = r.pivot.map Statement.blank := by
  unfold pivot
  refine map_bind_congr r.coverageTables_blank fun tables tables' htables => ?_
  have hcounty : r.blank.byCounty = r.byCounty := rfl
  rw [hcounty]
  split
  · change Except.ok _ = Except.ok _
    simp only [Statement.blank, List.map_append, htables]
    rfl
  · change Except.ok _ = Except.ok _
    simp only [Statement.blank, htables]
    rfl

theorem matchingSubscriptions_blank (r : Report) :
    r.blank.matchingSubscriptions.map Scalar.blank
      = r.matchingSubscriptions.map Scalar.blank := by
  have hquery : r.blank.query.requirement = r.query.requirement.map Requirement.blank := rfl
  unfold matchingSubscriptions
  rw [hquery]
  cases r.query.requirement with
  | none => rfl
  | some requirement =>
    refine map_map_congr (Requirement.condition_blank requirement) fun c c' hc => ?_
    simp only [Scalar.blank, hc]

theorem subscription_blank (r : Report) :
    r.blank.subscription.map Statement.blank = r.subscription.map Statement.blank := by
  unfold subscription
  refine map_bind_congr r.matchingSubscriptions_blank fun covered covered' hcovered => ?_
  refine map_bind_congr (filterConditions_blank r.query.filters) fun fs fs' hfs => ?_
  refine congrArg Except.ok (r.ofResult_congr ?_)
  simp only [List.map_cons, List.map_append, Definition.blank, Body.blank, Select.blank, Item.blank,
    Item.named, Scalar.blank, hcovered, map_holds_congr hfs]
  rfl

/-- The statement of a report on single addresses, with and without the texts. -/
theorem statement_blank {r : Report} (h : r.strategy ≠ .historical) :
    r.blank.statement.map Statement.blank = r.statement.map Statement.blank := by
  have hstrategy : r.blank.strategy = r.strategy := rfl
  unfold statement
  rw [hstrategy]
  cases hcase : r.strategy with
  | historical => exact absurd hcase h
  | subscription => exact r.subscription_blank
  | pivot => exact r.pivot_blank
  | coverage => exact map_map_congr r.coverageTables_blank fun _ _ => r.ofResult_congr

end Report

/-! ## Queries -/

theorem Query.checkOwnership_blank (q : Query) : q.blank.checkOwnership = q.checkOwnership := by
  have hfilters : q.blank.filters = q.filters.map Filter.blank := rfl
  have hmetric : q.blank.metric = q.metric := rfl
  unfold Query.checkOwnership
  rw [hfilters, hmetric, List.filterMap_map]
  congr 1
  dsimp only
  congr 2
  funext f
  cases f <;> rfl

/-- Without a year before the data for single addresses, nothing is asked of the historical data. -/
theorem Resolved.historical_eq_false {r : Resolved} (h : ∀ y ∈ r.years, 2022 ≤ y) :
    r.historical = false := by
  have hfirst : Year.firstDetailed = 2022 := rfl
  simpa [Resolved.historical, Year.isHistorical, hfirst] using h

/-- The years of a query do not depend on its texts, nor does whether it has any. -/
theorem Query.resolve_blank {q : Query} {fallback : Option Int}
    (hrecent : ∀ years, Period.resolve q.period fallback = .ok years → ∀ y ∈ years, 2022 ≤ y) :
    q.blank.resolve fallback
      = (q.resolve fallback).map fun r => { r with query := r.query.blank } := by
  have hperiod : q.blank.period = q.period := rfl
  unfold Query.resolve
  rw [Query.checkOwnership_blank, hperiod]
  cases q.checkOwnership with
  | error e => rfl
  | ok _ =>
    cases hyears : Period.resolve q.period fallback with
    | error e => rfl
    | ok years =>
      -- the check of clauses, which does look at the texts, is not made for these years
      have hdetailed : ∀ q' : Query, (Resolved.mk q' years).historical = false :=
        fun q' => Resolved.historical_eq_false (hrecent years hyears)
      simp only [ok_bind, hdetailed]
      split <;> rfl

theorem Resolved.strategy_ne_historical {r : Resolved} (h : ∀ y ∈ r.years, 2022 ≤ y) :
    r.strategy ≠ .historical := by
  unfold Resolved.strategy
  rw [Resolved.historical_eq_false h, if_neg (by decide)]
  split
  · decide
  · split <;> decide

theorem Query.statement_blank {q : Query} {o : Options}
    (hrecent : ∀ years, Period.resolve q.period o.year = .ok years → ∀ y ∈ years, 2022 ≤ y) :
    (q.blank.statement o).map Statement.blank = (q.statement o).map Statement.blank := by
  rw [Query.statement, Query.statement, Query.resolve_blank hrecent]
  cases hresolve : q.resolve o.year with
  | error e => rfl
  | ok r =>
    obtain ⟨-, hyears, -⟩ := Query.resolve_eq_ok hresolve
    have hstrategy := Resolved.strategy_ne_historical (hrecent r.years hyears)
    exact Report.statement_blank (r := ⟨r, o.directory⟩) hstrategy

theorem Query.statement_readable {q : Query} {o : Options}
    (hpath : ∀ path ∈ o.dataPath, '\'' ∉ path.toList)
    (hrecent : ∀ years, Period.resolve q.period o.year = .ok years → ∀ y ∈ years, 2022 ≤ y)
    {s : Statement} (h : q.statement o = .ok s) : s.Readable := by
  obtain ⟨r, hresolve, -⟩ := bind_eq_ok_iff.1 h
  obtain ⟨-, hyears, -⟩ := Query.resolve_eq_ok hresolve
  have hstrategy := Resolved.strategy_ne_historical (hrecent r.years hyears)
  exact (Query.statement_holds hresolve hstrategy hpath h).readable

/-- **Texts do not change the structure of statements.** Two queries that agree but for the content of
the texts they compare fields with, asked of the data for single addresses, are rejected for the same
reason or answered by statements that become equal once the content of every literal is erased. -/
theorem Query.toSql_eraseLiterals {q₁ q₂ : Query} (hsame : q₁.blank = q₂.blank) {o : Options}
    (hpath : ∀ path ∈ o.dataPath, '\'' ∉ path.toList)
    (hrecent : ∀ years, Period.resolve q₁.period o.year = .ok years → ∀ y ∈ years, 2022 ≤ y) :
    (∃ e, q₁.toSql o = .error e ∧ q₂.toSql o = .error e) ∨
      ∃ t₁ t₂, q₁.toSql o = .ok t₁ ∧ q₂.toSql o = .ok t₂ ∧
        Sql.eraseLiterals t₁ = Sql.eraseLiterals t₂ := by
  have hperiod : q₁.period = q₂.period := by
    have hblank : q₁.blank.period = q₂.blank.period := by rw [hsame]
    exact hblank
  have hrecent' : ∀ years, Period.resolve q₂.period o.year = .ok years → ∀ y ∈ years, 2022 ≤ y := by
    rwa [← hperiod]
  -- each run agrees with the one run on the query without texts
  have hstatements : (q₁.statement o).map Statement.blank = (q₂.statement o).map Statement.blank := by
    rw [← Query.statement_blank hrecent, hsame, Query.statement_blank hrecent']
  unfold Query.toSql
  rcases error_or_ok_of_map_eq hstatements with ⟨e, h₁, h₂⟩ | ⟨s₁, s₂, h₁, h₂, hblank⟩
  · rw [h₁, h₂]
    exact .inl ⟨e, rfl, rfl⟩
  · have hreadable := Query.statement_readable hpath hrecent h₁
    have hreadable' := Query.statement_readable hpath hrecent' h₂
    rw [h₁, h₂]
    exact .inr ⟨s₁.text, s₂.text, rfl, rfl, Statement.eraseLiterals_text hreadable hreadable' hblank⟩

/-- Homes by county that none of two offers of a provider reaches, in a municipality of some name. -/
def Query.withoutProvider (provider municipality : String) : Query where
  requirement := some (.quantified .none [
    .join .and (.compare .provider .eq (.text provider) false)
      (.compare .download .ge (.number 100) false),
    .compare .technology .ne (.text provider) true])
  filters := [.compare .municipality .eq (.text municipality), .segment .rural]
  metric := .homes
  grouping := .county
  period := some (.years [2024, 2023])

/-- A name that tries to end its literal and a name over two lines change nothing but literals. -/
theorem Query.toSql_withoutProvider :
    Query.blank (.withoutProvider "Telenor" "Oslo")
        = Query.blank (.withoutProvider "x' OR '1' = '1" "a'\r\nUNION ALL\n") ∧
      ∃ t₁ t₂, Query.toSql (.withoutProvider "Telenor" "Oslo") {} = .ok t₁ ∧
        Query.toSql (.withoutProvider "x' OR '1' = '1" "a'\r\nUNION ALL\n") {} = .ok t₂ ∧
        Sql.eraseLiterals t₁ = Sql.eraseLiterals t₂ := by
  have hrecent : ∀ years, Period.resolve (Query.withoutProvider "Telenor" "Oslo").period none
      = .ok years → ∀ y ∈ years, 2022 ≤ y := by
    rintro years hyears
    obtain rfl := Except.ok.inj hyears
    decide
  have hsame : Query.blank (.withoutProvider "Telenor" "Oslo")
      = Query.blank (.withoutProvider "x' OR '1' = '1" "a'\r\nUNION ALL\n") := rfl
  rcases toSql_eraseLiterals hsame (o := {}) (by simp) hrecent with ⟨e, herror, -⟩ | htexts
  · exact absurd herror (by intro h; cases h)
  · exact ⟨hsame, htexts⟩

end Broadband
