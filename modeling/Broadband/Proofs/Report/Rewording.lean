import Broadband.Proofs.Historical.Shares
import Broadband.Proofs.Query.Years
import Broadband.Proofs.Report.Tables

/-!
# Requirements in other words

A statement looks at the requirement of its query in four places. Two of them concern shares of earlier
years: the check of the leaves and the indicators. The other two concern single addresses and
subscriptions: the condition on a row and the predicate on an address. So two requirements that agree in
these places get the same answer, be it a text or a rejection, whatever the rest of the query says
(`Query.toSql_requiring_congr`); if only the first two agree, that is enough for earlier years.

A criterion can deny a leaf in two ways: the leaf carries its negation itself, or a `not` stands around it.
Every place has its own rule for each of the two. `Criterion.spellNegations` changes the first way into the
second throughout, and it is shown place by place that nothing else changes.
-/

namespace Broadband

open Checks Sql

/-! ## Statements and their requirements -/

/-- The query with another requirement. -/
def Query.requiring (q : Query) (requirement : Requirement) : Query :=
  { q with requirement := some requirement }

/-- The same shares are asked for, or the same is wrong with asking for them. -/
structure Requirement.SameShares (x y : Requirement) : Prop where
  check : x.checkHistorical = y.checkHistorical
  indicators : x.indicators = y.indicators

/-- The same is asked of a subscription and of an address. -/
structure Requirement.SameConditions (x y : Requirement) : Prop where
  condition : ∀ qualifier, x.condition qualifier = y.condition qualifier
  predicate : ∀ m : Membership, m.predicate x = m.predicate y

theorem Query.checkHistorical_requiring (q : Query) {x y : Requirement}
    (h : x.checkHistorical = y.checkHistorical) :
    (q.requiring x).checkHistorical = (q.requiring y).checkHistorical := by
  unfold Query.checkHistorical
  dsimp only [Query.requiring]
  rw [h]
  rfl

namespace Report

/-- A report on the query with another requirement. -/
def requiring (r : Report) (requirement : Requirement) : Report :=
  { r with query := r.query.requiring requirement }

/-- The requirement comes into the tables of coverage as a predicate on addresses. -/
theorem coverageTables_requiring (r : Report) (x : Requirement) :
    (r.requiring x).coverageTables = (do
      let filters ← filterConditions r.query.filters none
      let covered ← coverageMembership.predicate x
      let filters' ← filterConditions r.query.filters (some "a")
      return r.coveredTables filters covered filters') := rfl

/-- The requirement comes into a report of subscriptions as a condition on rows. -/
theorem subscription_requiring (r : Report) (x : Requirement) :
    (r.requiring x).subscription = (do
      let c ← x.condition (some "s")
      let filters ← filterConditions r.query.filters (some "s")
      return r.ofResult (r.subscriptionTables ++
        [⟨"result", .select (r.countedSubscriptions (countIf c) filters)⟩])) := by
  change (x.condition (some "s")).map countIf >>= _ = _
  cases x.condition (some "s") with
  | error e => rfl
  | ok c => rfl

/-- The requirement comes into a report of shares as indicators. -/
theorem historical_requiring (r : Report) (x : Requirement) :
    (r.requiring x).historical = (do
      match ← x.indicators with
      | [] => throw .emptyRequirement
      | first :: rest => return r.historicalShares first rest) := rfl

/-- Shares of earlier years. -/
theorem statement_requiring_of_early {r : Report} (hearly : r.toResolved.historical = true)
    {x y : Requirement} (h : x.SameShares y) : (r.requiring x).statement = (r.requiring y).statement := by
  have hstrategy : ∀ z, (r.requiring z).strategy = .historical := by
    intro z
    rw [Resolved.strategy]
    exact if_pos hearly
  rw [statement, statement, hstrategy, hstrategy]
  dsimp only
  rw [historical_requiring, historical_requiring, h.indicators]

/-- Reports of every kind. -/
theorem statement_requiring (r : Report) {x y : Requirement} (hshares : x.SameShares y)
    (hconditions : x.SameConditions y) : (r.requiring x).statement = (r.requiring y).statement := by
  have hstrategy : (r.requiring x).strategy = (r.requiring y).strategy := rfl
  have htables : (r.requiring x).coverageTables = (r.requiring y).coverageTables := by
    rw [coverageTables_requiring, coverageTables_requiring, hconditions.predicate]
  rw [statement, statement, hstrategy]
  cases (r.requiring y).strategy with
  | historical =>
    dsimp only
    rw [historical_requiring, historical_requiring, hshares.indicators]
  | subscription =>
    dsimp only
    rw [subscription_requiring, subscription_requiring, hconditions.condition]
  | pivot =>
    dsimp only
    rw [pivot, pivot, htables]
    rfl
  | coverage =>
    dsimp only
    rw [coverage, coverage, htables]
    rfl

theorem checkedStatement_requiring {r : Report} {x y : Requirement}
    (hcheck : x.checkHistorical = y.checkHistorical)
    (h : (r.requiring x).statement = (r.requiring y).statement) :
    (r.requiring x).checkedStatement = (r.requiring y).checkedStatement := by
  have hquery : (r.requiring x).query.checkHistorical = (r.requiring y).query.checkHistorical :=
    r.query.checkHistorical_requiring hcheck
  rw [checkedStatement, checkedStatement, hquery, h]
  rfl

end Report

/-- The way to the statement of a query with another requirement. -/
theorem Query.statement_requiring (q : Query) (o : Options) (x : Requirement) :
    (q.requiring x).statement o
      = q.checkOwnership >>= fun _ => Period.resolve q.period o.year >>= fun years =>
        (Report.requiring ⟨⟨q, years⟩, o.directory⟩ x).checkedStatement :=
  (q.requiring x).statement_eq o

/-- Requirements that agree wherever a statement looks at them get the same answer. -/
theorem Query.toSql_requiring_congr (q : Query) (o : Options) {x y : Requirement}
    (hshares : x.SameShares y) (hconditions : x.SameConditions y) :
    (q.requiring x).toSql o = (q.requiring y).toSql o := by
  have hchecked : ∀ r : Report, (r.requiring x).checkedStatement = (r.requiring y).checkedStatement :=
    fun r => Report.checkedStatement_requiring hshares.check (r.statement_requiring hshares hconditions)
  rw [Query.toSql, Query.toSql, Query.statement_requiring, Query.statement_requiring]
  simp only [hchecked]

/-! ## Two ways to deny a leaf -/

/-- The criterion with a `not` around every leaf that carries its negation itself. -/
def Criterion.spellNegations : Criterion → Criterion
  | .technology t true => .not (.technology t false)
  | .technology t false => .technology t false
  | .compare field op value true => .not (.compare field op value false)
  | .compare field op value false => .compare field op value false
  | .join op left right => .join op left.spellNegations right.spellNegations
  | .not inner => .not inner.spellNegations

/-- The requirement with its negations spelled out. -/
def Requirement.spellNegations : Requirement → Requirement
  | .single c => .single c.spellNegations
  | .quantified q cs => .quantified q (cs.map Criterion.spellNegations)

/-- The query with the negations of its requirement spelled out. -/
def Query.spellNegations (q : Query) : Query :=
  { q with requirement := q.requirement.map Requirement.spellNegations }

/-- No leaf carries its negation itself. -/
def Criterion.plainLeaves : Criterion → Bool
  | .technology _ negated => !negated
  | .compare _ _ _ negated => !negated
  | .join _ left right => left.plainLeaves && right.plainLeaves
  | .not inner => inner.plainLeaves

namespace Criterion

theorem plainLeaves_spellNegations (c : Criterion) : c.spellNegations.plainLeaves = true := by
  induction c with
  | technology t negated => cases negated <;> rfl
  | compare field op value negated => cases negated <;> rfl
  | join op left right ihl ihr => rw [spellNegations, plainLeaves, ihl, ihr]; rfl
  | not inner ih => exact ih

theorem condition_spellNegations (c : Criterion) (qualifier : Option String) :
    c.spellNegations.condition qualifier = c.condition qualifier := by
  induction c with
  | technology t negated => cases negated <;> rfl
  | compare field op value negated =>
    cases negated with
    | false => rfl
    | true =>
      -- a leaf that has no condition is refused before it is denied
      change (field.condition op value qualifier).map (negateIf false) >>= _
        = (field.condition op value qualifier).map (negateIf true)
      cases field.condition op value qualifier <;> rfl
  | join op left right ihl ihr => rw [spellNegations, condition, condition, ihl, ihr]
  | not inner ih => rw [spellNegations, condition, condition, ih]

/-! ### Shares -/

theorem checkHistorical_spellNegations (c : Criterion) :
    c.spellNegations.checkHistorical = c.checkHistorical := by
  induction c with
  | technology t negated => cases negated <;> rfl
  | compare field op value negated => cases negated <;> rfl
  | join op left right ihl ihr => rw [spellNegations, checkHistorical, checkHistorical, ihl, ihr]
  | not inner ih => exact ih

/-- A threshold is not denied in either way. -/
theorem threshold?_spellNegations (c : Criterion) : c.spellNegations.threshold? = c.threshold? := by
  cases c with
  | technology t negated => cases negated <;> rfl
  | compare field op value negated =>
    cases negated with
    | false => rfl
    | true => cases op <;> cases value <;> rfl
  | join op left right => rfl
  | not inner => rfl

theorem indicator_spellNegations (c : Criterion) : c.spellNegations.indicator = c.indicator := by
  cases c with
  | technology t negated => cases negated <;> rfl
  | compare field op value negated =>
    cases negated with
    | false => rfl
    | true => cases field <;> cases value <;> rfl
  | join op left right =>
    cases op with
    | and => simp only [spellNegations, indicator, threshold?_spellNegations]
    | or => rfl
  | not inner => rfl

theorem alternatives_spellNegations (c : Criterion) :
    c.spellNegations.alternatives = c.alternatives.map spellNegations := by
  induction c with
  | technology t negated => cases negated <;> rfl
  | compare field op value negated => cases negated <;> rfl
  | join op left right ihl ihr =>
    cases op with
    | and => rfl
    | or => rw [spellNegations, alternatives, ihl, ihr, alternatives, List.map_append]
  | not inner => rfl

end Criterion

/-- A program on the elements of a list that does not see the change made to them. -/
theorem mapM_map_of_eq {ε α β : Type} {f : α → Except ε β} {change : α → α}
    (h : ∀ x, f (change x) = f x) (xs : List α) : (xs.map change).mapM f = xs.mapM f := by
  rw [List.mapM_map]
  exact congrArg xs.mapM (funext h)

theorem indicatorsOf_spellNegations (cs : List Criterion) :
    indicatorsOf (cs.map Criterion.spellNegations) = indicatorsOf cs := by
  have halternatives : (cs.map Criterion.spellNegations).flatMap Criterion.alternatives
      = (cs.flatMap Criterion.alternatives).map Criterion.spellNegations := by
    rw [List.flatMap_map, List.map_flatMap]
    simp only [Criterion.alternatives_spellNegations]
  rw [indicatorsOf, indicatorsOf, halternatives, mapM_map_of_eq Criterion.indicator_spellNegations]

namespace Requirement

theorem branches_spellNegations (x : Requirement) :
    x.spellNegations.branches = (x.branches.1, x.branches.2.map Criterion.spellNegations) := by
  cases x <;> rfl

theorem checkHistorical_spellNegations (x : Requirement) :
    x.spellNegations.checkHistorical = x.checkHistorical := by
  cases x with
  | single c => exact c.checkHistorical_spellNegations
  | quantified q cs =>
    change (cs.map Criterion.spellNegations).forM Criterion.checkHistorical
      = cs.forM Criterion.checkHistorical
    induction cs with
    | nil => rfl
    | cons c cs ih =>
      change (c.spellNegations.checkHistorical >>= fun _ =>
        (cs.map Criterion.spellNegations).forM Criterion.checkHistorical) = _
      rw [c.checkHistorical_spellNegations, ih]
      rfl

theorem indicators_spellNegations (x : Requirement) : x.spellNegations.indicators = x.indicators := by
  cases x with
  | single c => exact indicatorsOf_spellNegations [c]
  | quantified q cs =>
    cases cs with
    | nil => rfl
    | cons c cs =>
      cases q with
      | any => exact indicatorsOf_spellNegations (c :: cs)
      | all =>
        cases cs with
        | nil => exact indicatorsOf_spellNegations [c]
        | cons d ds => rfl
      | none => rfl

/-! ### Single addresses and subscriptions -/

theorem mapM_condition_spellNegations (x : Requirement) (qualifier : Option String) :
    x.spellNegations.branches.2.mapM (Criterion.condition qualifier)
      = x.branches.2.mapM (Criterion.condition qualifier) := by
  rw [branches_spellNegations]
  exact mapM_map_of_eq (fun c => c.condition_spellNegations qualifier) _

theorem quantifier_spellNegations (x : Requirement) : x.spellNegations.branches.1 = x.branches.1 := by
  rw [branches_spellNegations]

theorem condition_spellNegations (x : Requirement) (qualifier : Option String) :
    x.spellNegations.condition qualifier = x.condition qualifier := by
  have hconditions := x.mapM_condition_spellNegations qualifier
  have hquantifier := x.quantifier_spellNegations
  unfold condition
  dsimp only
  rw [hconditions, hquantifier]

end Requirement

theorem Membership.predicate_spellNegations (m : Membership) (x : Requirement) :
    m.predicate x.spellNegations = m.predicate x := by
  have hconditions := x.mapM_condition_spellNegations none
  have hquantifier := x.quantifier_spellNegations
  unfold Membership.predicate
  dsimp only
  rw [hconditions, hquantifier]

/-- **The two ways to deny a leaf agree.** Whether a leaf carries its negation itself or a `not` stands
around it makes no difference anywhere: to the condition of a criterion or of a requirement, whatever the
qualifier, to the predicate on an address, wherever its coverage is found, and to the answer to a query,
which is the same text or the same rejection for shares, subscriptions, and coverage with one row for each
year or with the years side by side. -/
theorem Query.toSql_spellNegations :
    (∀ (q : Query) (o : Options), q.spellNegations.toSql o = q.toSql o) ∧
      (∀ (c : Criterion) (qualifier : Option String),
        c.spellNegations.plainLeaves = true ∧
          c.spellNegations.condition qualifier = c.condition qualifier) ∧
      (∀ (x : Requirement) (qualifier : Option String),
        x.spellNegations.condition qualifier = x.condition qualifier) ∧
      ∀ (m : Membership) (x : Requirement), m.predicate x.spellNegations = m.predicate x := by
  refine ⟨?_, fun c qualifier => ⟨c.plainLeaves_spellNegations, c.condition_spellNegations qualifier⟩,
    Requirement.condition_spellNegations, Membership.predicate_spellNegations⟩
  intro q o
  cases hrequirement : q.requirement with
  | none =>
    have hsame : q.spellNegations = q := by
      rw [Query.spellNegations, hrequirement, Option.map_none, ← hrequirement]
    rw [hsame]
  | some x =>
    have hafter : q.spellNegations = q.requiring x.spellNegations := by
      rw [Query.spellNegations, hrequirement]
      rfl
    have hbefore : q = q.requiring x := by
      rw [Query.requiring, ← hrequirement]
    have hshares : x.spellNegations.SameShares x :=
      ⟨x.checkHistorical_spellNegations, x.indicators_spellNegations⟩
    have hconditions : x.spellNegations.SameConditions x :=
      ⟨x.condition_spellNegations, fun m => m.predicate_spellNegations x⟩
    calc q.spellNegations.toSql o
        = (q.requiring x.spellNegations).toSql o := by rw [hafter]
      _ = (q.requiring x).toSql o := q.toSql_requiring_congr o hshares hconditions
      _ = q.toSql o := by rw [← hbefore]

end Broadband
