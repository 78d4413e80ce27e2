import Broadband.Proofs.Report.Files
import Broadband.Proofs.Report.Meaning
import Broadband.Proofs.Report.Rewording
import Broadband.Proofs.Sql.Parentheses

/-!
# Any of several criteria

That a row should meet any of several criteria can be said by `ANY`, or by a criterion that joins them by
`OR`, two at a time and in any association. The two are taken in different ways. For shares both come
down to the same list of alternatives, so the answers are the same (`Criterion.Disjoins.sameShares`). For
single addresses and subscriptions `ANY` joins its branches in one go and `OR` by pairs; with one branch
or two there is only one way to do so, and with more of them the conditions differ in parentheses, all of
which but the outermost pair can be left out (`Criterion.Disjoins.rebracketed`).

The rest of a statement is the same for both. `Report.putsAround` says what a statement makes of a
requirement of this kind: it is a frame in which the condition is put once, or twice where subscriptions
are counted.
-/

namespace Broadband

open Checks Sql

/-- The criterion joins the others by `OR`, in their order and in some association. -/
inductive Criterion.Disjoins : Criterion → List Criterion → Prop
  | one (c : Criterion) : Disjoins c [c]
  | or {l r : Criterion} {ls rs : List Criterion} (left : Disjoins l ls) (right : Disjoins r rs) :
      Disjoins (.join .or l r) (ls ++ rs)

/-- Any of the criteria will do. -/
def Requirement.anyOf (criteria : List Criterion) : Requirement := .quantified .any criteria

namespace Criterion.Disjoins

variable {e : Criterion} {es : List Criterion}

theorem ne_nil (h : e.Disjoins es) : es ≠ [] := by
  induction h with
  | one c => simp
  | or left right ihl ihr => simp [ihl]

/-! ## Shares -/

/-- The leaves are checked from left to right by both, so the same one is found at fault. -/
theorem forM_checkHistorical (h : e.Disjoins es) :
    es.forM checkHistorical = e.checkHistorical := by
  induction h with
  | one c =>
    change (c.checkHistorical >>= fun _ => pure PUnit.unit) = _
    cases c.checkHistorical <;> rfl
  | or left right ihl ihr =>
    rw [List.forM_eq_forM] at ihl ihr ⊢
    rw [List.forM_append, ihl, ihr]
    rfl

theorem flatMap_alternatives (h : e.Disjoins es) : es.flatMap alternatives = e.alternatives := by
  induction h with
  | one c => rw [List.flatMap_singleton]
  | or left right ihl ihr => rw [List.flatMap_append, ihl, ihr, alternatives]

theorem sameShares (h : e.Disjoins es) : (Requirement.anyOf es).SameShares (.single e) := by
  refine ⟨h.forM_checkHistorical, ?_⟩
  have hany : (Requirement.anyOf es).indicators = indicatorsOf es := by
    obtain ⟨c, cs, rfl⟩ := List.exists_cons_of_ne_nil h.ne_nil
    rfl
  have hsingle : (Requirement.single e).indicators = indicatorsOf [e] := rfl
  rw [hany, hsingle, indicatorsOf, indicatorsOf, h.flatMap_alternatives, List.flatMap_singleton]

/-! ## Conditions -/

/-- The criteria are put as conditions from left to right by both: the same one has none, or every one of
them has the same on both sides. -/
theorem condition (h : e.Disjoins es) (qualifier : Option String) :
    (∃ err, es.mapM (Criterion.condition qualifier) = .error err ∧
        e.condition qualifier = .error err) ∨
      ∃ cs d, es.mapM (Criterion.condition qualifier) = .ok cs ∧
        e.condition qualifier = .ok d ∧ Condition.Bracketed cs d := by
  induction h with
  | one c =>
    rw [List.mapM_cons, List.mapM_nil]
    cases hc : c.condition qualifier with
    | error err => exact .inl ⟨err, rfl, rfl⟩
    | ok d => exact .inr ⟨[d], d, rfl, rfl, .one d⟩
  | or left right ihl ihr =>
    rw [List.mapM_append, Criterion.condition]
    rcases ihl with ⟨err, hls, hl⟩ | ⟨cs, c, hls, hl, hleft⟩
    · rw [hls, hl]
      exact .inl ⟨err, rfl, rfl⟩
    · rw [hls, hl, ok_bind, ok_bind]
      rcases ihr with ⟨err, hrs, hr⟩ | ⟨ds, d, hrs, hr, hright⟩
      · rw [hrs, hr]
        exact .inl ⟨err, rfl, rfl⟩
      · rw [hrs, hr]
        exact .inr ⟨cs ++ ds, _, rfl, rfl, .or hleft hright⟩

end Criterion.Disjoins

namespace Requirement

/-- Any branch of the requirement will do. -/
def TakesAny (x : Requirement) : Prop := x.branches.1 = .any

theorem takesAny_anyOf (es : List Criterion) : (anyOf es).TakesAny := rfl

theorem takesAny_single (e : Criterion) : (single e).TakesAny := rfl

/-- A requirement of which any branch will do asks for a row that meets its condition. -/
theorem TakesAny.predicate {x : Requirement} (hx : x.TakesAny) (m : Membership) :
    m.predicate x = (x.condition none).map fun c => .within m.key (m.subquery c) := by
  unfold Membership.predicate Requirement.condition
  dsimp only
  rw [show x.branches.1 = .any from hx]
  cases x.branches.2.mapM (Criterion.condition none) with
  | error e => rfl
  | ok cs =>
    cases cs with
    | nil => rfl
    | cons first rest => rfl

theorem condition_anyOf {es : List Criterion} {qualifier : Option String} {c : Condition}
    {cs : List Condition} (h : es.mapM (Criterion.condition qualifier) = .ok (c :: cs)) :
    (anyOf es).condition qualifier = .ok (.joinAll .or c cs) := by
  change es.mapM (Criterion.condition qualifier) >>= _ = _
  rw [h]
  rfl

theorem condition_anyOf_error {es : List Criterion} {qualifier : Option String} {err : Rejection}
    (h : es.mapM (Criterion.condition qualifier) = .error err) :
    (anyOf es).condition qualifier = .error err := by
  change es.mapM (Criterion.condition qualifier) >>= _ = _
  rw [h]
  rfl

theorem condition_single (e : Criterion) (qualifier : Option String) :
    (single e).condition qualifier = e.condition qualifier := by
  change [e].mapM (Criterion.condition qualifier) >>= _ = _
  rw [List.mapM_cons, List.mapM_nil]
  cases e.condition qualifier <;> rfl

end Requirement

namespace Criterion.Disjoins

variable {e : Criterion} {es : List Criterion}

/-- The conditions of both forms: neither has one and for the same reason, or both are made of the same
conditions. -/
theorem condition_anyOf (h : e.Disjoins es) (qualifier : Option String) :
    (∃ err, (Requirement.anyOf es).condition qualifier = .error err ∧
        (Requirement.single e).condition qualifier = .error err) ∨
      ∃ c cs d, es.mapM (Criterion.condition qualifier) = .ok (c :: cs) ∧
        (Requirement.anyOf es).condition qualifier = .ok (.joinAll .or c cs) ∧
        (Requirement.single e).condition qualifier = .ok d ∧ Condition.Bracketed (c :: cs) d := by
  rw [Requirement.condition_single]
  rcases h.condition qualifier with ⟨err, hes, he⟩ | ⟨cs, d, hes, he, hd⟩
  · exact .inl ⟨err, Requirement.condition_anyOf_error hes, he⟩
  · obtain ⟨c, cs, rfl⟩ := List.exists_cons_of_ne_nil hd.ne_nil
    exact .inr ⟨c, cs, d, hes, Requirement.condition_anyOf hes, he, hd⟩

/-- With one criterion or two there is nothing to associate. -/
theorem sameConditions (h : e.Disjoins es) (hfew : es.length ≤ 2) :
    (Requirement.anyOf es).SameConditions (.single e) := by
  have hcondition : ∀ qualifier, (Requirement.anyOf es).condition qualifier
      = (Requirement.single e).condition qualifier := by
    intro qualifier
    rcases h.condition_anyOf qualifier with ⟨err, hany, hsingle⟩ | ⟨c, cs, d, hes, hany, hsingle, hd⟩
    · rw [hany, hsingle]
    · have hlength := (forall₂_of_mapM hes).length_eq
      rw [List.length_cons] at hlength
      rw [hany, hsingle, hd.eq_joinAll rfl (by omega)]
  refine ⟨hcondition, fun m => ?_⟩
  rw [(Requirement.takesAny_anyOf es).predicate, (Requirement.takesAny_single e).predicate, hcondition]

theorem holds_eq (h : e.Disjoins es) (qualifier : Option String) (v : Atom → Bool) :
    es.any (Criterion.holds qualifier v) = e.holds qualifier v := by
  induction h with
  | one c => rw [List.any_cons, List.any_nil, Bool.or_false]
  | or left right ihl ihr =>
    rw [List.any_append, ihl, ihr]
    rfl

end Criterion.Disjoins

/-- Two conditions that join the same alternatives, the second with parentheses around any two that it
joins. What is read is the same, so the further parentheses can be left out. -/
structure Sql.Condition.Rebracketed (alternatives : List Condition) (c d : Condition) : Prop where
  flat : c.text = "(" ++ " OR ".intercalate (alternatives.map Condition.text) ++ ")"
  nested : Bracketed alternatives d
  pairs : d.text.length = c.text.length + 2 * (alternatives.length - 2)
  redundant : ∃ f f', formula? c.text = some f ∧ formula? d.text = some f' ∧
    ∀ v, f.holds v = f'.holds v

theorem Criterion.Disjoins.rebracketed {e : Criterion} {es : List Criterion} (h : e.Disjoins es)
    {qualifier : Option String} (hq : Identifies qualifier) {c c' d : Condition} {cs : List Condition}
    (hes : es.mapM (Criterion.condition qualifier) = .ok (c :: c' :: cs))
    (hsingle : (Requirement.single e).condition qualifier = .ok d)
    (hd : Condition.Bracketed (c :: c' :: cs) d) :
    Condition.Rebracketed (c :: c' :: cs) (.joinAll .or c (c' :: cs)) d := by
  have hflat := Condition.text_joinAll .or c c' cs
  obtain ⟨f, hf, hholds⟩ := (Requirement.condition_means hq (Requirement.condition_anyOf hes)).formula?
  obtain ⟨f', hf', hholds'⟩ := (Requirement.condition_means hq hsingle).formula?
  refine ⟨hflat, hd, hd.length_text_joinAll, f, f', hf, hf', fun v => ?_⟩
  rw [hholds, hholds']
  exact h.holds_eq qualifier v

/-! ## Statements around a condition -/

/-- The table whose rows the condition of a requirement is about, where it is named. -/
def Query.requirementTable (q : Query) : Option String :=
  if q.metric = .subscriptions then some "s" else none

/-- How often the condition of a requirement stands in a statement. -/
def Query.requirementGaps (q : Query) : Nat := if q.metric = .subscriptions then 2 else 1

namespace Report

/-! ### The texts of the tables with the condition -/

/-- The condition stands at the end of a subquery. -/
theorem text_subquery (m : Membership) (c : Condition) :
    (m.subquery c).text = (m.subquery (.verbatim "")).text ++ c.text := by
  cases hcorrelation : m.correlation with
  | none => simp [Membership.subquery, Subquery.text, hcorrelation, Condition.text, String.append_assoc]
  | some d => simp [Membership.subquery, Subquery.text, hcorrelation, Condition.text, String.append_assoc]

/-- The sums over covered addresses have the condition in one of their filters. -/
theorem addressSums_framed (r : Report) (m : Membership) (short : Option String) (name : String)
    (filters : List Predicate) :
    ∃ f, Framed 1 f ∧ ∀ c : Condition,
      (Body.select (r.addressSums short name (.within m.key (m.subquery c) :: filters))).text
        = f c.text := by
  -- only the `WHERE` looks at filters
  obtain ⟨front, hfront⟩ : ∃ front, ∀ ps, (r.addressSums short name ps).front Source.text = front :=
    ⟨(r.addressSums short name []).front Source.text, fun _ => rfl⟩
  obtain ⟨back, hback⟩ : ∃ back, ∀ ps, (r.addressSums short name ps).back = back :=
    ⟨(r.addressSums short name []).back, fun _ => rfl⟩
  refine ⟨_, framed_one (front ++ "\nWHERE " ++ (r.yearCondition short).text ++ " AND " ++ m.key.text ++
      " IN (" ++ (m.subquery (.verbatim "")).text)
    (" AND ".intercalate (")" :: filters.map Predicate.text) ++ back), fun c => ?_⟩
  have hfilters : (r.addressSums short name (.within m.key (m.subquery c) :: filters)).filters
      = .holds (r.yearCondition short) :: .within m.key (m.subquery c) :: filters := rfl
  rw [Body.text, Select.text_eq _ _ (by rw [hfilters]; simp), hfront, hback, hfilters, List.map_cons,
    List.map_cons, Predicate.text, Predicate.text, text_subquery m c]
  simp [String.append_assoc]

theorem exists_text_countIf :
    ∃ before after, ∀ c : Condition, (countIf c).text = before ++ c.text ++ after := by
  refine ⟨"SUM(CASE WHEN ", " THEN 1 ELSE 0 END)", fun c => ?_⟩
  change "SUM(" ++ ("CASE WHEN " ++ c.text ++ " THEN " ++ "1" ++ " ELSE " ++ "0" ++ " END") ++ ")" = _
  apply String.toList_injective
  simp

/-- The text of a `SELECT` with columns, of which only the first line looks at them. -/
theorem exists_text_columns {Source : Type} (sourceText : Source → String) (s : Select Source) :
    ∃ rest, ∀ columns, columns ≠ [] → Select.text sourceText { s with columns }
      = "SELECT " ++ ", ".intercalate (columns.map Item.text) ++ rest := by
  refine ⟨"\nFROM " ++ sourceText s.source ++ String.join ((s.joins.map Join.text).map ("\n" ++ ·)) ++
    clauseLine "WHERE" " AND " (s.filters.map Predicate.text) ++ s.back, fun columns hne => ?_⟩
  have hcolumns : ¬ (columns.map Item.text).isEmpty = true := by simpa using hne
  rw [Select.text, Clauses.text, if_neg hcolumns, Select.back]
  simp only [String.append_assoc]

/-- The count of subscriptions has the condition in the covered number and in the percentage. -/
theorem countedSubscriptions_framed (r : Report) (filters : List Condition) :
    ∃ f, Framed 2 f ∧ ∀ c : Condition,
      (Body.select (r.countedSubscriptions (countIf c) filters)).text = f c.text := by
  let labels : List Item :=
    .named r.subscriptionGroup "gruppe" :: r.ifMultiYear (.same (subscriptionColumn "aar"))
  obtain ⟨before, after, hcovered⟩ := exists_text_countIf
  obtain ⟨rest, hrest⟩ := exists_text_columns Source.text (r.countedSubscriptions .countRows filters)
  refine ⟨_, framed_two ("SELECT " ++ ", ".intercalate (labels.map Item.text) ++ ", " ++ before)
    (after ++ " AS " ++ "covered" ++ ", " ++ "COUNT(*)" ++ " AS " ++ "total" ++ ", " ++ "ROUND(100.0 * " ++
      before)
    (after ++ " / " ++ "COUNT(*)" ++ ", 1)" ++ " AS " ++ "percent" ++ rest), fun c => ?_⟩
  have hcolumns : (r.countedSubscriptions (countIf c) filters).columns.map Item.text
      = labels.map Item.text ++ [(countIf c).text ++ " AS " ++ "covered", "COUNT(*)" ++ " AS " ++ "total",
        "ROUND(100.0 * " ++ (countIf c).text ++ " / " ++ "COUNT(*)" ++ ", 1)" ++ " AS " ++ "percent"] := by
    rw [countedSubscriptions, ← List.cons_append, List.map_append]
    rfl
  have htext := hrest (r.countedSubscriptions (countIf c) filters).columns (List.cons_ne_nil _ _)
  rw [hcolumns, String.intercalate_append_of_ne_nil (by simp [labels]) (by simp), hcovered] at htext
  refine Eq.trans htext ?_
  simp only [String.intercalate_cons_cons, String.intercalate_singleton, String.append_assoc]

/-- A statement in which the body of one table is a frame around the condition. -/
theorem exists_text_framed {gaps : Nat} {f : String → String} (hf : Framed (gaps + 1) f)
    {body : Condition → Body} (hbody : ∀ c, (body c).text = f c.text) (name : String)
    (tables tables' : List Definition) (main : Select Source) :
    ∃ g, Framed (gaps + 1) g ∧ ∀ c : Condition, Enclosed c.text →
      Statement.text ⟨tables ++ ⟨name, body c⟩ :: tables', main⟩ = g (laidOut c.text) := by
  obtain ⟨g, hg, htext⟩ := hf.withTables (tables.map fun d => (d.name, d.body.text))
    (tables'.map fun d => (d.name, d.body.text)) name (main.text Source.text)
  refine ⟨g, hg, fun c hc => ?_⟩
  rw [← htext c.text hc, ← hbody, Statement.text, List.map_append, List.map_cons]

/-- What becomes of a requirement of which any branch will do: the report is rejected before it looks at
the requirement, or behind it, or else its statement is a frame around the condition. -/
inductive PutsAround (r : Report) (qualifier : Option String) (gaps : Nat) : Prop
  | before (err : Rejection)
      (hstatement : ∀ x : Requirement, x.TakesAny → (r.requiring x).statement = .error err)
  | behind (err : Rejection)
      (hstatement : ∀ x : Requirement, x.TakesAny →
        (r.requiring x).statement = x.condition qualifier >>= fun _ => .error err)
  | around (k : Condition → Statement) (g : String → String)
      (hstatement : ∀ x : Requirement, x.TakesAny →
        (r.requiring x).statement = (x.condition qualifier).map k)
      (hframed : Framed gaps g)
      (htext : ∀ c : Condition, Enclosed c.text → (k c).text = g (laidOut c.text))

/-- Subscriptions are tested by the condition itself, which is looked at before the filters. -/
theorem subscription_putsAround {r : Report} (hlate : ¬ r.toResolved.historical = true)
    (hmetric : r.query.metric = .subscriptions) : r.PutsAround (some "s") 2 := by
  have hstatement : ∀ x, (r.requiring x).statement = (r.requiring x).subscription :=
    fun x => statement_of_subscriptions (r := r.requiring x) hlate hmetric
  cases hfilters : filterConditions r.query.filters (some "s") with
  | error err =>
    refine .behind err fun x _ => ?_
    rw [hstatement, subscription_requiring, hfilters]
    rfl
  | ok filters =>
    obtain ⟨f, hf, hbody⟩ := r.countedSubscriptions_framed filters
    obtain ⟨g, hg, htext⟩ := exists_text_framed hf hbody "result" r.subscriptionTables
      (r.ofResult []).tables (r.ofResult []).main
    refine .around _ g (fun x _ => ?_) hg htext
    rw [hstatement, subscription_requiring, hfilters]
    cases x.condition (some "s") with
    | error err => rfl
    | ok c =>
      refine congrArg Except.ok ?_
      rw [ofResult_eq, List.append_assoc]
      rfl

/-- Addresses are tested by a subquery with the condition, which is looked at between the filters of the
population and those of its covered part. -/
theorem coverage_putsAround {r : Report} (hlate : ¬ r.toResolved.historical = true)
    (hmetric : r.query.metric ≠ .subscriptions) : r.PutsAround none 1 := by
  have hstatement : ∀ x, (r.requiring x).statement = (r.requiring x).coverageTables.map fun tables =>
      ⟨tables ++ r.coverageEnd.tables, r.coverageEnd.main⟩ :=
    fun x => statement_of_coverage (r := r.requiring x) hlate hmetric
  cases hfilters : filterConditions r.query.filters none with
  | error err =>
    refine .before err fun x _ => ?_
    rw [hstatement, coverageTables_requiring, hfilters]
    rfl
  | ok filters =>
    cases hfilters' : filterConditions r.query.filters (some "a") with
    | error err =>
      refine .behind err fun x hx => ?_
      rw [hstatement, coverageTables_requiring, hfilters, hx.predicate, hfilters']
      cases x.condition none <;> rfl
    | ok filters' =>
      obtain ⟨f, hf, hbody⟩ := r.addressSums_framed coverageMembership (some "a") "covered"
        (filters'.map .holds)
      obtain ⟨g, hg, htext⟩ := exists_text_framed hf hbody "coverage"
        [⟨"adr", r.files [.addresses]⟩, ⟨"dekning", r.files [.fixedCoverage, .mobileCoverage]⟩,
         ⟨"population", .select (r.addressSums none "total" (filters.map .holds))⟩]
        (⟨"result", .select (r.coverageResult
          (.coalesce [.column ⟨some "c", "covered"⟩, .literal (.number 0)]) [r.coverageJoin])⟩ ::
          r.coverageEnd.tables) r.coverageEnd.main
      refine .around _ g (fun x hx => ?_) hg htext
      rw [hstatement, coverageTables_requiring, hfilters, hx.predicate, hfilters']
      cases x.condition none <;> rfl

theorem putsAround {r : Report} (hlate : ¬ r.toResolved.historical = true) :
    r.PutsAround r.query.requirementTable r.query.requirementGaps := by
  rw [Query.requirementTable, Query.requirementGaps]
  by_cases hmetric : r.query.metric = .subscriptions
  · rw [if_pos hmetric, if_pos hmetric]
    exact subscription_putsAround hlate hmetric
  · rw [if_neg hmetric, if_neg hmetric]
    exact coverage_putsAround hlate hmetric

end Report

/-! ## The main statement -/

theorem Query.identifies_requirementTable (q : Query) : Identifies q.requirementTable := by
  rw [Query.requirementTable]
  split
  · intro name hname
    obtain rfl := Option.some.inj hname
    decide
  · intro name hname
    cases hname

/-- The answers to the two forms of a query: both are rejections and the same, or they are texts that
differ where the condition stands, and there in further parentheses only. -/
def Query.SameButParentheses (q : Query) (es : List Criterion) (e : Criterion)
    (any or : Except Rejection String) : Prop :=
  (∃ err, any = .error err ∧ or = .error err) ∨
    ∃ cs c d g, es.mapM (Criterion.condition q.requirementTable) = .ok cs ∧
      (Requirement.anyOf es).condition q.requirementTable = .ok c ∧
      (Requirement.single e).condition q.requirementTable = .ok d ∧
      Condition.Rebracketed cs c d ∧ Framed q.requirementGaps g ∧
      any = .ok (g (laidOut c.text)) ∧ or = .ok (g (laidOut d.text))

theorem Report.checkedStatement_late {r : Report} (hlate : ¬ r.toResolved.historical = true) :
    r.checkedStatement = if r.years.isEmpty then .error .noYear else r.statement := by
  rw [checkedStatement, if_neg hlate]
  split <;> rfl

/-- A report on single rows. -/
theorem Report.statement_anyOf {r : Report} (hlate : ¬ r.toResolved.historical = true) {e : Criterion}
    {es : List Criterion} (h : e.Disjoins es) (hmany : 2 < es.length) :
    r.query.SameButParentheses es e ((r.requiring (.anyOf es)).statement.map Statement.text)
      ((r.requiring (.single e)).statement.map Statement.text) := by
  have hany := Requirement.takesAny_anyOf es
  have hsingle := Requirement.takesAny_single e
  have hconditions := h.condition_anyOf r.query.requirementTable
  cases r.putsAround hlate with
  | before err hstatement =>
    rw [hstatement _ hany, hstatement _ hsingle]
    exact .inl ⟨err, rfl, rfl⟩
  | behind err hstatement =>
    rw [hstatement _ hany, hstatement _ hsingle]
    rcases hconditions with ⟨err', hc, hd⟩ | ⟨c, cs, d, -, hc, hd, -⟩
    · rw [hc, hd]
      exact .inl ⟨err', rfl, rfl⟩
    · rw [hc, hd]
      exact .inl ⟨err, rfl, rfl⟩
  | around k g hstatement hframed htext =>
    rw [hstatement _ hany, hstatement _ hsingle]
    rcases hconditions with ⟨err, hc, hd⟩ | ⟨c, cs, d, hes, hc, hd, hbracketed⟩
    · rw [hc, hd]
      exact .inl ⟨err, rfl, rfl⟩
    · have hlength := (forall₂_of_mapM hes).length_eq
      rw [List.length_cons] at hlength
      obtain ⟨c', cs, rfl⟩ := List.exists_cons_of_length_pos (show 0 < cs.length by omega)
      have hrebracketed := h.rebracketed r.query.identifies_requirementTable hes hd hbracketed
      have hflat := htext _ ⟨_, hrebracketed.flat⟩
      have hnested := htext d (hbracketed.enclosed (by simp))
      refine .inr ⟨c :: c' :: cs, _, d, g, hes, hc, hd, hrebracketed, hframed, ?_, ?_⟩
      · rw [hc, ← hflat]
        rfl
      · rw [hd, ← hnested]
        rfl

/-- **`ANY` and `OR` agree.** Take several criteria and one that joins them by `OR`, in their order and in
any association. For shares of earlier years, and whenever the criteria are one or two, a query that asks
for any of them has the same answer as the query that asks for the one, be it a text or a rejection. For
three or more of them and years with single rows, both are rejected for the same reason, or the two texts
are the same but for the condition of the requirement: the one joins the alternatives with a single pair
of parentheses around them all, the other with a pair around every two that it joins, and both are read
as formulas that are true of the same rows. -/
theorem Query.toSql_anyOf (q : Query) (o : Options) {e : Criterion} {es : List Criterion}
    (h : e.Disjoins es) :
    ((∃ years, Period.resolve q.period o.year = .ok years ∧ ∃ y ∈ years, y < 2022) ∨ es.length ≤ 2 →
      (q.requiring (.anyOf es)).toSql o = (q.requiring (.single e)).toSql o) ∧
    (¬ (∃ years, Period.resolve q.period o.year = .ok years ∧ ∃ y ∈ years, y < 2022) → 2 < es.length →
      q.SameButParentheses es e ((q.requiring (.anyOf es)).toSql o)
        ((q.requiring (.single e)).toSql o)) := by
  constructor
  · rintro (⟨years, hyears, hearly⟩ | hfew)
    · have hhistorical : (Resolved.mk q years).historical = true := (Report.historical_iff _).2 hearly
      have hsame : (Report.requiring ⟨⟨q, years⟩, o.directory⟩ (.anyOf es)).checkedStatement
          = (Report.requiring ⟨⟨q, years⟩, o.directory⟩ (.single e)).checkedStatement :=
        Report.checkedStatement_requiring h.sameShares.check
          (Report.statement_requiring_of_early hhistorical h.sameShares)
      rw [Query.toSql, Query.toSql, Query.statement_requiring, Query.statement_requiring, hyears, ok_bind,
        ok_bind, hsame]
    · exact q.toSql_requiring_congr o h.sameShares (h.sameConditions hfew)
  · intro hlate hmany
    rw [Query.toSql, Query.toSql, Query.statement_requiring, Query.statement_requiring]
    cases q.checkOwnership with
    | error err => exact .inl ⟨err, rfl, rfl⟩
    | ok _ =>
      cases hyears : Period.resolve q.period o.year with
      | error err => exact .inl ⟨err, rfl, rfl⟩
      | ok years =>
        have hhistorical : ¬ (Resolved.mk q years).historical = true := by
          rw [Report.historical_iff]
          exact fun hearly => hlate ⟨years, hyears, hearly⟩
        have hchecked : ∀ x, (Report.requiring ⟨⟨q, years⟩, o.directory⟩ x).checkedStatement
            = if years.isEmpty then .error .noYear
              else (Report.requiring ⟨⟨q, years⟩, o.directory⟩ x).statement :=
          fun x => Report.checkedStatement_late hhistorical
        rw [ok_bind, ok_bind, ok_bind, ok_bind, hchecked, hchecked]
        by_cases hempty : years.isEmpty = true
        · rw [if_pos hempty, if_pos hempty]
          exact .inl ⟨.noYear, rfl, rfl⟩
        · rw [if_neg hempty, if_neg hempty]
          exact Report.statement_anyOf hhistorical h hmany

/-- Fibre and two speeds. -/
def Criterion.fibreAndSpeeds : List Criterion :=
  [.technology .fiber false, .compare .download .ge (.number 100) false,
   .compare .download .ge (.number 500) false]

/-- Fibre or one of the speeds, joined from the right. -/
def Criterion.fibreOrFast : Criterion :=
  .join .or (.technology .fiber false)
    (.join .or (.compare .download .ge (.number 100) false) (.compare .download .ge (.number 500) false))

/-- Shares of an earlier year, where the texts are the same, and addresses of a later one, where the second
text has one more pair of parentheses. -/
theorem Query.toSql_anyOf_fibreOrFast :
    Criterion.fibreOrFast.Disjoins Criterion.fibreAndSpeeds ∧
      (Query.requiring { metric := .homes } (.anyOf Criterion.fibreAndSpeeds)).toSql { year := some 2015 }
        = (Query.requiring { metric := .homes } (.single .fibreOrFast)).toSql { year := some 2015 } ∧
      ∃ c d : Condition, ∃ g, Framed 1 g ∧
        c.text = "(tek = 'fiber' OR ned >= 100000 OR ned >= 500000)" ∧
        d.text = "(tek = 'fiber' OR (ned >= 100000 OR ned >= 500000))" ∧
        (Query.requiring { metric := .homes } (.anyOf Criterion.fibreAndSpeeds)).toSql { year := some 2024 }
          = .ok (g (laidOut c.text)) ∧
        (Query.requiring { metric := .homes } (.single .fibreOrFast)).toSql { year := some 2024 }
          = .ok (g (laidOut d.text)) := by
  have h : Criterion.fibreOrFast.Disjoins Criterion.fibreAndSpeeds :=
    .or (.one (.technology .fiber false)) (.or (.one _) (.one _))
  refine ⟨h, ?_, ?_⟩
  · exact (toSql_anyOf { metric := .homes } { year := some 2015 } h).1
      (.inl ⟨[2015], rfl, 2015, by decide, by decide⟩)
  · have hlate : ¬ ∃ years, Period.resolve none (some 2024) = .ok years ∧ ∃ y ∈ years, y < 2022 := by
      rintro ⟨years, hyears, y, hy, hearly⟩
      obtain rfl := Except.ok.inj hyears
      obtain rfl := List.mem_singleton.1 hy
      exact absurd hearly (by decide)
    rcases (toSql_anyOf { metric := .homes } { year := some 2024 } h).2 hlate (by decide) with
      ⟨err, hany, -⟩ | ⟨cs, c, d, g, -, hc, hd, -, hframed, hany, hsingle⟩
    · cases hany
    · obtain rfl := Except.ok.inj hc
      obtain rfl := Except.ok.inj hd
      exact ⟨_, _, g, hframed, by decide +kernel, by decide +kernel, hany, hsingle⟩

end Broadband
