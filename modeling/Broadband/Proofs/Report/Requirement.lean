import Broadband.Proofs.Checks
import Broadband.Proofs.Sql.Parentheses
import Broadband.Report.Requirement

/-!
# Comparisons of a query in its conditions

A criterion that compares a field with a text becomes a condition that compares the field's column
with a literal, and a technology becomes a comparison of the technology column. Here is said which
comparisons the conditions made from criteria, filters and requirements hold, with the texts as the
query has them and in the query's order, and that all names in them can be read.
-/

namespace Broadband

open Checks Sql

/-! ## The comparisons of a query -/

/-- The comparisons with texts in a criterion, from left to right. -/
def Criterion.compared (qualifier : Option String) : Criterion → List Compared
  | .technology t _ => [⟨(Column.mk qualifier technologyColumn).text, .eq, t.stored⟩]
  | .compare field op (.text s) _ => [⟨(Column.mk qualifier field.column).text, op, s⟩]
  | .compare _ _ (.number _) _ => []
  | .join _ left right => left.compared qualifier ++ right.compared qualifier
  | .not inner => inner.compared qualifier

/-- The comparison with a text that a filter is, if it is one. -/
def Filter.compared (qualifier : Option String) : Filter → List Compared
  | .compare field op (.text s) => [⟨(Column.mk qualifier field.column).text, op, s⟩]
  | _ => []

/-- The comparisons with texts in a requirement, branch by branch. -/
def Requirement.compared (qualifier : Option String) (r : Requirement) : List Compared :=
  r.branches.2.flatMap (Criterion.compared qualifier)

/-! ## Names that can be read -/

theorem Sql.Word.append {s t : String} (hs : Word s) (ht : Word t) : Word (s ++ t) := by
  refine ⟨hs.unmarked.append ht.unmarked, ?_, ?_⟩
  · intro h
    have hlist := congrArg String.toList h
    simp only [String.toList_append, String.toList_empty, List.append_eq_nil_iff] at hlist
    exact hs.ne_empty (String.toList_eq_nil_iff.1 hlist.1)
  · rw [String.toList_append]
    exact List.forall_mem_append.2 ⟨hs.gapless, ht.gapless⟩

/-- A qualifier that can be read, if there is one. -/
def Plain (qualifier : Option String) : Prop := ∀ q ∈ qualifier, Word q

theorem plain_none : Plain none := by
  simp [Plain]

theorem plain_some {q : String} (h : Word q) : Plain (some q) := by
  simpa [Plain] using h

theorem Sql.Column.readable_mk {qualifier : Option String} (hq : Plain qualifier) {name : String}
    (hname : Word name) : (Column.mk qualifier name).readable = true := by
  cases qualifier with
  | none => exact decide_eq_true hname
  | some q =>
    have hdot : Word "." := by decide
    exact decide_eq_true (((hq q rfl).append hdot).append hname)

theorem Field.word_column (f : Field) : Word f.column := by
  cases f <;> decide

/-! ## Conditions -/

variable {qualifier : Option String}

/-- A field compared with a value. -/
theorem Field.condition_compared (hq : Plain qualifier) {f : Field} {op : Comparison} {v : Value}
    {c : Condition} (h : f.condition op v qualifier = .ok c) :
    c.readable = true ∧ c.compared = Filter.compared qualifier (.compare f op v) := by
  obtain ⟨l, hl, rfl⟩ := map_eq_ok_iff.1 h
  refine ⟨by simp [Condition.readable, Operand.readable, Column.readable_mk hq f.word_column], ?_⟩
  cases v with
  | text s =>
    obtain rfl := Except.ok.inj hl
    rfl
  | number n =>
    -- a number stays a number, also in another unit
    have hnumber : ∃ m, l = .number m := by
      unfold Field.literal at hl
      split at hl
      · rename_i heq
        cases heq
      · split at hl
        · obtain ⟨m, -, rfl⟩ := map_eq_ok_iff.1 hl
          exact ⟨m, rfl⟩
        · exact ⟨_, (Except.ok.inj hl).symm⟩
    obtain ⟨m, rfl⟩ := hnumber
    rfl

theorem negateIf_compared (negated : Bool) (c : Condition) :
    (negateIf negated c).readable = c.readable ∧ (negateIf negated c).compared = c.compared := by
  cases negated <;> exact ⟨rfl, rfl⟩

/-- The condition of a criterion holds the comparisons of the criterion. -/
theorem Criterion.condition_compared (hq : Plain qualifier) {c : Criterion} {cond : Condition}
    (h : c.condition qualifier = .ok cond) :
    cond.readable = true ∧ cond.compared = c.compared qualifier := by
  induction c generalizing cond with
  | technology t negated =>
    obtain rfl := Except.ok.inj h
    obtain ⟨hreadable, hcompared⟩ := negateIf_compared negated
      (.compare ⟨qualifier, technologyColumn⟩ .eq (.literal (.text t.stored)))
    have hcolumn : Word technologyColumn := by decide
    refine ⟨?_, hcompared⟩
    rw [hreadable]
    simp [Condition.readable, Operand.readable, Column.readable_mk hq hcolumn]
  | compare field op value negated =>
    obtain ⟨inner, hinner, rfl⟩ := map_eq_ok_iff.1 h
    obtain ⟨hreadable, hcompared⟩ := negateIf_compared negated inner
    obtain ⟨hreadable', hcompared'⟩ := Field.condition_compared hq hinner
    refine ⟨hreadable.trans hreadable', hcompared.trans (hcompared'.trans ?_)⟩
    cases value <;> rfl
  | join op left right ihl ihr =>
    obtain ⟨l, hl, hrest⟩ := bind_eq_ok_iff.1 h
    obtain ⟨r, hr, hcond⟩ := bind_eq_ok_iff.1 hrest
    obtain rfl := pure_eq_ok_iff.1 hcond
    obtain ⟨hlr, hlc⟩ := ihl hl
    obtain ⟨hrr, hrc⟩ := ihr hr
    exact ⟨by simp [Condition.readable, hlr, hrr],
      by simp [Condition.compared, Criterion.compared, hlc, hrc]⟩
  | not inner ih =>
    obtain ⟨c, hc, hcond⟩ := bind_eq_ok_iff.1 h
    obtain rfl := pure_eq_ok_iff.1 hcond
    obtain ⟨hreadable, hcompared⟩ := ih hc
    exact ⟨hreadable, hcompared⟩

theorem Filter.condition_compared (hq : Plain qualifier) {f : Filter} {cond : Condition}
    (h : f.condition qualifier = .ok cond) :
    cond.readable = true ∧ cond.compared = f.compared qualifier := by
  cases f with
  | segment s =>
    obtain rfl := Except.ok.inj h
    have hurban : (Column.mk qualifier "ertett").readable = true :=
      Column.readable_mk hq (by decide)
    have hprivate : (Column.mk qualifier "privat").readable = true :=
      Column.readable_mk hq (by decide)
    cases s <;>
      exact ⟨by simp [Segment.condition, Condition.readable, Operand.readable, hurban, hprivate],
        rfl⟩
  | compare field op value => exact Field.condition_compared hq h

/-- The conditions of the filters hold the comparisons of the filters. -/
theorem filterConditions_compared (hq : Plain qualifier) {fs : List Filter} {conds : List Condition}
    (h : filterConditions fs qualifier = .ok conds) :
    (∀ c ∈ conds, c.readable = true) ∧
      conds.flatMap Condition.compared = fs.flatMap (Filter.compared qualifier) :=
  flatMap_of_mapM (fun _ _ hf => Filter.condition_compared hq hf) h

/-- Conditions joined from the left hold the comparisons of all of them. -/
theorem joinAll_compared (op : Connective) {first : Condition} {rest : List Condition}
    (h : ∀ c ∈ first :: rest, c.readable = true) :
    (Condition.joinAll op first rest).readable = true ∧
      (Condition.joinAll op first rest).compared = (first :: rest).flatMap Condition.compared := by
  -- the fold has the conditions that it has passed in its accumulator
  have hfold : ∀ (cs : List Condition) (c : Condition), (∀ d ∈ c :: cs, d.readable = true) →
      (cs.foldl (.join op) c).readable = true ∧
        (cs.foldl (.join op) c).compared = (c :: cs).flatMap Condition.compared := by
    intro cs
    induction cs with
    | nil => intro c hc; simpa using hc
    | cons d ds ih =>
      intro c hc
      simp only [List.forall_mem_cons] at hc
      have hjoin := ih (.join op c d) (by simpa [Condition.readable, hc.1, hc.2.1] using hc.2.2)
      simpa [Condition.compared] using hjoin
  cases rest with
  | nil => simpa [Condition.joinAll] using h
  | cons d ds => exact hfold (d :: ds) first h

theorem grouped_compared (c : Condition) :
    c.grouped.readable = c.readable ∧ c.grouped.compared = c.compared := by
  cases c <;> exact ⟨rfl, rfl⟩

/-- The conditions of several criteria hold the comparisons of the criteria. -/
theorem criteria_compared (hq : Plain qualifier) {cs : List Criterion} {conds : List Condition}
    (h : cs.mapM (Criterion.condition qualifier) = .ok conds) :
    (∀ c ∈ conds, c.readable = true) ∧
      conds.flatMap Condition.compared = cs.flatMap (Criterion.compared qualifier) :=
  flatMap_of_mapM (fun _ _ hc => Criterion.condition_compared hq hc) h

/-! ## Requirements -/

/-- A requirement on a row holds the comparisons of the requirement. -/
theorem Requirement.condition_compared (hq : Plain qualifier) {r : Requirement} {cond : Condition}
    (h : r.condition qualifier = .ok cond) :
    cond.readable = true ∧ cond.compared = r.compared qualifier := by
  unfold Requirement.condition at h
  rw [Requirement.compared]
  generalize r.branches = branches at h ⊢
  obtain ⟨quantifier, criteria⟩ := branches
  obtain ⟨conds, hconds, hcond⟩ := bind_eq_ok_iff.1 h
  obtain ⟨hreadable, hcompared⟩ := criteria_compared hq hconds
  cases conds with
  | nil => exact absurd hcond throw_ne_ok
  | cons first rest =>
    obtain rfl := pure_eq_ok_iff.1 hcond
    rw [← hcompared]
    cases quantifier with
    | any => exact joinAll_compared .or hreadable
    | all => exact joinAll_compared .and hreadable
    | none =>
      obtain ⟨hgroup, hgroup'⟩ := grouped_compared (.joinAll .or first rest)
      obtain ⟨hjoin, hjoin'⟩ := joinAll_compared .or hreadable
      exact ⟨hgroup.trans hjoin, hgroup'.trans hjoin'⟩

/-- No criterion becomes two conditions side by side. -/
theorem Criterion.solid_condition {c : Criterion} {cond : Condition}
    (h : c.condition qualifier = .ok cond) : cond.solid = true := by
  cases c with
  | technology t negated =>
    obtain rfl := Except.ok.inj h
    cases negated <;> rfl
  | compare field op value negated =>
    obtain ⟨inner, hinner, rfl⟩ := map_eq_ok_iff.1 h
    obtain ⟨l, -, rfl⟩ := map_eq_ok_iff.1 hinner
    cases negated <;> rfl
  | join op left right =>
    obtain ⟨l, -, hrest⟩ := bind_eq_ok_iff.1 h
    obtain ⟨r, -, hcond⟩ := bind_eq_ok_iff.1 hrest
    obtain rfl := pure_eq_ok_iff.1 hcond
    rfl
  | not inner =>
    obtain ⟨c, -, hcond⟩ := bind_eq_ok_iff.1 h
    obtain rfl := pure_eq_ok_iff.1 hcond
    rfl

/-- `NONE` denies the disjunction of its branches, whose text gets parentheses unless it has some at
both ends. -/
theorem Requirement.text_condition_none (hq : Plain qualifier) {cs : List Criterion}
    {cond : Condition} (h : (Requirement.quantified .none cs).condition qualifier = .ok cond) :
    ∃ first rest, cs.mapM (Criterion.condition qualifier) = .ok (first :: rest) ∧
      cond.text = "NOT " ++ Condition.parenthesized (Condition.joinAll .or first rest).text := by
  obtain ⟨conds, hconds, hcond⟩ := bind_eq_ok_iff.1 h
  cases conds with
  | nil => exact absurd hcond throw_ne_ok
  | cons first rest =>
    obtain rfl := pure_eq_ok_iff.1 hcond
    have hreadable := (joinAll_compared .or (criteria_compared hq hconds).1).1
    have hsolid : first.solid = true := by
      cases cs with
      | nil => cases hconds
      | cons c cs =>
        rw [List.mapM_cons] at hconds
        obtain ⟨d, hd, hrest⟩ := bind_eq_ok_iff.1 hconds
        obtain ⟨ds, -, hcons⟩ := bind_eq_ok_iff.1 hrest
        obtain ⟨rfl, rfl⟩ := List.cons.inj (pure_eq_ok_iff.1 hcons)
        exact Criterion.solid_condition hd
    refine ⟨first, rest, hconds, ?_⟩
    rw [← Condition.text_grouped hreadable (Condition.solid_joinAll .or hsolid)]
    rfl

/-- The names of a membership can be read, and nothing in it is compared with a text. -/
structure Membership.Readable (m : Membership) : Prop where
  key : m.key.readable = true
  source : Unmarked m.source.text
  sourceKey : m.sourceKey.readable = true
  correlation : ∀ c ∈ m.correlation, c.readable = true ∧ c.compared = []

theorem Membership.subquery_compared {m : Membership} (h : m.Readable) {c : Condition}
    (hc : c.readable = true) :
    (m.subquery c).readable = true ∧ (m.subquery c).compared = c.compared := by
  have hcorrelation := h.correlation
  simp only [Membership.subquery, Subquery.readable, Subquery.compared, h.sourceKey, h.source]
  cases hm : m.correlation with
  | none => simp [hc]
  | some d => simp [hc, hcorrelation d (by rw [hm]; rfl)]

/-- Subqueries for several conditions hold the comparisons of the conditions. -/
theorem Membership.subqueries_compared {m : Membership} (h : m.Readable) {cs : List Condition}
    (hcs : ∀ c ∈ cs, c.readable = true) :
    (∀ s ∈ cs.map m.subquery, s.readable = true) ∧
      (cs.map m.subquery).flatMap Subquery.compared = cs.flatMap Condition.compared := by
  rw [List.forall_mem_map, List.flatMap_map, List.flatMap_def, List.flatMap_def]
  exact ⟨fun c hc => (subquery_compared h (hcs c hc)).1,
    congrArg List.flatten (List.map_congr_left fun c hc => (subquery_compared h (hcs c hc)).2)⟩

/-- A requirement on an address holds the comparisons of the requirement. -/
theorem Membership.predicate_compared {m : Membership} (hm : m.Readable) {r : Requirement}
    {p : Predicate} (h : m.predicate r = .ok p) :
    p.readable = true ∧ p.compared = r.compared none := by
  unfold Membership.predicate at h
  rw [Requirement.compared]
  generalize r.branches = branches at h ⊢
  obtain ⟨quantifier, criteria⟩ := branches
  obtain ⟨conds, hconds, hp⟩ := bind_eq_ok_iff.1 h
  obtain ⟨hreadable, hcompared⟩ := criteria_compared plain_none hconds
  cases conds with
  | nil => exact absurd hp throw_ne_ok
  | cons first rest =>
    obtain rfl := pure_eq_ok_iff.1 hp
    rw [← hcompared]
    -- `ANY` and `NONE` ask one subquery for all conditions, `ALL` one for each
    obtain ⟨hjoin, hjoin'⟩ := joinAll_compared .or hreadable
    obtain ⟨hsub, hsub'⟩ := subquery_compared hm hjoin
    cases quantifier with
    | any => exact ⟨by simp [Predicate.readable, hm.key, hsub], hsub'.trans hjoin'⟩
    | none => exact ⟨by simp [Predicate.readable, hm.key, hsub], hsub'.trans hjoin'⟩
    | all =>
      obtain ⟨hall, hall'⟩ := subqueries_compared hm hreadable
      exact ⟨by simpa [Predicate.readable, hm.key] using hall, hall'⟩

end Broadband
