import Broadband.Proofs.Report.Comparisons

/-!
# Texts of a query in the statement

Every text that a query compares a field with stands in the statement as a literal, behind the column
and the operator, once for each place where the comparison is made. All of these places lie in named
tables, which are laid out on lines of their own and moved to the right. A line break inside a literal
is moved along, so the literal is the text itself exactly if the text has no line feed.
-/

namespace Broadband

open Checks Sql

/-! ## The texts of a query -/

/-- The text that a value is, if it is one. -/
def Value.texts : Value → List String
  | .text s => [s]
  | .number _ => []

/-- The texts that a criterion compares fields with. -/
def Criterion.texts : Criterion → List String
  | .technology _ _ => []
  | .compare _ _ value _ => value.texts
  | .join _ left right => left.texts ++ right.texts
  | .not inner => inner.texts

/-- The texts that a requirement compares fields with. -/
def Requirement.texts (r : Requirement) : List String := r.branches.2.flatMap Criterion.texts

/-- The text that a filter compares a field with, if it does. -/
def Filter.texts : Filter → List String
  | .segment _ => []
  | .compare _ _ value => value.texts

/-- The texts that a query compares fields with. -/
def Query.texts (q : Query) : List String :=
  q.requirement.toList.flatMap Requirement.texts ++ q.filters.flatMap Filter.texts

section

-- the comparisons of a query are with its texts and with the stored names of technologies
variable {P : String → Prop} (hstored : ∀ t : Technology, P t.stored) {qualifier : Option String}

include hstored in
theorem Criterion.forall_compared (c : Criterion) :
    (∀ x ∈ c.compared qualifier, P x.value) ↔ ∀ s ∈ c.texts, P s := by
  induction c with
  | technology t negated => simp [compared, texts, hstored t]
  | compare field op value negated => cases value <;> simp [compared, texts, Value.texts]
  | join op left right ihl ihr =>
    rw [compared, texts, List.forall_mem_append, List.forall_mem_append, ihl, ihr]
  | not inner ih => exact ih

theorem forall_mem_flatMap {α β : Type} {f : α → List β} {g : α → List String} {value : β → String}
    (h : ∀ a, (∀ x ∈ f a, P (value x)) ↔ ∀ s ∈ g a, P s) (as : List α) :
    (∀ x ∈ as.flatMap f, P (value x)) ↔ ∀ s ∈ as.flatMap g, P s := by
  simp only [List.forall_mem_flatMap, h]

include hstored in
theorem Requirement.forall_compared (r : Requirement) :
    (∀ x ∈ r.compared qualifier, P x.value) ↔ ∀ s ∈ r.texts, P s :=
  forall_mem_flatMap (Criterion.forall_compared hstored) _

theorem Filter.forall_compared (f : Filter) :
    (∀ x ∈ f.compared qualifier, P x.value) ↔ ∀ s ∈ f.texts, P s := by
  cases f with
  | segment s => simp [compared, texts]
  | compare field op value => cases value <;> simp [compared, texts, Value.texts]

include hstored in
/-- What holds of the names of technologies holds of all that is compared exactly if it holds of the
texts of the query. -/
theorem Query.forall_compared (q : Query) :
    (∀ x ∈ q.compared, P x.value) ↔ ∀ s ∈ q.texts, P s := by
  have hfilters : ∀ qualifier, (∀ x ∈ q.filtersCompared qualifier, P x.value) ↔
      ∀ s ∈ q.filters.flatMap Filter.texts, P s :=
    fun qualifier => forall_mem_flatMap Filter.forall_compared _
  rw [Query.compared, Query.subscriptionCompared, Query.coverageCompared, Query.texts]
  cases q.requirement with
  | none => split <;> simp [hfilters]
  | some r =>
    have hrequirement : ∀ qualifier, (∀ x ∈ r.compared qualifier, P x.value) ↔ ∀ s ∈ r.texts, P s :=
      fun qualifier => r.forall_compared hstored
    simp only [Option.toList_some, List.flatMap_cons, List.flatMap_nil, List.append_nil]
    split
    · simp only [List.forall_mem_append, hrequirement, hfilters, and_self]
    · simp only [List.forall_mem_append, hrequirement, hfilters]
      exact ⟨fun h => h.2, fun h => ⟨h.2, h⟩⟩

end

/-! ## The places in the statement -/

theorem Technology.notMem_stored (t : Technology) : '\n' ∉ t.stored.toList := by
  cases t <;> decide

/-- **Where the texts of a query stand in its statement.** In the text of the statement that answers a
query from the data for single addresses, the columns that are compared with literals are those of the
comparisons in the query, place by place; the literals hold the texts with their lines moved to the
right. They hold the texts themselves exactly if no text of the query has a line feed. -/
theorem Query.comparisons_toSql {q : Query} {o : Options} {r : Resolved}
    (hresolve : q.resolve o.year = .ok r) (hstrategy : r.strategy ≠ .historical)
    (hpath : ∀ path ∈ o.dataPath, '\'' ∉ path.toList) {sql : String} (h : q.toSql o = .ok sql) :
    Sql.comparisons sql = q.compared.map Compared.shifted ++ q.closing ∧
      (Sql.comparisons sql = q.compared ++ q.closing ↔ ∀ s ∈ q.texts, '\n' ∉ s.toList) := by
  obtain ⟨s, hs, rfl⟩ := map_eq_ok_iff.1 h
  obtain ⟨hreadable, hcompared⟩ := Query.statement_holds hresolve hstrategy hpath hs
  rw [Statement.comparisons_text hreadable, hcompared]
  refine ⟨rfl, ?_⟩
  rw [List.append_left_inj, Sql.map_shifted_eq_self_iff]
  exact q.forall_compared (P := fun s => '\n' ∉ s.toList) Technology.notMem_stored

/-- Subscriptions with a provider whose name has a quote, in a municipality whose name is given over
two lines. -/
def Query.nameOverTwoLines : Query where
  requirement := some (.single (.compare .provider .eq (.text "O'Brien") false))
  filters := [.compare .municipality .ne (.text "a\nb")]
  metric := .subscriptions
  grouping := .county
  period := some (.years [2024])

/-- The quote is read back, the second line has moved to the right. -/
theorem Query.comparisons_nameOverTwoLines :
    ∃ sql, Query.nameOverTwoLines.toSql {} = .ok sql ∧
      Sql.comparisons sql = [⟨"s.tilb", .eq, "O'Brien"⟩, ⟨"s.tilb", .eq, "O'Brien"⟩,
        ⟨"s.komnavn", .ne, "a\n  b"⟩, ⟨"gruppe", .eq, "Norge"⟩] ∧
      Sql.comparisons sql ≠ Query.nameOverTwoLines.compared ++ Query.nameOverTwoLines.closing := by
  obtain ⟨sql, hsql⟩ : ∃ sql, Query.nameOverTwoLines.toSql {} = .ok sql := ⟨_, rfl⟩
  have hresolve : Query.nameOverTwoLines.resolve none = .ok ⟨Query.nameOverTwoLines, [2024]⟩ := rfl
  obtain ⟨hplaces, hexact⟩ :=
    comparisons_toSql (o := {}) hresolve (by decide) (by simp) hsql
  refine ⟨sql, hsql, hplaces.trans (by decide +kernel), fun h => ?_⟩
  exact absurd (hexact.1 h "a\nb" (by decide)) (by decide)

end Broadband
