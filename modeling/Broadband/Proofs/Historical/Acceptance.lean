import Broadband.Compile
import Broadband.Proofs.Historical.Shares
import Broadband.Proofs.Sql.Rendering

/-!
# Which queries about earlier years are answered, and how

A query that touches a year before the detailed data is answered from shares or not at all. The main
statement is `Query.toSql_historical`: it is answered exactly if every clause is one that shares can
answer, and the text of the answer is then known in full. Of the requirement nothing gets into the
text but the pairs of the shares that it chooses among, and those come from a closed list, so they
can stand between quotes as they are.
-/

namespace Broadband

open Checks

/-! ## Queries that shares can answer -/

/-- The query asks for shares, with the shares from left to right. -/
structure Query.AsksFor (q : Query) (ps : List (String × String)) : Prop where
  grouping : q.grouping = .national ∨ q.grouping = .urban
  metric : q.metric ≠ .subscriptions
  filters : ∀ f ∈ q.filters, f = .segment .urban ∨ f = .segment .rural
  figures : q.figures ≠ .count
  sorting : q.sorting.key ≠ .count
  requirement : ∃ r, q.requirement = some r ∧ r.Chooses ps

/-! ## The text of a report of shares -/

namespace Shares

/-- The text that picks the rows of one share, its pair put between quotes as it is. -/
def predicate (p : String × String) : String :=
  "(indikatortype = '" ++ p.1 ++ "' AND indikator = '" ++ p.2 ++ "')"

/-- The text that picks the rows of one of several shares. -/
def choice : List (String × String) → String
  | [p] => predicate p
  | ps => "(" ++ " OR ".intercalate (ps.map predicate) ++ ")"

/-- The text that picks the rows in which a column has one of some values. -/
def among (column : String) : List String → String
  | [value] => column ++ " = " ++ value
  | values => column ++ " IN (" ++ ", ".intercalate values ++ ")"

/-- A list of columns: the first, then the year and the indicator where there are several of
them. -/
def columns (years : List Int) (pairs : List (String × String)) (first order : String) : String :=
  first ++ (if 1 < years.length then ", aar" ++ order else "") ++
    (if 1 < pairs.length then ", indikator" ++ order else "")

/-- The text of a report of shares. What it takes from a query are years, areas, pairs, a column to
sort by with its direction, and a number of rows. -/
def text (years : List Int) (dataPath : String) (areas : List String)
    (pairs : List (String × String)) (sortColumn direction : String) (limit : Option Nat) :
    String :=
  "WITH hist AS (\n" ++
    Text.indent ("\nUNION ALL\n".intercalate (years.map fun year =>
      "SELECT *, " ++ toString year ++ " AS aar FROM '" ++ dataPath ++ "/" ++ toString year ++
        "/dekning.parquet'")) ++
    ")\n" ++
    "SELECT " ++ columns years pairs "geo AS gruppe" "" ++
    ", ROUND(100.0 * AVG(dekning), 1) AS percent" ++
    "\nFROM hist" ++
    "\nWHERE " ++ among "aar" (years.map toString) ++
    " AND " ++ among "geo" (areas.map fun area => "'" ++ area ++ "'") ++
    " AND " ++ choice pairs ++
    "\nGROUP BY " ++ columns years pairs "geo" "" ++
    "\nORDER BY " ++ columns years pairs (sortColumn ++ " " ++ direction) " ASC" ++
    (limit.elim "" fun n => "\nLIMIT " ++ toString n)

end Shares

/-! ## The report has this text -/

theorem Indicator.text_condition {i : Indicator} (h : i ∈ known) :
    i.condition.text = Shares.predicate i.pair := by
  obtain ⟨hkind, hvalue⟩ := quoted_of_mem_known i h
  apply String.toList_inj.1
  delta Shares.predicate
  simp [condition, Sql.Condition.text, Sql.Column.text, Sql.Operand.text, Sql.Literal.render, hkind,
    hvalue, Comparison.symbol, Connective.keyword]

/-- The text of a choice among known indicators. -/
theorem Indicator.text_joinAll {i : Indicator} {is : List Indicator}
    (h : ∀ j ∈ i :: is, j ∈ known) :
    (Sql.Condition.joinAll .or i.condition (is.map condition)).text
      = Shares.choice ((i :: is).map pair) := by
  have htext : ∀ js : List Indicator, (∀ j ∈ js, j ∈ known) →
      (js.map condition).map Sql.Condition.text = (js.map pair).map Shares.predicate := by
    intro js hjs
    simpa using fun j hj => text_condition (hjs j hj)
  cases is with
  | nil => exact text_condition (h i (by simp))
  | cons j js =>
    have hall := htext (i :: j :: js) h
    rw [Sql.Condition.joinAll, if_neg (by simp), Sql.Condition.text, Sql.Condition.text_foldl_join]
    rw [← List.map_cons, ← List.map_cons, hall]
    rfl

/-- A column that has one of some values, however many they are. -/
theorem Shares.text_oneOf {α : Type} (column : Sql.Column) (f : α → Sql.Literal) (xs : List α) :
    (match xs with
      | [x] => Sql.Condition.compare column .eq (.literal (f x))
      | xs => .oneOf column (xs.map f)).text
        = among column.text (xs.map fun x => (f x).render) := by
  apply String.toList_inj.1
  rcases xs with _ | ⟨x, _ | ⟨y, xs⟩⟩ <;>
    simp [Sql.Condition.text, Sql.Operand.text, Comparison.symbol, among, Function.comp_def]

theorem Report.text_yearCondition (r : Report) (qualifier : Option String) :
    (r.yearCondition qualifier).text
      = Shares.among (Sql.Column.mk qualifier "aar").text (r.years.map toString) := by
  have h := Shares.text_oneOf ⟨qualifier, "aar"⟩ .number r.years
  unfold Report.yearCondition
  generalize r.years = years at h ⊢
  rcases years with _ | ⟨y, _ | ⟨z, years⟩⟩ <;> exact h

/-- The areas are three labels without quotes. -/
theorem Report.quoted_of_mem_areas {q : Query} {area : String} (h : area ∈ areas q) :
    Text.quoted area = "'" ++ area ++ "'" := by
  have hlabel : area = urbanLabel ∨ area = ruralLabel ∨ area = nationalLabel := by
    unfold areas at h
    split at h
    · split at h <;> simp at h
      · rcases h with h | h <;> simp [h]
      · simp [h]
    · -- otherwise the areas are those of the filters
      obtain ⟨f, -, hf⟩ := List.mem_filterMap.1 (List.mem_eraseDups.1 h)
      unfold areaOf? at hf
      split at hf <;> simp_all
  rcases hlabel with rfl | rfl | rfl <;> decide

theorem Report.text_areaCondition (q : Query) :
    (areaCondition q).text = Shares.among "geo" ((areas q).map fun area => "'" ++ area ++ "'") := by
  have hrender : ((areas q).map fun area => (Sql.Literal.text area).render)
      = (areas q).map fun area => "'" ++ area ++ "'" :=
    List.map_congr_left fun area harea => quoted_of_mem_areas harea
  have h := Shares.text_oneOf ⟨none, "geo"⟩ .text (areas q)
  rw [hrender] at h
  unfold areaCondition
  generalize areas q = labels at h ⊢
  rcases labels with _ | ⟨a, _ | ⟨b, labels⟩⟩ <;> exact h

theorem Report.text_files_historical (r : Report) :
    (r.files [.historical]).text = "\nUNION ALL\n".intercalate (r.years.map fun year =>
      "SELECT *, " ++ toString year ++ " AS aar FROM '" ++ r.dataPath ++ "/" ++ toString year ++
        "/dekning.parquet'") := by
  have hfile : ∀ year, (Sql.YearFile.mk r.dataPath year .historical).text
      = "SELECT *, " ++ toString year ++ " AS aar FROM '" ++ r.dataPath ++ "/" ++ toString year ++
        "/dekning.parquet'" := by
    intro year
    apply String.toList_inj.1
    simp [Sql.YearFile.text, Dataset.source, Dataset.fileName]
  simp only [Report.files, Sql.Body.text, Sql.unionAll, List.map_cons, List.map_nil,
    List.map_flatMap, hfile]
  rw [List.map_eq_flatMap]

/-- The columns of a list, of which the year and the indicator stand only where there are several of
them. -/
theorem Shares.intercalate_columns (r : Report) {α : Type} (render : α → String) (i : Indicator)
    (is : List Indicator) (first order : String) {year indicator : α}
    (hyear : render year = "aar" ++ order) (hindicator : render indicator = "indikator" ++ order) :
    ", ".intercalate
      (first :: (r.ifMultiYear year ++ if is.isEmpty then [] else [indicator]).map render)
      = columns r.years ((i :: is).map Indicator.pair) first order := by
  have hmulti : r.multiYear = decide (1 < r.years.length) := rfl
  apply String.toList_inj.1
  by_cases hyears : 1 < r.years.length <;> cases is <;>
    simp [columns, Report.ifMultiYear, hmulti, hyears, hyear, hindicator]

/-- The columns of a report of shares end with the share itself. -/
theorem Report.text_shareColumns (r : Report) (i : Indicator) (is : List Indicator) :
    ", ".intercalate ((r.historicalShares i is).main.columns.map Sql.Item.text)
      = Shares.columns r.years ((i :: is).map Indicator.pair) "geo AS gruppe" "" ++
        ", ROUND(100.0 * AVG(dekning), 1) AS percent" := by
  have hyear : (Sql.Item.same ⟨none, "aar"⟩).text = "aar" ++ "" := rfl
  have hindicator : (Sql.Item.same ⟨none, "indikator"⟩).text = "indikator" ++ "" := rfl
  have hgroup : (Sql.Item.named (column "geo") "gruppe").text = "geo AS gruppe" := by
    decide +kernel
  have hpercent : (Sql.Item.named (.percent (.average (column "dekning"))) "percent").text
      = "ROUND(100.0 * AVG(dekning), 1) AS percent" := by decide +kernel
  rw [← Shares.intercalate_columns r Sql.Item.text i is "geo AS gruppe" "" hyear hindicator]
  rw [historicalShares, List.map_cons, List.map_append, hgroup, ← List.cons_append,
    String.intercalate_append_of_ne_nil (by simp) (by simp), List.map_singleton, hpercent,
    String.intercalate_singleton, String.append_assoc]
  rfl

theorem Report.text_shareFilters (r : Report) {i : Indicator} {is : List Indicator}
    (h : ∀ j ∈ i :: is, j ∈ Indicator.known) :
    " AND ".intercalate ((r.historicalShares i is).main.filters.map Sql.Predicate.text)
      = Shares.among "aar" (r.years.map toString) ++
        " AND " ++ Shares.among "geo" ((areas r.query).map fun area => "'" ++ area ++ "'") ++
        " AND " ++ Shares.choice ((i :: is).map Indicator.pair) := by
  simp [historicalShares, Sql.Predicate.text, text_yearCondition, Sql.Column.text,
    text_areaCondition, Indicator.text_joinAll h, String.append_assoc]

/-- No line stands for a number of rows that is not given. -/
theorem Report.text_shareLimit (limit : Option Nat) :
    Sql.clauseLine "LIMIT" "" (limit.toList.map toString)
      = limit.elim "" fun n => "\nLIMIT " ++ toString n := by
  cases limit <;> rfl

/-- **The text of a report of shares**, spelled out clause by clause. -/
theorem Report.text_historicalShares (r : Report) {i : Indicator} {is : List Indicator}
    (h : ∀ j ∈ i :: is, j ∈ Indicator.known) :
    (r.historicalShares i is).text
      = Shares.text r.years r.dataPath (areas r.query) ((i :: is).map Indicator.pair)
        (shareSortColumn r.query.sorting.key) r.query.sorting.direction.keyword r.query.limit := by
  have hgroupBy : ", ".intercalate ((r.historicalShares i is).main.groupBy.map Sql.Scalar.text)
      = Shares.columns r.years ((i :: is).map Indicator.pair) "geo" "" :=
    Shares.intercalate_columns r Sql.Scalar.text i is "geo" "" rfl rfl
  have horderBy : ", ".intercalate ((r.historicalShares i is).main.orderBy.map Sql.OrderKey.text)
      = Shares.columns r.years ((i :: is).map Indicator.pair)
        (shareSortColumn r.query.sorting.key ++ " " ++ r.query.sorting.direction.keyword) " ASC" :=
    Shares.intercalate_columns r Sql.OrderKey.text i is _ " ASC" rfl rfl
  -- none of the lists of clauses is empty, so every clause but the last has its line
  have hmain : (r.historicalShares i is).main.text Sql.Source.text
      = "SELECT " ++ ", ".intercalate ((r.historicalShares i is).main.columns.map Sql.Item.text) ++
        "\nFROM " ++ "hist" ++ "" ++
        ("\n" ++ "WHERE" ++ " " ++
          " AND ".intercalate ((r.historicalShares i is).main.filters.map Sql.Predicate.text)) ++
        ("\n" ++ "GROUP BY" ++ " " ++
          ", ".intercalate ((r.historicalShares i is).main.groupBy.map Sql.Scalar.text)) ++
        ("\n" ++ "ORDER BY" ++ " " ++
          ", ".intercalate ((r.historicalShares i is).main.orderBy.map Sql.OrderKey.text)) ++
        Sql.clauseLine "LIMIT" "" (r.query.limit.toList.map toString) := rfl
  have htext : (r.historicalShares i is).text
      = "WITH " ++ ("hist" ++ " AS (\n" ++ Text.indent (r.files [.historical]).text ++ ")\n") ++
        (r.historicalShares i is).main.text Sql.Source.text := rfl
  rw [htext, hmain, text_shareColumns, text_shareFilters r h, hgroupBy, horderBy, text_shareLimit,
    text_files_historical]
  -- both sides have the same characters, cut into strings at different places
  apply String.toList_inj.1
  delta Shares.text
  simp only [String.toList_append]
  simp

/-! ## The checks of the clauses -/

theorem Filter.checkHistorical_eq_ok_iff {f : Filter} :
    f.checkHistorical = .ok () ↔ f = .segment .urban ∨ f = .segment .rural := by
  cases f with
  | segment s => cases s <;> simp [Filter.checkHistorical, Segment.isOwnership]
  | compare field op value => cases field <;> simp [Filter.checkHistorical, Field.isGeographic]

/-- The check of a query succeeds if that of every clause does. -/
theorem Query.checkHistorical_eq_ok_iff {q : Query} :
    q.checkHistorical = .ok () ↔
      (q.grouping = .national ∨ q.grouping = .urban) ∧ q.metric ≠ .subscriptions ∧
        (∀ f ∈ q.filters, f = .segment .urban ∨ f = .segment .rural) ∧ q.figures ≠ .count ∧
        q.sorting.key ≠ .count ∧
        ∃ r, q.requirement = some r ∧ r.checkHistorical = .ok () := by
  have hgrouping : ¬ (q.grouping ≠ .national ∧ q.grouping ≠ .urban) ↔
      q.grouping = .national ∨ q.grouping = .urban := by
    cases q.grouping <;> simp
  simp only [Query.checkHistorical, ite_throw_eq_ok_iff, check_bind_eq_ok_iff, hgrouping,
    forM_eq_ok_iff, Filter.checkHistorical_eq_ok_iff, ne_eq]
  cases q.requirement with
  | none => simp [throw_ne_ok]
  | some r => simp

/-- Queries that ask for nothing but areas have no segments of customers. -/
theorem Query.checkOwnership_of_filters {q : Query}
    (h : ∀ f ∈ q.filters, f = .segment .urban ∨ f = .segment .rural) :
    q.checkOwnership = .ok () := by
  simp only [Query.checkOwnership]
  split
  · rfl
  · split
    · rfl
    · rename_i owner owners howners
      obtain ⟨f, hf, howner⟩ := List.mem_filterMap.1 (howners ▸ List.mem_cons_self)
      rcases h f hf with rfl | rfl <;> simp [Segment.isOwnership] at howner

/-- The steps that answer a query about early years. -/
theorem Query.toSql_eq_ok_iff_of_early {q : Query} {o : Options} {years : List Int} {sql : String}
    (hyears : Period.resolve q.period o.year = .ok years) (hearly : ∃ y ∈ years, y < 2022) :
    q.toSql o = .ok sql ↔ q.checkOwnership = .ok () ∧ q.checkHistorical = .ok () ∧
      ∃ st, Report.historical ⟨⟨q, years⟩, o.directory⟩ = .ok st ∧ st.text = sql := by
  obtain ⟨y, hy, hlt⟩ := hearly
  have hne : ¬ years.isEmpty = true := by
    cases years with
    | nil => simp at hy
    | cons _ _ => simp
  have hhistorical : (Resolved.mk q years).historical = true :=
    List.any_eq_true.2 ⟨y, hy, decide_eq_true hlt⟩
  have hstatement : Report.statement ⟨⟨q, years⟩, o.directory⟩
      = Report.historical ⟨⟨q, years⟩, o.directory⟩ := by
    simp [Report.statement, Resolved.strategy, hhistorical]
  -- with an early year among them the years are not empty, and the check of clauses is made
  have hresolve : ∀ r, q.resolve o.year = .ok r ↔
      q.checkOwnership = .ok () ∧ q.checkHistorical = .ok () ∧ r = ⟨q, years⟩ := by
    intro r
    simp only [Query.resolve, hyears, ok_bind, check_bind_eq_ok_iff, ite_throw_eq_ok_iff, hne,
      Bool.false_eq_true, not_false_eq_true, true_and, hhistorical, if_true, pure_eq_ok_iff]
  simp only [Query.toSql, map_eq_ok_iff, Query.statement, bind_eq_ok_iff, hresolve]
  constructor
  · rintro ⟨st, ⟨r, ⟨hown, hcheck, rfl⟩, hst⟩, hsql⟩
    exact ⟨hown, hcheck, st, hstatement ▸ hst, hsql⟩
  · rintro ⟨hown, hcheck, st, hst, hsql⟩
    exact ⟨st, ⟨_, ⟨hown, hcheck, rfl⟩, hstatement.trans hst⟩, hsql⟩

/-- The report of a requirement of which the indicators are known. -/
theorem Report.historical_eq_ok_iff {r : Report} {st : Sql.Statement} :
    r.historical = .ok st ↔ ∃ requirement, r.query.requirement = some requirement ∧
      ∃ i is, requirement.indicators = .ok (i :: is) ∧ st = r.historicalShares i is := by
  unfold Report.historical
  cases r.query.requirement with
  | none => simp
  | some requirement =>
    simp only [bind_eq_ok_iff, Option.some.injEq, exists_eq_left']
    constructor
    · rintro ⟨is, his, hst⟩
      cases is with
      | nil => exact absurd hst throw_ne_ok
      | cons i is => exact ⟨i, is, his, pure_eq_ok_iff.1 hst⟩
    · rintro ⟨i, is, his, rfl⟩
      exact ⟨i :: is, his, rfl⟩

/-! ## Acceptance -/

/-- A query that asks for shares is answered by the text of the report of those shares. -/
theorem Query.AsksFor.toSql {q : Query} {ps : List (String × String)} (h : q.AsksFor ps)
    {o : Options} {years : List Int} (hyears : Period.resolve q.period o.year = .ok years)
    (hearly : ∃ y ∈ years, y < 2022) :
    q.toSql o = .ok (Shares.text years o.directory (Report.areas q) ps.eraseDups
      (Report.shareSortColumn q.sorting.key) q.sorting.direction.keyword q.limit) := by
  obtain ⟨r, hr, hchooses⟩ := h.requirement
  obtain ⟨hcheck, is, his, hpairs, hknown, hne⟩ := hchooses.indicators
  obtain ⟨i, is, rfl⟩ := List.exists_cons_of_ne_nil hne
  rw [toSql_eq_ok_iff_of_early hyears hearly]
  refine ⟨checkOwnership_of_filters h.filters, ?_, _,
    Report.historical_eq_ok_iff.2 ⟨r, hr, i, is, his, rfl⟩, ?_⟩
  · exact checkHistorical_eq_ok_iff.2
      ⟨h.grouping, h.metric, h.filters, h.figures, h.sorting, r, hr, hcheck⟩
  · rw [Report.text_historicalShares _ hknown, hpairs]

/-- A query about early years that is answered asks for shares. -/
theorem Query.asksFor_of_toSql {q : Query} {o : Options} {years : List Int} {sql : String}
    (hyears : Period.resolve q.period o.year = .ok years) (hearly : ∃ y ∈ years, y < 2022)
    (h : q.toSql o = .ok sql) : ∃ ps, q.AsksFor ps := by
  obtain ⟨-, hcheck, st, hst, -⟩ := (toSql_eq_ok_iff_of_early hyears hearly).1 h
  obtain ⟨hgrouping, hmetric, hfilters, hfigures, hsorting, r, hr, hleaves⟩ :=
    checkHistorical_eq_ok_iff.1 hcheck
  -- the check of clauses and the report look at the same requirement
  obtain ⟨r', hr', i, is, his, -⟩ := Report.historical_eq_ok_iff.1 hst
  obtain rfl : r = r' := Option.some.inj (hr.symm.trans hr')
  obtain ⟨ps, hps⟩ := Requirement.chooses_of_indicators hleaves his
  exact ⟨ps, hgrouping, hmetric, hfilters, hfigures, hsorting, r, hr, hps⟩

/-- The pairs of all shares that there are. -/
def Shares.pairs : List (String × String) :=
  technologies.map (fun t => ("tek", t.2)) ++
    downloads.map (fun n => ("hast", "ned>=" ++ toString n)) ++
    downloads.flatMap fun n =>
      uploads.map fun m => ("hast", "ned>=" ++ toString n ++ ",opp>=" ++ toString m)

theorem Shares.pair_mem_pairs : ∀ i ∈ Indicator.known, i.pair ∈ pairs := by
  decide +kernel

/-- The pairs that a query asks for are among them. -/
theorem Query.AsksFor.mem_pairs {q : Query} {ps : List (String × String)} (h : q.AsksFor ps) :
    ∀ p ∈ ps, p ∈ Shares.pairs := by
  obtain ⟨r, -, hchooses⟩ := h.requirement
  obtain ⟨-, is, -, hpairs, hknown, -⟩ := hchooses.indicators
  intro p hp
  have hmem : p ∈ is.map Indicator.pair := hpairs ▸ List.mem_eraseDups.2 hp
  obtain ⟨i, hi, rfl⟩ := List.mem_map.1 hmem
  exact Shares.pair_mem_pairs i (hknown i hi)

theorem Shares.quote_notMem_pairs : ∀ p ∈ pairs, '\'' ∉ p.1.toList ∧ '\'' ∉ p.2.toList := by
  decide +kernel

/-- **Acceptance of queries about early years.** Such a query is answered exactly if it asks for
shares. The text of the answer then holds the pairs of those shares, from left to right and each
once, and of the requirement nothing else; each pair is from a closed list and has no quote in
it. -/
theorem Query.toSql_historical {q : Query} {o : Options} {years : List Int}
    (hyears : Period.resolve q.period o.year = .ok years) (hearly : ∃ y ∈ years, y < 2022) :
    ((∃ sql, q.toSql o = .ok sql) ↔ ∃ ps, q.AsksFor ps) ∧
      ∀ ps, q.AsksFor ps →
        q.toSql o = .ok (Shares.text years o.directory (Report.areas q) ps.eraseDups
          (Report.shareSortColumn q.sorting.key) q.sorting.direction.keyword q.limit) ∧
        ∀ p ∈ ps, p ∈ Shares.pairs ∧ '\'' ∉ p.1.toList ∧ '\'' ∉ p.2.toList := by
  refine ⟨⟨?_, ?_⟩, fun ps hps => ⟨hps.toSql hyears hearly, ?_⟩⟩
  · rintro ⟨sql, hsql⟩
    exact asksFor_of_toSql hyears hearly hsql
  · rintro ⟨ps, hps⟩
    exact ⟨_, hps.toSql hyears hearly⟩
  · intro p hp
    exact ⟨hps.mem_pairs p hp, Shares.quote_notMem_pairs p (hps.mem_pairs p hp)⟩

/-- A query that names one share twice, by its flag and by its stored value, another by two
thresholds in the unusual order, and a year on either side of the first detailed one. -/
def Query.sharesOfTwoYears : Query where
  requirement := some (.quantified .any [
    .join .or (.technology .fiber false)
      (.join .and (.compare .upload .ge (.number 100) false)
        (.compare .download .ge (.number 500) false)),
    .compare .technology .eq (.text "fiber") false])
  filters := [.segment .rural]
  metric := .homes
  grouping := .urban
  sorting := { key := .percent, direction := .desc }
  limit := some 3
  period := some (.years [2022, 2021])

theorem Query.toSql_sharesOfTwoYears :
    Period.resolve Query.sharesOfTwoYears.period none = .ok [2021, 2022] ∧
      Query.sharesOfTwoYears.AsksFor
        [("tek", "fiber"), ("hast", "ned>=500,opp>=100"), ("tek", "fiber")] ∧
      Query.sharesOfTwoYears.toSql {} = .ok (Shares.text [2021, 2022] "data" ["Spredt"]
        [("tek", "fiber"), ("hast", "ned>=500,opp>=100")] "percent" "DESC" (some 3)) := by
  have hyears : Period.resolve Query.sharesOfTwoYears.period none = .ok [2021, 2022] := rfl
  have hpair : ("hast", "ned>=500,opp>=100")
      = ("hast", "ned>=" ++ toString (500 : Int) ++ ",opp>=" ++ toString (100 : Int)) := by
    decide +kernel
  have hasks : Query.sharesOfTwoYears.AsksFor
      [("tek", "fiber"), ("hast", "ned>=500,opp>=100"), ("tek", "fiber")] := by
    refine ⟨.inr rfl, by decide, by decide, by decide, by decide, _, rfl, ?_⟩
    rw [hpair]
    exact .any (by simp) (.cons
      (.or (.leaf (.flag (by decide))) (.leaf (.uploadDownload (by decide) (by decide))))
      (.cons (.leaf (.stored (t := .fiber) (by decide))) .nil))
  refine ⟨hyears, hasks, ?_⟩
  exact ((toSql_historical (o := {}) hyears ⟨2021, by decide, by decide⟩).2 _ hasks).1

end Broadband
