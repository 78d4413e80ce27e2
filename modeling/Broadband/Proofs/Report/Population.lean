import Broadband.Proofs.Report.National
import Broadband.Proofs.Sql.Keys

/-!
# The population of a query

Reports of coverage add up a metric over addresses twice: over the population, and over the addresses of it
that meet the requirement. The two selections are written apart, one with the short name of its table in front
of every column and one without. They agree because both mean the same by an address that is asked about
(`Query.inPopulation`), by the key of the row that it counts in (`Query.key`) and by what it counts
(`Metric.of`), which are said here without either of them. So one statement, `Report.addressSums_addsUp`,
holds of both: what they add up is a part of the population, key by key, and for one of them this part is all
of it.
-/

namespace Broadband

open Checks Sql

/-! ## Addresses -/

/-- The group that an address belongs to. -/
def Grouping.of (columns : List String) (row : List Datum) : Grouping → Datum
  | .national => .text nationalLabel
  | .county => cell columns row "fylke"
  | .municipality => cell columns row "komnavn"
  | .postal => cell columns row "postnr"
  | .urban => .text (if cell columns row "ertett" = .truth true then urbanLabel else ruralLabel)
  | .provider => cell columns row "tilb"
  | .technology => cell columns row technologyColumn

/-- What an address counts. -/
def Metric.of (columns : List String) (row : List Datum) : Metric → Datum
  | .homes => cell columns row "hus"
  | .buildings => cell columns row "bygninger"
  | .cabins => cell columns row "fritid"
  | .addresses | .subscriptions => .number 1

/-- A value as the tables have it: speeds are in kbit/s. -/
def Value.datum (field : Field) : Value → Datum
  | .text s => .text s
  | .number n => .number (if field.isSpeed then 1000 * n else n : Int)

/-- An address lies in a segment. -/
def Segment.passedBy (columns : List String) (row : List Datum) : Segment → Bool
  | .urban => cell columns row "ertett" = .truth true
  | .rural => cell columns row "ertett" = .truth false
  | .residential => cell columns row "privat" = .truth true
  | .business => cell columns row "privat" = .truth false

/-- An address passes a filter. -/
def Filter.passedBy (e : Engine) (columns : List String) (row : List Datum) : Filter → Bool
  | .segment s => s.passedBy columns row
  | .compare field op value => e.compare op (cell columns row field.column) (value.datum field) = some true

theorem Field.datum_literal {field : Field} {value : Value} {l : Literal} (h : field.literal value = .ok l) :
    l.datum = value.datum field := by
  cases value with
  | text s =>
    obtain rfl := Except.ok.inj h
    rfl
  | number n =>
    simp only [Field.literal] at h
    rw [Value.datum]
    by_cases hspeed : field.isSpeed = true
    · rw [if_pos hspeed] at h ⊢
      obtain ⟨m, hm, rfl⟩ := map_eq_ok_iff.1 h
      rw [toKbps_eq hm, Literal.datum]
    · rw [if_neg hspeed] at h ⊢
      obtain rfl := Except.ok.inj h
      rfl

section

variable {e : Engine} {gs : List (List Frame)} {columns : List String} {row : List Datum} {short : String}
  {qualifier : Option String} (h : qualifier.all (· = short) = true)

include h

theorem Grouping.value_label (g : Grouping) (fs : List Frame) :
    (g.label qualifier).value e gs (rowFrame short columns row :: fs) = g.of columns row := by
  cases g with
  | national => rfl
  | urban =>
    rw [label, of, Scalar.value, List.headD_cons]
    simp only [met_truth_iff, value_qualified h]
    split <;> rfl
  | county => exact value_qualified h
  | municipality => exact value_qualified h
  | postal => exact value_qualified h
  | provider => exact value_qualified h
  | technology => exact value_qualified h

theorem Metric.value_weight (m : Metric) :
    (m.weight qualifier).value e gs [rowFrame short columns row] = m.of columns row := by
  cases m with
  | homes => exact value_qualified h
  | buildings => exact value_qualified h
  | cabins => exact value_qualified h
  | addresses => exact congrArg Datum.number Int.cast_one
  | subscriptions => exact congrArg Datum.number Int.cast_one

theorem Segment.met_condition (s : Segment) :
    (s.condition qualifier).met e (rowFrame short columns row) = s.passedBy columns row := by
  rw [Bool.eq_iff_iff]
  cases s <;> exact met_eq_iff.trans (by rw [value_qualified h, passedBy, decide_eq_true_eq]; rfl)

theorem Filter.met_condition {f : Filter} {c : Condition} (hc : f.condition qualifier = .ok c) :
    c.met e (rowFrame short columns row) = f.passedBy e columns row := by
  cases f with
  | segment s =>
    obtain rfl := Except.ok.inj hc
    exact s.met_condition h
  | compare field op value =>
    obtain ⟨l, hl, rfl⟩ := map_eq_ok_iff.1 hc
    rw [Condition.met, Condition.truth?, value_qualified h, Operand.value, Field.datum_literal hl]
    rfl

theorem met_filterConditions {db : Database} {filters : List Filter} {cs : List Condition}
    (hcs : filterConditions filters qualifier = .ok cs) :
    (cs.map Predicate.holds).all (·.met e db (rowFrame short columns row))
      = filters.all (·.passedBy e columns row) := by
  have hall : List.Forall₂ (fun f c => Filter.condition qualifier f = .ok c) filters cs :=
    forall₂_of_mapM hcs
  clear hcs
  induction hall with
  | nil => rfl
  | cons hc _ ih =>
    rw [List.map_cons, List.all_cons, List.all_cons, ih, Predicate.met, Filter.met_condition h hc]

/-- A row is of one of the years. -/
theorem Report.met_yearCondition (r : Report) :
    (r.yearCondition qualifier).met e (rowFrame short columns row)
      = r.years.any fun year => Sql.cell columns row "aar" = .number year := by
  have hsingle : ∀ year : Int, Condition.met e (rowFrame short columns row)
      (.compare ⟨qualifier, "aar"⟩ .eq (.literal (.number year)))
        = decide (Sql.cell columns row "aar" = .number year) := by
    intro year
    rw [Bool.eq_iff_iff, met_eq_iff, value_qualified h, decide_eq_true_eq]
    rfl
  have hseveral : ∀ years : List Int, Condition.met e (rowFrame short columns row)
      (.oneOf ⟨qualifier, "aar"⟩ (years.map .number))
        = years.any fun year => Sql.cell columns row "aar" = .number year := by
    intro years
    rw [Condition.met, Condition.truth?, value_qualified h, Bool.eq_iff_iff, decide_eq_true_eq]
    by_cases hnull : Sql.cell columns row "aar" = .null
    · -- null is none of the years
      simp [hnull]
    · rw [if_neg hnull, Option.some_inj, List.any_map, List.any_eq_true, List.any_eq_true]
      refine exists_congr fun year => and_congr_right fun _ => ?_
      rw [Function.comp_apply, decide_eq_true_eq, decide_eq_true_eq, Literal.datum]
      exact eq_comm
  unfold yearCondition
  split
  · next year hyears => rw [hyears, hsingle, List.any_cons, List.any_nil, Bool.or_false]
  · exact hseveral _

end

/-! ## The population -/

namespace Query

/-- The columns that tell the rows for groups apart. -/
def keyColumns (years : List Int) : List String := "gruppe" :: if 1 < years.length then ["aar"] else []

section

variable (e : Engine) (q : Query) (years : List Int)

/-- The key of the row that an address counts in: its group, and its year if there are several. -/
def key (columns : List String) (row : List Datum) : List Datum :=
  q.grouping.of columns row :: if 1 < years.length then [cell columns row "aar"] else []

/-- An address is asked about: it is of one of the years and passes all filters. -/
def inPopulation (columns : List String) (row : List Datum) : Bool :=
  years.any (fun year => cell columns row "aar" = .number year) && q.filters.all (·.passedBy e columns row)

variable (addresses : Content)

/-- The addresses that are asked about. -/
def population : List (List Datum) := addresses.rows.filter (q.inPopulation e years addresses.columns)

/-- The keys of the population. -/
def keys : List (List Datum) := keysOf (q.key years addresses.columns) (q.population e years addresses)

/-- The population with a key. -/
def populationOf (k : List Datum) : List (List Datum) :=
  withKey (q.key years addresses.columns) k (q.population e years addresses)

/-- The keys with addresses that are covered. -/
def coveredKeys (covers : List Datum → Bool) : List (List Datum) :=
  (q.keys e years addresses).filter fun k => !((q.populationOf e years addresses k).filter covers).isEmpty

/-- What the covered addresses with a key count. -/
def amount (covers : List Datum → Bool) (k : List Datum) : Rat :=
  Datum.total (((q.populationOf e years addresses k).filter covers).map (q.metric.of addresses.columns))

end

section

variable {e : Engine} {q : Query} {years : List Int} {addresses : Content}

theorem nodup_keyColumns : (keyColumns years).Nodup := by
  unfold keyColumns
  split <;> decide

theorem length_key (columns : List String) (row : List Datum) :
    (keyColumns years).length = (q.key years columns row).length := by
  unfold keyColumns key
  split <;> rfl

theorem notMem_keyColumns {name : String} (h : name ∈ ["covered", "total", "percent"]) :
    name ∉ keyColumns years := by
  have hne : name ≠ "gruppe" ∧ name ≠ "aar" := by
    constructor <;> rintro rfl <;> exact absurd h (by decide)
  unfold keyColumns
  split <;> simp [hne]

theorem length_of_mem_keys {k : List Datum} (hk : k ∈ q.keys e years addresses) :
    (keyColumns years).length = k.length := by
  obtain ⟨row, -, rfl⟩ := List.mem_map.1 (List.mem_dedup.1 hk)
  exact length_key _ _

/-- Years are not null, so keys have no nulls unless groups are. -/
theorem ne_null_of_mem_keys
    (hgroups : ∀ row ∈ addresses.rows, q.grouping.of addresses.columns row ≠ .null) {k : List Datum}
    (hk : k ∈ q.keys e years addresses) : ∀ x ∈ k, x ≠ .null := by
  obtain ⟨row, hrow, rfl⟩ := List.mem_map.1 (List.mem_dedup.1 hk)
  obtain ⟨hmem, hasked⟩ := List.mem_filter.1 hrow
  obtain ⟨year, -, hyear⟩ := List.any_eq_true.1 (Bool.and_eq_true_iff.1 hasked).1
  rw [key, List.forall_mem_cons]
  refine ⟨hgroups row hmem, ?_⟩
  split
  · rw [List.forall_mem_singleton, of_decide_eq_true hyear]
    exact Datum.noConfusion
  · exact List.forall_mem_nil _

/-- The first of the covered addresses with a key has it. -/
theorem exists_populationOf_eq_cons {k : List Datum} {covers : List Datum → Bool}
    (h : (q.populationOf e years addresses k).filter covers ≠ []) :
    ∃ row rest, (q.populationOf e years addresses k).filter covers = row :: rest ∧
      q.key years addresses.columns row = k := by
  obtain ⟨row, rest, hlist⟩ := List.exists_cons_of_ne_nil h
  have hrow : row ∈ (q.populationOf e years addresses k).filter covers := hlist ▸ List.mem_cons_self
  exact ⟨row, rest, hlist, of_decide_eq_true (List.mem_filter.1 (List.mem_filter.1 hrow).1).2⟩

theorem mem_rows_of_mem_populationOf {k row : List Datum} {covers : List Datum → Bool}
    (h : row ∈ (q.populationOf e years addresses k).filter covers) : row ∈ addresses.rows :=
  List.mem_of_mem_filter (List.mem_of_mem_filter (List.mem_of_mem_filter h))

end

/-! ## Sums over addresses -/

/-- A selection adds up what the covered addresses of the population count, by key, and this is its answer. -/
structure AddsUp (e : Engine) (db : Database) (q : Query) (years : List Int) (addresses : Content)
    (covers : List Datum → Bool) (s : Select Source) (figure : String) (out : Content) : Prop where
  /-- The rows that are put together are the covered addresses with the same key. -/
  groups : (s.groups e (s.frames e db (s.source.content e db))).Perm
    ((q.coveredKeys e years addresses covers).map fun k =>
      ((q.populationOf e years addresses k).filter covers).map
        (rowFrame (s.source.content e db).1 addresses.columns))
  columns : out.columns = rowColumns years [figure]
  /-- And each row of the answer has a key and the sum of the metric. -/
  rows : out.rows.Perm
    ((q.coveredKeys e years addresses covers).map fun k => k ++ [.number (q.amount e years addresses covers k)])

end Query

namespace Report

open Query

section

variable {e : Engine} {db : Database} {r : Report} {qualifier : Option String} {name : String}
  {filters : List Predicate} {addresses out : Content} {covers : List Datum → Bool}

theorem ifMultiYear_eq {α : Type} (r : Report) (x : α) :
    r.ifMultiYear x = if 1 < r.years.length then [x] else [] := by
  simp only [ifMultiYear, Resolved.multiYear, decide_eq_true_eq, gt_iff_lt]

/-- The table of addresses comes into view under its own name or a short one. -/
theorem all_eq_getD (qualifier : Option String) : qualifier.all (· = qualifier.getD "adr") = true := by
  cases qualifier <;> simp

/-- The year of a group of addresses is that of the first of them. -/
theorem value_year (gs : List (List Frame)) (columns : List String) (row : List Datum) (fs : List Frame) :
    Scalar.value e gs (rowFrame (qualifier.getD "adr") columns row :: fs) (.column ⟨qualifier, "aar"⟩)
      = Sql.cell columns row "aar" := value_qualified (all_eq_getD qualifier)

/-- A row for addresses has the key of the first of them in front. -/
theorem output_addressSums (gs : List (List Frame)) (row : List Datum) (rest : List (List Datum)) :
    (r.addressSums qualifier name filters).output e gs
        ((row :: rest).map (rowFrame (qualifier.getD "adr") addresses.columns))
      = r.query.key r.years addresses.columns row ++
        [Datum.sum ((row :: rest).map (r.query.metric.of addresses.columns))] := by
  have hsum : Scalar.value e gs ((row :: rest).map (rowFrame (qualifier.getD "adr") addresses.columns))
      (.sum (r.query.metric.weight qualifier))
        = Datum.sum ((row :: rest).map (r.query.metric.of addresses.columns)) := by
    rw [Scalar.value, List.map_map]
    exact congrArg Datum.sum (List.map_congr_left fun row _ => Metric.value_weight (all_eq_getD qualifier) _)
  have hyear : Scalar.value e gs ((row :: rest).map (rowFrame (qualifier.getD "adr") addresses.columns))
      (.column ⟨qualifier, "aar"⟩) = Sql.cell addresses.columns row "aar" := value_year _ _ _ _
  have hgroup : Scalar.value e gs ((row :: rest).map (rowFrame (qualifier.getD "adr") addresses.columns))
      (r.query.grouping.label qualifier) = r.query.grouping.of addresses.columns row :=
    Grouping.value_label (all_eq_getD qualifier) _ _
  generalize (row :: rest).map (rowFrame (qualifier.getD "adr") addresses.columns) = g at hgroup hyear hsum ⊢
  rw [Select.output_of_cons rfl, List.map_cons, List.map_append, map_ifMultiYear, key, ← r.ifMultiYear_eq,
    ← hgroup, ← hyear, ← hsum]
  rfl

/-- The sums are over the addresses of the population that meet what is asked beyond the filters. -/
theorem groups_addressSums
    (hfilters : ∀ row, filters.all (·.met e db (rowFrame (qualifier.getD "adr") addresses.columns row))
      = (covers row && r.query.filters.all (·.passedBy e addresses.columns row))) :
    (r.addressSums qualifier name filters).groups e
        ((r.addressSums qualifier name filters).frames e db (qualifier.getD "adr", addresses))
      = (keysOf (r.query.key r.years addresses.columns)
          ((r.query.population e r.years addresses).filter covers)).map fun k =>
            ((r.query.populationOf e r.years addresses k).filter covers).map
              (rowFrame (qualifier.getD "adr") addresses.columns) := by
  have hrows : addresses.rows.filter
      (fun row => covers row && r.query.inPopulation e r.years addresses.columns row)
        = (r.query.population e r.years addresses).filter covers := by
    rw [population, List.filter_filter]
  have hkeep : ∀ row, (r.addressSums qualifier name filters).filters.all
      (·.met e db (rowFrame (qualifier.getD "adr") addresses.columns row))
        = (covers row && r.query.inPopulation e r.years addresses.columns row) := by
    intro row
    rw [addressSums, List.all_cons, hfilters, Predicate.met, met_yearCondition (all_eq_getD qualifier),
      inPopulation, Bool.and_left_comm]
  have hkey : ∀ row, (r.addressSums qualifier name filters).groupBy.map
      (·.value e [] [rowFrame (qualifier.getD "adr") addresses.columns row])
        = r.query.key r.years addresses.columns row := by
    intro row
    rw [addressSums, List.map_cons, map_ifMultiYear, Grouping.value_label (all_eq_getD qualifier), value_year,
      ifMultiYear_eq, key]
  rw [Select.groups_eq rfl (List.cons_ne_nil _ _) hkeep hkey, hrows]
  refine List.map_congr_left fun k _ => congrArg _ ?_
  exact List.filter_comm _ _ _

/-- The sums stay the sums of the same addresses when more tables are defined. -/
theorem addressSums_addsUp {later : Database} {coverage : Content}
    (h : (r.addressSums qualifier name filters).Yields e db
      ((r.addressSums qualifier name filters).source.content e db) out)
    (hnow : db.content "adr" = addresses ∧ db.content "dekning" = coverage)
    (hlater : later.content "adr" = addresses ∧ later.content "dekning" = coverage)
    (hnumbers : ∀ row ∈ addresses.rows, ∃ n, r.query.metric.of addresses.columns row = .number n)
    (hfilters : ∀ d : Database, d.content "dekning" = coverage → ∀ row,
      filters.all (·.met e d (rowFrame (qualifier.getD "adr") addresses.columns row))
        = (covers row && r.query.filters.all (·.passedBy e addresses.columns row))) :
    r.query.AddsUp e later r.years addresses covers (r.addressSums qualifier name filters) name out := by
  have hsource : ∀ d : Database, d.content "adr" = addresses →
      (r.addressSums qualifier name filters).source.content e d = (qualifier.getD "adr", addresses) :=
    fun d hd => congrArg _ hd
  have hgroups : ∀ d : Database, d.content "dekning" = coverage →
      (r.addressSums qualifier name filters).groups e
        ((r.addressSums qualifier name filters).frames e d (qualifier.getD "adr", addresses)) = _ :=
    fun d hd => groups_addressSums (hfilters d hd)
  obtain ⟨hcolumns, hrows⟩ := (Select.yields_iff_perm rfl rfl).1 h
  rw [hsource db hnow.1] at hcolumns hrows
  refine ⟨?_, hcolumns.trans ?_, ?_⟩
  · rw [hsource later hlater.1, hgroups later hlater.2]
    exact (keysOf_filter covers).map _
  · exact r.label_rows rfl rfl rfl
  · rw [hgroups db hnow.2, List.map_map] at hrows
    refine hrows.trans ?_
    refine ((keysOf_filter covers).map _).trans (.of_eq (List.map_congr_left fun k hk => ?_))
    have hsome := List.isEmpty_eq_false_iff.1 (Bool.not_eq_true' _ ▸ (List.mem_filter.1 hk).2)
    obtain ⟨row, rest, hlist, hkey⟩ := exists_populationOf_eq_cons hsome
    have hsum : Datum.sum (((r.query.populationOf e r.years addresses k).filter covers).map
        (r.query.metric.of addresses.columns)) = .number (r.query.amount e r.years addresses covers k) := by
      refine Datum.sum_eq_total (mt List.map_eq_nil_iff.1 hsome) ?_
      rw [List.forall_mem_map]
      exact fun row hrow => hnumbers row (mem_rows_of_mem_populationOf hrow)
    rw [Function.comp_apply, ← hsum, hlist, output_addressSums, hkey]

end

end Report

end Broadband
