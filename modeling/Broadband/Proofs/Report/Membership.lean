import Broadband.Proofs.Report.Comparisons
import Broadband.Proofs.Report.Rejections
import Broadband.Proofs.Sql.Subqueries

/-!
# What a requirement asks of an address

The coverage of an address is a set of rows, one for each technology, and a requirement is a question
about them: `Requirement.MetBy` says which. `ANY` is content with one row that meets one of the
branches, `NONE` with no such row, and `ALL` with a row for each branch, which need not be the same.

What is written is a test whether the key of the address is in a subquery over all coverage rows there
are. That this is the same question takes three facts. The text is read as such a test, with the whole
disjunction of the branches under the condition that ties a row to the year (`subquery_reads`). The keys
that a subquery selects include that of the address if and only if one of its own rows of the year meets
the condition (`mem_keys_iff`). And a criterion is evaluated on what is in view at a row as it is said to
be met there (`holds_eq_metBy`).
-/

namespace Broadband

open Checks Sql

/-! ## What is asked -/

/-- A value as the tables have it: speeds are in kbit/s. -/
def Value.stored (field : Field) : Value → Literal
  | .text s => .text s
  | .number n => .number (if field.isSpeed then 1000 * n else n)

/-- The values of the columns meet a criterion. -/
def Criterion.metBy (collation : Collation) (cell : Row) : Criterion → Bool
  | .technology t negated => negated ^^ collation.compares .eq (cell technologyColumn) (.text t.stored)
  | .compare field op value negated =>
    negated ^^ collation.compares op (cell field.column) (value.stored field)
  | .join op left right => op.holds (left.metBy collation cell) (right.metBy collation cell)
  | .not inner => !inner.metBy collation cell

/-- Rows meet a requirement, given which criteria each of them meets. -/
def Requirement.MetBy (meets : Row → Criterion → Bool) (rows : List Row) : Requirement → Prop
  | .single c => ∃ row ∈ rows, meets row c = true
  | .quantified .any cs => ∃ row ∈ rows, ∃ c ∈ cs, meets row c = true
  | .quantified .all cs => ∀ c ∈ cs, ∃ row ∈ rows, meets row c = true
  | .quantified .none cs => ∀ row ∈ rows, ∀ c ∈ cs, meets row c = false

instance (meets : Row → Criterion → Bool) (rows : List Row) (r : Requirement) :
    Decidable (r.MetBy meets rows) :=
  match r with
  | .single c => inferInstanceAs (Decidable (∃ row ∈ rows, meets row c = true))
  | .quantified .any cs => inferInstanceAs (Decidable (∃ row ∈ rows, ∃ c ∈ cs, meets row c = true))
  | .quantified .all cs => inferInstanceAs (Decidable (∀ c ∈ cs, ∃ row ∈ rows, meets row c = true))
  | .quantified .none cs => inferInstanceAs (Decidable (∀ row ∈ rows, ∀ c ∈ cs, meets row c = false))

namespace Report

/-- The coverage rows of an address in its year. -/
def coverageOf (coverage : DataTable) (address : Row) : List Row :=
  coverage.rows.filter fun row => row "adrid" = address "adrid" ∧ row "aar" = address "aar"

/-- What a criterion looks at: the columns of the coverage row, and where it has none of that name,
those of the address. -/
def cell (coverage : DataTable) (address row : Row) : Row := fun column =>
  if coverage.has column then row column else address column

/-- The address in view where its coverage is asked for. -/
def addressBinding (address : Row) : Binding := ⟨"a", fun _ => true, address⟩

/-- The truth value at an address of a text that is a test of membership. -/
def addressTest? (collation : Collation) (tables : String → DataTable) (address : Row) (s : String) :
    Option Bool :=
  (membershipTest? s).map (MembershipTest.holds collation tables (addressBinding address))

/-! ## Subqueries as they are read -/

/-- The comparison that ties a coverage row to the year of the address. -/
def sameYear : Atom := ⟨"d.aar", .eq, .name "a.aar"⟩

/-- A subquery over the coverage rows that meet a condition. -/
def coverageArm (f : Formula) : Arm := ⟨"d.adrid", "dekning", "d", f⟩

/-- The condition that ties a row to the address binds over all of the other one. -/
theorem subquery_reads {c : Condition} {truth : (Atom → Bool) → Bool} (h : Means c truth) :
    ∃ f, (coverageMembership.subquery c).Reads (coverageArm f) ∧
      ∀ v, f.holds v = (v sameYear && truth v) := by
  obtain ⟨f, hreads, hholds⟩ := h.reads
  have hyear : Reads .operand (.compare ⟨some "d", "aar"⟩ .eq (.column ⟨some "a", "aar"⟩))
      (.atom sameYear) := reads_compare_column (by decide) .eq (by decide)
  refine ⟨.join .and (.atom sameYear) f, ?_, fun v => ?_⟩
  · have hkey : Named (Column.mk (some "d") "adrid").text := by decide
    exact Subquery.reads hkey (by decide) (by decide) hyear (.cons hreads .nil)
  · rw [Formula.holds, hholds]
    rfl

/-! ## What is in view at a coverage row -/

section

variable (collation : Collation) (tables : String → DataTable) (address row : Row)

/-- What is in view inside a subquery. -/
abbrev coverageView : List Binding := [⟨"d", (tables "dekning").has, row⟩, addressBinding address]

/-- A bare name is looked for in the coverage row first. -/
theorem value?_bare {name : String} (h : nameParts name = (none, name)) :
    value? (coverageView tables address row) name = some (cell (tables "dekning") address row name) := by
  by_cases hhas : (tables "dekning").has name = true
  · simp [value?, Binding.value?, h, cell, hhas]
  · simp [value?, Binding.value?, h, cell, hhas, addressBinding]

/-- Names with a short name in front belong to one of the two rows only. -/
theorem value?_coverage {name column : String} (h : nameParts name = (some "d", column)) :
    value? (coverageView tables address row) name = some (row column) := by
  simp [value?, Binding.value?, h]

theorem value?_address {name column : String} (h : nameParts name = (some "a", column)) :
    value? (coverageView tables address row) name = some (address column) := by
  simp [value?, Binding.value?, h, addressBinding]

theorem holds_sameYear :
    Atom.holds collation (coverageView tables address row) sameYear
      = decide (row "aar" = address "aar") := by
  have hrow : value? (coverageView tables address row) "d.aar" = some (row "aar") :=
    value?_coverage tables address row (by decide)
  have haddress : value? (coverageView tables address row) "a.aar" = some (address "aar") :=
    value?_address tables address row (by decide)
  rw [Bool.eq_iff_iff, decide_eq_true_iff, ← collation.eq_iff]
  simp [Atom.holds, sameYear, hrow, Term.value?, haddress]

theorem value?_term (view : List Binding) (field : Field) (value : Value) :
    (value.term field).value? view = some (value.stored field) := by
  cases value <;> rfl

theorem nameParts_column (field : Field) : nameParts field.column = (none, field.column) := by
  cases field <;> decide

/-- What a criterion says of the comparisons in view is whether the row meets it. -/
theorem holds_eq_metBy (c : Criterion) :
    c.holds none (Atom.holds collation (coverageView tables address row))
      = c.metBy collation (cell (tables "dekning") address row) := by
  induction c with
  | technology t negated =>
    have htechnology := value?_bare tables address row (nameParts_column .technology)
    rw [Field.column] at htechnology
    simp [Criterion.holds, Criterion.metBy, Atom.holds, Column.text, htechnology, Term.value?]
  | compare field op value negated =>
    have hfield := value?_bare tables address row (nameParts_column field)
    simp [Criterion.holds, Criterion.metBy, Field.atom, Atom.holds, Column.text, hfield, value?_term]
  | join op left right ihl ihr => rw [Criterion.holds, Criterion.metBy, ihl, ihr]
  | not inner ih => rw [Criterion.holds, Criterion.metBy, ih]

end

/-! ## What a subquery selects -/

section

variable {collation : Collation} {tables : String → DataTable} {address : Row}

/-- Among the keys of a subquery is that of the address if one of its own rows, of its own year, meets
the condition. -/
theorem mem_keys_iff {f : Formula} {truth : (Atom → Bool) → Bool}
    (hf : ∀ v, f.holds v = (v sameYear && truth v)) :
    address "adrid" ∈ (coverageArm f).keys collation tables (addressBinding address) ↔
      ∃ row ∈ coverageOf (tables "dekning") address,
        truth (Atom.holds collation (coverageView tables address row)) = true := by
  have hparts : nameParts "d.adrid" = (some "d", "adrid") := by decide
  have hselected : ∀ row, (f.holds (Atom.holds collation (coverageView tables address row)) = true ∧
      value? (coverageView tables address row) "d.adrid" = some (address "adrid")) ↔
      (row "adrid" = address "adrid" ∧ row "aar" = address "aar") ∧
        truth (Atom.holds collation (coverageView tables address row)) = true := by
    intro row
    rw [hf, Bool.and_eq_true, holds_sameYear, decide_eq_true_iff,
      value?_coverage tables address row hparts, Option.some.injEq]
    exact ⟨fun ⟨⟨hyear, htruth⟩, hkey⟩ => ⟨⟨hkey, hyear⟩, htruth⟩,
      fun ⟨⟨hkey, hyear⟩, htruth⟩ => ⟨⟨hyear, htruth⟩, hkey⟩⟩
  rw [Arm.mem_keys]
  simp only [coverageOf, List.mem_filter, decide_eq_true_iff, and_assoc (a := _ ∈ _)]
  exact exists_congr fun row => and_congr_right fun _ => hselected row

/-- The subquery of a condition, as it is read and as it is evaluated. -/
theorem exists_arm {c : Condition} {truth : (Atom → Bool) → Bool} (h : Means c truth)
    (collation : Collation) (tables : String → DataTable) (address : Row) :
    ∃ a, (coverageMembership.subquery c).Reads a ∧
      (address "adrid" ∈ a.keys collation tables (addressBinding address) ↔
        ∃ row ∈ coverageOf (tables "dekning") address,
          truth (Atom.holds collation (coverageView tables address row)) = true) := by
  obtain ⟨f, hreads, hf⟩ := subquery_reads h
  exact ⟨coverageArm f, hreads, mem_keys_iff hf⟩

/-- The subqueries of several conditions. -/
theorem exists_arms {α : Type} {truth : α → (Atom → Bool) → Bool} {xs : List α} {cs : List Condition}
    (h : List.Forall₂ (fun x c => Means c (truth x)) xs cs) (collation : Collation)
    (tables : String → DataTable) (address : Row) :
    ∃ arms, List.Forall₂ Subquery.Reads (cs.map coverageMembership.subquery) arms ∧
      ((∀ a ∈ arms, address "adrid" ∈ a.keys collation tables (addressBinding address)) ↔
        ∀ x ∈ xs, ∃ row ∈ coverageOf (tables "dekning") address,
          truth x (Atom.holds collation (coverageView tables address row)) = true) := by
  induction h with
  | nil => exact ⟨[], .nil, by simp⟩
  | cons hc _ ih =>
    obtain ⟨a, hreads, hkey⟩ := exists_arm hc collation tables address
    obtain ⟨arms, hreads', hkeys⟩ := ih
    refine ⟨a :: arms, .cons hreads hreads', ?_⟩
    rw [List.forall_mem_cons, List.forall_mem_cons, hkey, hkeys]

end

/-! ## The main statement -/

section

variable (collation : Collation) (tables : String → DataTable) (address : Row)

/-- The address meets a requirement. -/
def Meets (r : Requirement) : Prop :=
  r.MetBy (fun row => Criterion.metBy collation (cell (tables "dekning") address row))
    (coverageOf (tables "dekning") address)

theorem addressTest?_eq {s : String} {t : MembershipTest} (h : membershipTest? s = some t)
    (hkey : t.key = "a.adrid") (hne : t.arms ≠ []) :
    addressTest? collation tables address s = some (t.negated ^^ decide
      (∀ a ∈ t.arms, address "adrid" ∈ a.keys collation tables (addressBinding address))) := by
  have hvalue : value? [addressBinding address] t.key = some (address "adrid") := by
    have hparts : nameParts "a.adrid" = (some "a", "adrid") := by decide
    rw [hkey]
    simp [value?, Binding.value?, hparts, addressBinding]
  rw [addressTest?, h, Option.map_some, MembershipTest.holds_eq hvalue hne]

/-- The predicate of a requirement with a quantifier is true of the addresses that meet it. -/
theorem addressTest?_quantified {q : Quantifier} {cs : List Criterion} {p : Predicate}
    (h : coverageMembership.predicate (.quantified q cs) = .ok p) :
    ∃ b, addressTest? collation tables address p.text = some b ∧
      (b = true ↔ Meets collation tables address (.quantified q cs)) := by
  have hreadable := (coverageMembership.predicate_compared coverageMembership_readable h).1
  have hkey : Named coverageMembership.key.text := by decide
  have hbare : Identifies none := by simp [Identifies]
  obtain ⟨conds, hconds, hp⟩ := bind_eq_ok_iff.1 h
  have hall : List.Forall₂ (fun x c => Means c fun v => Criterion.holds none v x) cs conds :=
    (forall₂_of_mapM hconds).imp fun x c hx => Criterion.condition_means hbare hx
  cases conds with
  | nil => exact absurd hp throw_ne_ok
  | cons first rest =>
    obtain ⟨x, xs, -, -, rfl⟩ := List.forall₂_cons_right_iff.1 hall
    obtain rfl := pure_eq_ok_iff.1 hp
    obtain ⟨a, ha, hany⟩ := exists_arm (Means.joinAll .or hall) collation tables address
    obtain ⟨arms, harms, hevery⟩ := exists_arms hall collation tables address
    simp only [foldl_or, ← List.any_cons, List.any_eq_true, holds_eq_metBy] at hany hevery
    cases q with
    | any =>
      refine ⟨_, addressTest?_eq collation tables address (membershipTest?_within hkey ha hreadable) rfl
        (by simp), ?_⟩
      simp [hany, Meets, Requirement.MetBy]
    | all =>
      refine ⟨_, addressTest?_eq collation tables address
        (membershipTest?_withinEach hkey (by simp) harms hreadable) rfl ?_, ?_⟩
      · rintro rfl
        cases harms
      · simp [hevery, Meets, Requirement.MetBy]
    | none =>
      refine ⟨_, addressTest?_eq collation tables address (membershipTest?_outside hkey ha hreadable) rfl
        (by simp), ?_⟩
      simp [hany, Meets, Requirement.MetBy]

/-- A requirement without a quantifier is one with a single branch. -/
theorem addressTest?_predicate {r : Requirement} {p : Predicate}
    (h : coverageMembership.predicate r = .ok p) :
    ∃ b, addressTest? collation tables address p.text = some b ∧
      (b = true ↔ Meets collation tables address r) := by
  cases r with
  | quantified q cs => exact addressTest?_quantified collation tables address h
  | single c =>
    have hany : coverageMembership.predicate (.quantified .any [c]) = .ok p := h
    obtain ⟨b, htest, hb⟩ := addressTest?_quantified collation tables address hany
    refine ⟨b, htest, hb.trans ?_⟩
    simp [Meets, Requirement.MetBy]

theorem meets_none_iff (cs : List Criterion) :
    Meets collation tables address (.quantified .none cs) ↔
      ¬ Meets collation tables address (.quantified .any cs) := by
  simp [Meets, Requirement.MetBy]

theorem meets_all_singleton_iff (c : Criterion) :
    Meets collation tables address (.quantified .all [c]) ↔
      Meets collation tables address (.quantified .any [c]) := by
  simp [Meets, Requirement.MetBy]

/-- **The predicate of a requirement asks what the requirement says.** Over any tables without nulls, at
any address and however values are ordered: a requirement has a predicate if it has branches and its
speeds fit. The text of the predicate is then read to its end as a test of membership, and the test is
true of the address exactly if the coverage rows of that address and year meet the requirement. `NONE`
over some branches is therefore the opposite of `ANY` over them, and over one branch `ALL` is `ANY`. -/
theorem coverageMembership_asks :
    (∀ r : Requirement, (∃ p, coverageMembership.predicate r = .ok p) ↔ r.Fits) ∧
    (∀ (r : Requirement) (p : Predicate), coverageMembership.predicate r = .ok p →
      ∃ b, addressTest? collation tables address p.text = some b ∧
        (b = true ↔ Meets collation tables address r)) ∧
    (∀ (cs : List Criterion) (p p' : Predicate),
      coverageMembership.predicate (.quantified .none cs) = .ok p →
      coverageMembership.predicate (.quantified .any cs) = .ok p' →
      ∃ b, addressTest? collation tables address p'.text = some b ∧
        addressTest? collation tables address p.text = some !b) ∧
    (∀ (c : Criterion) (p p' : Predicate),
      coverageMembership.predicate (.quantified .all [c]) = .ok p →
      coverageMembership.predicate (.quantified .any [c]) = .ok p' →
      ∃ b, addressTest? collation tables address p'.text = some b ∧
        addressTest? collation tables address p.text = some b) := by
  refine ⟨coverageMembership.exists_predicate_iff,
    fun r p h => addressTest?_predicate collation tables address h, ?_, ?_⟩
  · intro cs p p' hnone hany
    obtain ⟨b, htest, hb⟩ := addressTest?_predicate collation tables address hnone
    obtain ⟨b', htest', hb'⟩ := addressTest?_predicate collation tables address hany
    have hopposite : b = !b' := by
      rw [Bool.eq_iff_iff, hb, meets_none_iff, ← hb', Bool.not_eq_true, Bool.not_eq_true']
    exact ⟨b', htest', hopposite ▸ htest⟩
  · intro c p p' hall hany
    obtain ⟨b, htest, hb⟩ := addressTest?_predicate collation tables address hall
    obtain ⟨b', htest', hb'⟩ := addressTest?_predicate collation tables address hany
    have hsame : b = b' := by
      rw [Bool.eq_iff_iff, hb, meets_all_singleton_iff, ← hb']
    exact ⟨b', htest', hsame ▸ htest⟩

end

/-- Numbers are ordered as numbers, and nothing else is. -/
def numericCollation : Collation where
  compares op x y := match op, x, y with
    | .eq, x, y => x = y
    | .ne, x, y => x ≠ y
    | op, .number m, .number n => op.holds m n
    | _, _, _ => false
  eq_iff _ _ := decide_eq_true_iff

/-- A coverage row. -/
def offer (address year : Int) (technology : String) (download : Int) : Row
  | "adrid" => .number address
  | "aar" => .number year
  | "tek" => .text technology
  | "ned" => .number download
  | _ => .text ""

/-- Slow fibre and fast cable at one address. Its neighbour has fast fibre, and it had so itself a year
before. -/
def twoOffers (table : String) : DataTable where
  has column := ["adrid", "aar", "tek", "ned", "opp", "tilb"].contains column
  rows := if table = "dekning" then
    [offer 7 2023 "fiber" 50000, offer 7 2023 "kabel" 200000, offer 8 2023 "fiber" 200000,
     offer 7 2022 "fiber" 200000] else []

/-- The address has fibre and it has speed, but no fast fibre. -/
theorem coverageMembership_asks_twoOffers :
    let fibre : Criterion := .technology .fiber false
    let fast : Criterion := .compare .download .ge (.number 100) false
    let test := addressTest? numericCollation twoOffers (offer 7 2023 "" 0)
    (∃ p, coverageMembership.predicate (.quantified .all [fibre, fast]) = .ok p ∧
      p.text = "a.adrid IN (" ++
        "\n  SELECT d.adrid FROM dekning d WHERE d.aar = a.aar AND tek = 'fiber'" ++
        "\n  INTERSECT" ++
        "\n  SELECT d.adrid FROM dekning d WHERE d.aar = a.aar AND ned >= 100000" ++ "\n)" ∧
      test p.text = some true) ∧
    (∃ p, coverageMembership.predicate (.single (.join .and fibre fast)) = .ok p ∧
      test p.text = some false) ∧
    (∃ p p', coverageMembership.predicate (.quantified .none [fibre, fast]) = .ok p ∧
      coverageMembership.predicate (.quantified .any [fibre, fast]) = .ok p' ∧
      ∃ b, test p'.text = some b ∧ test p.text = some !b) ∧
    ∃ p p', coverageMembership.predicate (.quantified .all [fast]) = .ok p ∧
      coverageMembership.predicate (.quantified .any [fast]) = .ok p' ∧
      ∃ b, test p'.text = some b ∧ test p.text = some b := by
  intro fibre fast test
  obtain ⟨-, hasks, hnone, hone⟩ :=
    coverageMembership_asks numericCollation twoOffers (offer 7 2023 "" 0)
  refine ⟨⟨_, rfl, by decide +kernel, ?_⟩, ⟨_, rfl, ?_⟩, ⟨_, _, rfl, rfl, hnone [fibre, fast] _ _ rfl rfl⟩,
    ⟨_, _, rfl, rfl, hone fast _ _ rfl rfl⟩⟩
  · obtain ⟨b, htest, hb⟩ := hasks (.quantified .all [fibre, fast]) _ rfl
    have hmeets : Meets numericCollation twoOffers (offer 7 2023 "" 0)
        (.quantified .all [fibre, fast]) := by
      unfold Meets
      decide +kernel
    rw [hb.2 hmeets] at htest
    exact htest
  · obtain ⟨b, htest, hb⟩ := hasks (.single (.join .and fibre fast)) _ rfl
    have hmeets : ¬ Meets numericCollation twoOffers (offer 7 2023 "" 0)
        (.single (.join .and fibre fast)) := by
      unfold Meets
      decide +kernel
    rw [← hb, Bool.not_eq_true] at hmeets
    rw [hmeets] at htest
    exact htest

end Report

end Broadband
