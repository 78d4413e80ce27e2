import Broadband.Proofs.Report.Requirement
import Broadband.Proofs.Sql.Conditions

/-!
# What conditions mean

A criterion says something about a row, given what its comparisons say: this is `Criterion.holds`, and
`Requirement.holds` and `Filter.holds` beside it. A condition is a text, and what it says is found by
reading it. The two agree (`conditions_readBack`): whatever the criterion, its condition is read to
the end and as a formula with the same truth value, over atoms that are the criterion's own comparisons
with the column qualified and speeds in kbit/s.

`Means` carries this through the ways in which conditions are built. Every condition here binds like
an operand, so several of them can stand side by side in a `WHERE`.
-/

namespace Broadband

open Checks Sql

/-! ## What a query says about a row -/

/-- A value as it is compared with: speeds are in kbit/s. -/
def Value.term (field : Field) : Value → Term
  | .text s => .text s
  | .number n => .number (if field.isSpeed then 1000 * n else n)

/-- The comparison of a field with a value. -/
def Field.atom (qualifier : Option String) (field : Field) (op : Comparison) (value : Value) : Atom :=
  ⟨(Column.mk qualifier field.column).text, op, value.term field⟩

/-- A row meets a criterion, given which comparisons are true of it. -/
def Criterion.holds (qualifier : Option String) (v : Atom → Bool) : Criterion → Bool
  | .technology t negated =>
    negated ^^ v ⟨(Column.mk qualifier technologyColumn).text, .eq, .text t.stored⟩
  | .compare field op value negated => negated ^^ v (field.atom qualifier op value)
  | .join op left right => op.holds (left.holds qualifier v) (right.holds qualifier v)
  | .not inner => !inner.holds qualifier v

/-- A row meets a requirement: some branch, every branch or no branch. -/
def Requirement.holds (qualifier : Option String) (v : Atom → Bool) : Requirement → Bool
  | .single c => c.holds qualifier v
  | .quantified .any cs => cs.any (Criterion.holds qualifier v)
  | .quantified .all cs => cs.all (Criterion.holds qualifier v)
  | .quantified .none cs => !cs.any (Criterion.holds qualifier v)

/-- The comparison that puts a row into a segment. -/
def Segment.atom (qualifier : Option String) : Segment → Atom
  | .urban => ⟨(Column.mk qualifier "ertett").text, .eq, .name "true"⟩
  | .rural => ⟨(Column.mk qualifier "ertett").text, .eq, .name "false"⟩
  | .residential => ⟨(Column.mk qualifier "privat").text, .eq, .name "true"⟩
  | .business => ⟨(Column.mk qualifier "privat").text, .eq, .name "false"⟩

/-- A row passes a filter. -/
def Filter.holds (qualifier : Option String) (v : Atom → Bool) : Filter → Bool
  | .segment s => v (s.atom qualifier)
  | .compare field op value => v (field.atom qualifier op value)

/-- Something that a query asks of a row. -/
inductive RowTest
  | criterion (criterion : Criterion)
  | requirement (requirement : Requirement)
  | filter (filter : Filter)
  deriving DecidableEq, Repr

namespace RowTest

/-- The condition of a test. -/
def condition (qualifier : Option String) : RowTest → Except Rejection Condition
  | .criterion c => c.condition qualifier
  | .requirement r => r.condition qualifier
  | .filter f => f.condition qualifier

/-- A row passes a test. -/
def holds (qualifier : Option String) (v : Atom → Bool) : RowTest → Bool
  | .criterion c => c.holds qualifier v
  | .requirement r => r.holds qualifier v
  | .filter f => f.holds qualifier v

end RowTest

/-! ## Names -/

/-- The qualifier is an identifier, if there is one. -/
def Identifies (qualifier : Option String) : Prop := ∀ q ∈ qualifier, Identifier q

theorem isWordChar_of_mem_name {cs : List Char} (h : isName cs = true) :
    ∀ c ∈ cs, isWordChar c = true ∨ c = '.' := by
  cases cs with
  | nil => simp
  | cons c cs =>
    simp only [isName, Bool.and_eq_true, Bool.or_eq_true, List.all_eq_true, beq_iff_eq] at h
    rw [List.forall_mem_cons]
    refine ⟨.inl ?_, h.2⟩
    rcases h.1 with hc | hc
    · simp [isWordChar, hc]
    · simp [isWordChar, hc]

/-- An identifier is a word. -/
theorem Sql.Identifier.word {s : String} (h : Identifier s) : Word s := by
  have hchars : ∀ c ∈ s.toList, isWordChar c = true := by
    intro c hc
    rcases isWordChar_of_mem_name h.name c hc with hword | rfl
    · exact hword
    · exact absurd hc h.single
  refine ⟨?_, ?_, ?_⟩
  · intro c hc
    have hrange := toNat_of_isWordChar (hchars c hc)
    constructor
    · rintro rfl
      exact absurd hrange (by decide)
    · rintro rfl
      exact absurd hrange (by decide)
  · rintro rfl
    exact absurd h.name (by decide)
  · intro c hc
    have hrange := toNat_of_isWordChar (hchars c hc)
    constructor
    · rw [isGap, Bool.or_eq_false_iff, decide_eq_false_iff_not, decide_eq_false_iff_not]
      constructor
      · rintro rfl
        exact absurd hrange (by decide)
      · rintro rfl
        exact absurd hrange (by decide)
    · rintro rfl
      exact absurd hrange (by decide)

theorem Identifies.plain {qualifier : Option String} (h : Identifies qualifier) : Plain qualifier :=
  fun q hq => (h q hq).word

/-- A qualified name is a name: the point in it keeps it from being a keyword. -/
theorem Sql.Identifier.named {q name : String} (hq : Identifier q) (hname : Named name) :
    Named (q ++ "." ++ name) := by
  have hlist : (q ++ "." ++ name).toList = q.toList ++ '.' :: name.toList := by simp
  have hpoint : '.' ∈ (q ++ "." ++ name).toList := by simp [hlist]
  constructor
  · rw [hlist]
    have hqname := hq.name
    cases hcs : q.toList with
    | nil =>
      rw [hcs] at hqname
      cases hqname
    | cons c cs =>
      rw [hcs, isName, Bool.and_eq_true, List.all_eq_true] at hqname
      rw [List.cons_append, isName, hqname.1, Bool.true_and, List.all_eq_true]
      intro d hd
      rcases List.mem_append.1 hd with hd | hd
      · exact hqname.2 d hd
      · rcases List.mem_cons.1 hd with rfl | hd
        · decide
        · rcases isWordChar_of_mem_name hname.name d hd with hword | rfl
          · simp [hword]
          · decide
  · have hcapitals : '.' ∈ (String.ofList ((q ++ "." ++ name).toList.map Char.toUpper)).toList := by
      rw [String.toList_ofList, List.mem_map]
      exact ⟨'.', hpoint, rfl⟩
    have hne : ∀ keyword : String, '.' ∉ keyword.toList →
        String.ofList ((q ++ "." ++ name).toList.map Char.toUpper) ≠ keyword := by
      intro keyword hkeyword heq
      rw [heq] at hcapitals
      exact hkeyword hcapitals
    rw [Symbol.ofName]
    simp only [if_neg (hne "AND" (by decide)), if_neg (hne "OR" (by decide)),
      if_neg (hne "NOT" (by decide)), String.ofList_toList]

theorem named_column {qualifier : Option String} (hq : Identifies qualifier) {name : String}
    (hname : Named name) : Named (Column.mk qualifier name).text := by
  cases qualifier with
  | none => exact hname
  | some q => exact (hq q rfl).named hname

theorem Field.named_column (f : Field) : Named f.column := by
  cases f <;> decide

/-! ## Conditions that say what they should -/

/-- The condition is read as a formula with the given truth values, and binds like an operand. -/
structure Means (c : Condition) (truth : (Atom → Bool) → Bool) : Prop where
  readable : c.readable = true
  reads : ∃ f, Reads .operand c f ∧ ∀ v, f.holds v = truth v

section

variable {qualifier : Option String} {c d : Condition} {truth truth' : (Atom → Bool) → Bool}

/-- What the condition's text is read as. -/
theorem Means.formula? (h : Means c truth) :
    ∃ f, formula? c.text = some f ∧ ∀ v, f.holds v = truth v := by
  obtain ⟨f, hreads, hholds⟩ := h.reads
  exact ⟨f, hreads.formula? h.readable, hholds⟩

theorem Means.not (h : Means c truth) : Means (.not (.group c)) fun v => !truth v := by
  obtain ⟨f, hreads, hholds⟩ := h.reads
  refine ⟨h.readable, .not f, hreads.group.not, fun v => ?_⟩
  rw [Formula.holds, hholds]

theorem Means.negateIf (h : Means c truth) (negated : Bool) :
    Means (negateIf negated c) fun v => negated ^^ truth v := by
  cases negated with
  | false => simpa [Broadband.negateIf] using h
  | true => simpa [Broadband.negateIf] using h.not

theorem Means.join (op : Connective) (h : Means c truth) (h' : Means d truth') :
    Means (.group (.join op c d)) fun v => op.holds (truth v) (truth' v) := by
  obtain ⟨f, hreads, hholds⟩ := h.reads
  obtain ⟨g, hreads', hholds'⟩ := h'.reads
  refine ⟨?_, .join op f g, ((hreads.first op).join hreads').group, fun v => ?_⟩
  · simp [Condition.readable, h.readable, h'.readable]
  · rw [Formula.holds, hholds, hholds']

/-! ### Criteria and filters -/

theorem toKbps_eq {n m : Int} (h : toKbps n = .ok m) : m = 1000 * n := by
  unfold toKbps at h
  split at h
  · rw [← Except.ok.inj h, Int.mul_comm]
  · cases h

theorem Field.condition_means (hq : Identifies qualifier) {f : Field} {op : Comparison} {value : Value}
    (h : f.condition op value qualifier = .ok c) : Means c fun v => v (f.atom qualifier op value) := by
  refine ⟨(Field.condition_compared hq.plain h).1, ?_⟩
  obtain ⟨l, hl, rfl⟩ := map_eq_ok_iff.1 h
  refine ⟨_, reads_compare (Broadband.named_column hq f.named_column) op l, fun v => ?_⟩
  have hterm : l.term = value.term f := by
    cases value with
    | text s =>
      obtain rfl := Except.ok.inj hl
      rfl
    | number n =>
      simp only [Field.literal] at hl
      by_cases hspeed : f.isSpeed = true
      · rw [if_pos hspeed] at hl
        obtain ⟨m, hm, rfl⟩ := map_eq_ok_iff.1 hl
        rw [Literal.term, Value.term, if_pos hspeed, toKbps_eq hm]
      · rw [if_neg hspeed] at hl
        obtain rfl := Except.ok.inj hl
        rw [Literal.term, Value.term, if_neg hspeed]
  rw [Formula.holds, Field.atom, hterm]

theorem Criterion.condition_means (hq : Identifies qualifier) {x : Criterion}
    (h : x.condition qualifier = .ok c) : Means c fun v => x.holds qualifier v := by
  induction x generalizing c with
  | technology t negated =>
    obtain rfl := Except.ok.inj h
    have hleaf : Means (.compare ⟨qualifier, technologyColumn⟩ .eq (.literal (.text t.stored)))
        fun v => v ⟨(Column.mk qualifier technologyColumn).text, .eq, .text t.stored⟩ := by
      refine ⟨?_, _, reads_compare (named_column hq (by decide)) .eq _, fun _ => rfl⟩
      have hcolumn : Word technologyColumn := by decide
      simp [Condition.readable, Operand.readable, Column.readable_mk hq.plain hcolumn]
    exact hleaf.negateIf negated
  | compare field op value negated =>
    obtain ⟨inner, hinner, rfl⟩ := map_eq_ok_iff.1 h
    exact (Field.condition_means hq hinner).negateIf negated
  | join op left right ihl ihr =>
    obtain ⟨l, hl, hrest⟩ := bind_eq_ok_iff.1 h
    obtain ⟨r, hr, hcond⟩ := bind_eq_ok_iff.1 hrest
    obtain rfl := pure_eq_ok_iff.1 hcond
    exact (ihl hl).join op (ihr hr)
  | not inner ih =>
    obtain ⟨d, hd, hcond⟩ := bind_eq_ok_iff.1 h
    obtain rfl := pure_eq_ok_iff.1 hcond
    exact (ih hd).not

theorem Filter.condition_means (hq : Identifies qualifier) {f : Filter}
    (h : f.condition qualifier = .ok c) : Means c fun v => f.holds qualifier v := by
  cases f with
  | segment s =>
    refine ⟨(Filter.condition_compared hq.plain h).1, .atom (s.atom qualifier), ?_, fun _ => rfl⟩
    obtain rfl := Except.ok.inj h
    have htown : Named (Column.mk qualifier "ertett").text := named_column hq (by decide)
    have hhome : Named (Column.mk qualifier "privat").text := named_column hq (by decide)
    cases s with
    | urban => exact reads_compare htown .eq (.truth true)
    | rural => exact reads_compare htown .eq (.truth false)
    | residential => exact reads_compare hhome .eq (.truth true)
    | business => exact reads_compare hhome .eq (.truth false)
  | compare field op value => exact Field.condition_means hq h

/-! ### Several conditions -/

/-- Outcomes in the order of what they come from. -/
theorem forall₂_of_mapM {ε α β : Type} {f : α → Except ε β} {xs : List α} {ys : List β}
    (h : xs.mapM f = .ok ys) : List.Forall₂ (fun x y => f x = .ok y) xs ys := by
  induction xs generalizing ys with
  | nil =>
    obtain rfl := pure_eq_ok_iff.1 h
    exact .nil
  | cons x xs ih =>
    rw [List.mapM_cons] at h
    obtain ⟨y, hy, hrest⟩ := bind_eq_ok_iff.1 h
    obtain ⟨zs, hzs, hys⟩ := bind_eq_ok_iff.1 hrest
    obtain rfl := pure_eq_ok_iff.1 hys
    exact .cons hy (ih hzs)

/-- The formulas of several conditions. -/
theorem exists_formulas {α : Type} {truth : α → (Atom → Bool) → Bool} {xs : List α}
    {cs : List Condition} (h : List.Forall₂ (fun x c => Means c (truth x)) xs cs) :
    ∃ fs, List.Forall₂ (Reads .operand) cs fs ∧
      ∀ v, fs.map (·.holds v) = xs.map (truth · v) := by
  induction h with
  | nil => exact ⟨[], .nil, fun _ => rfl⟩
  | cons hc _ ih =>
    obtain ⟨f, hreads, hholds⟩ := hc.reads
    obtain ⟨fs, hreads', hholds'⟩ := ih
    refine ⟨f :: fs, .cons hreads hreads', fun v => ?_⟩
    rw [List.map_cons, List.map_cons, hholds, hholds']

/-- Conditions joined from the left by one word are read as their formulas joined so. -/
theorem reads_foldl {α : Type} {truth : α → (Atom → Bool) → Bool} (op : Connective) {x : α}
    {xs : List α} {cs : List Condition}
    (h : List.Forall₂ (fun x c => Means c (truth x)) (x :: xs) (c :: cs)) :
    ∃ f, Reads (joinRank op) (cs.foldl (.join op) c) f ∧
      ∀ v, f.holds v = (xs.map (truth · v)).foldl op.holds (truth x v) := by
  obtain ⟨hc, hcs⟩ := List.forall₂_cons.1 h
  obtain ⟨f, hreads, hholds⟩ := hc.reads
  obtain ⟨fs, hreads', hholds'⟩ := exists_formulas hcs
  refine ⟨fs.foldl (.join op) f, (hreads.first op).foldl hreads', fun v => ?_⟩
  rw [Formula.holds_foldl, hholds, hholds']

theorem readable_foldl (op : Connective) {cs : List Condition}
    (h : ∀ d ∈ c :: cs, d.readable = true) : (cs.foldl (.join op) c).readable = true := by
  have hall := (joinAll_compared op h).1
  cases cs with
  | nil => exact hall
  | cons d ds => exact hall

theorem forall_readable {α : Type} {truth : α → (Atom → Bool) → Bool} {xs : List α}
    {cs : List Condition} (h : List.Forall₂ (fun x c => Means c (truth x)) xs cs) :
    ∀ c ∈ cs, c.readable = true := by
  induction h with
  | nil => simp
  | cons hc _ ih => exact List.forall_mem_cons.2 ⟨hc.readable, ih⟩

/-- One or more conditions joined by one word; several of them are put in parentheses. -/
theorem Means.joinAll {α : Type} {truth : α → (Atom → Bool) → Bool} (op : Connective) {x : α}
    {xs : List α} {cs : List Condition}
    (h : List.Forall₂ (fun x c => Means c (truth x)) (x :: xs) (c :: cs)) :
    Means (.joinAll op c cs) fun v => (xs.map (truth · v)).foldl op.holds (truth x v) := by
  refine ⟨(joinAll_compared op (forall_readable h)).1, ?_⟩
  obtain ⟨f, hreads, hholds⟩ := reads_foldl op h
  cases h with
  | cons hc hcs =>
    cases hcs with
    | nil => exact hc.reads
    | cons _ _ => exact ⟨f, hreads.group, hholds⟩

theorem foldl_or {α : Type} (p : α → Bool) (b : Bool) (xs : List α) :
    (xs.map p).foldl Connective.or.holds b = (b || xs.any p) := by
  induction xs generalizing b with
  | nil => simp
  | cons x xs ih =>
    rw [List.map_cons, List.foldl_cons, ih, List.any_cons, ← Bool.or_assoc]
    rfl

theorem foldl_and {α : Type} (p : α → Bool) (b : Bool) (xs : List α) :
    (xs.map p).foldl Connective.and.holds b = (b && xs.all p) := by
  induction xs generalizing b with
  | nil => simp
  | cons x xs ih =>
    rw [List.map_cons, List.foldl_cons, ih, List.all_cons, ← Bool.and_assoc]
    rfl

/-- The opposite of a condition, which gets no second pair of parentheses. -/
theorem Means.not_grouped (h : Means c truth) : Means (.not c.grouped) fun v => !truth v := by
  cases c with
  | group inner =>
    obtain ⟨f, hreads, hholds⟩ := h.reads
    refine ⟨h.readable, .not f, hreads.not, fun v => ?_⟩
    rw [Formula.holds, hholds]
  | _ => exact h.not

/-! ### Requirements -/

theorem Requirement.holds_eq (r : Requirement) (v : Atom → Bool) :
    r.holds qualifier v = match r.branches.1 with
      | .any => r.branches.2.any (Criterion.holds qualifier v)
      | .all => r.branches.2.all (Criterion.holds qualifier v)
      | .none => !r.branches.2.any (Criterion.holds qualifier v) := by
  cases r with
  | single x => simp [Requirement.holds, Requirement.branches]
  | quantified q xs => cases q <;> rfl

theorem Requirement.condition_means (hq : Identifies qualifier) {r : Requirement}
    (h : r.condition qualifier = .ok c) : Means c fun v => r.holds qualifier v := by
  simp only [Requirement.holds_eq]
  unfold Requirement.condition at h
  generalize r.branches = branches at h ⊢
  obtain ⟨quantifier, criteria⟩ := branches
  obtain ⟨conds, hconds, hcond⟩ := bind_eq_ok_iff.1 h
  have hall : List.Forall₂ (fun x c => Means c fun v => Criterion.holds qualifier v x) criteria conds :=
    (forall₂_of_mapM hconds).imp fun x c hx => Criterion.condition_means hq hx
  cases conds with
  | nil => exact absurd hcond throw_ne_ok
  | cons first rest =>
    obtain ⟨x, xs, -, -, rfl⟩ := List.forall₂_cons_right_iff.1 hall
    obtain rfl := pure_eq_ok_iff.1 hcond
    cases quantifier with
    | any =>
      have hany := Means.joinAll .or hall
      simpa only [foldl_or, ← List.any_cons] using hany
    | all =>
      have hevery := Means.joinAll .and hall
      simpa only [foldl_and, ← List.all_cons] using hevery
    | none =>
      have hnone := (Means.joinAll .or hall).not_grouped
      simpa only [foldl_or, ← List.any_cons] using hnone

theorem RowTest.condition_means (hq : Identifies qualifier) {x : RowTest}
    (h : x.condition qualifier = .ok c) : Means c fun v => x.holds qualifier v := by
  cases x with
  | criterion x => exact Criterion.condition_means hq h
  | requirement r => exact Requirement.condition_means hq h
  | filter f => exact Filter.condition_means hq h

/-- Tests side by side are read as their conjunction. -/
theorem formula?_intercalate (hq : Identifies qualifier) {xs : List RowTest} {cs : List Condition}
    (hxs : xs ≠ []) (h : xs.mapM (RowTest.condition qualifier) = .ok cs) :
    ∃ f, formula? (" AND ".intercalate (cs.map Condition.text)) = some f ∧
      ∀ v, f.holds v = xs.all (RowTest.holds qualifier v) := by
  have hall : List.Forall₂ (fun x c => Means c fun v => RowTest.holds qualifier v x) xs cs :=
    (forall₂_of_mapM h).imp fun x c hx => RowTest.condition_means hq hx
  cases xs with
  | nil => exact absurd rfl hxs
  | cons x xs =>
    obtain ⟨first, rest, -, -, rfl⟩ := List.forall₂_cons_left_iff.1 hall
    obtain ⟨f, hreads, hholds⟩ := reads_foldl .and hall
    refine ⟨f, ?_, fun v => ?_⟩
    · have htext := Condition.text_foldl_join .and first rest
      rw [List.map_cons]
      exact htext ▸ hreads.formula? (readable_foldl .and (forall_readable hall))
    · rw [hholds, foldl_and, ← List.all_cons]

end

/-! ## Which criteria have a condition -/

/-- The value can be put into the unit of the field's column. -/
def Field.Fits (field : Field) (value : Value) : Prop :=
  ∀ n, value = .number n → field.isSpeed = true →
    -9223372036854775808 ≤ 1000 * n ∧ 1000 * n ≤ 9223372036854775807

/-- Every speed of the criterion fits. -/
def Criterion.Fits : Criterion → Prop
  | .technology _ _ => True
  | .compare field _ value _ => field.Fits value
  | .join _ left right => left.Fits ∧ right.Fits
  | .not inner => inner.Fits

theorem Field.exists_condition_iff {f : Field} {op : Comparison} {value : Value}
    {qualifier : Option String} :
    (∃ c, f.condition op value qualifier = .ok c) ↔ f.Fits value := by
  have hcondition : (∃ c, f.condition op value qualifier = .ok c) ↔ ∃ l, f.literal value = .ok l := by
    simp only [Field.condition, map_eq_ok_iff]
    exact ⟨fun ⟨_, l, hl, _⟩ => ⟨l, hl⟩, fun ⟨l, hl⟩ => ⟨_, l, hl, rfl⟩⟩
  rw [hcondition]
  cases value with
  | text s =>
    refine ⟨fun _ n hn => ?_, fun _ => ⟨_, rfl⟩⟩
    cases hn
  | number n =>
    by_cases hspeed : f.isSpeed = true
    · have hfits : Text.fitsInt64 (n * 1000) = true ↔
          -9223372036854775808 ≤ 1000 * n ∧ 1000 * n ≤ 9223372036854775807 := by
        rw [Text.fitsInt64, Bool.and_eq_true, decide_eq_true_iff, decide_eq_true_iff]
        omega
      rw [Field.literal, if_pos hspeed, toKbps]
      constructor
      · rintro ⟨l, hl⟩ m hm -
        obtain rfl := Value.number.inj hm
        obtain ⟨k, hk, -⟩ := map_eq_ok_iff.1 hl
        split at hk
        · exact hfits.1 ‹_›
        · cases hk
      · intro h
        rw [if_pos (hfits.2 (h n rfl hspeed))]
        exact ⟨_, rfl⟩
    · rw [Field.literal, if_neg hspeed]
      exact ⟨fun _ m _ h => absurd h hspeed, fun _ => ⟨_, rfl⟩⟩

theorem Criterion.exists_condition_iff {qualifier : Option String} (x : Criterion) :
    (∃ c, x.condition qualifier = .ok c) ↔ x.Fits := by
  induction x with
  | technology t negated => exact ⟨fun _ => trivial, fun _ => ⟨_, rfl⟩⟩
  | compare field op value negated =>
    have hfield : (∃ c, field.condition op value qualifier = .ok c) ↔ field.Fits value :=
      Field.exists_condition_iff
    rw [Criterion.Fits, ← hfield]
    simp only [Criterion.condition, map_eq_ok_iff]
    exact ⟨fun ⟨_, c, hc, _⟩ => ⟨c, hc⟩, fun ⟨c, hc⟩ => ⟨_, c, hc, rfl⟩⟩
  | join op left right ihl ihr =>
    rw [Criterion.Fits, ← ihl, ← ihr]
    simp only [Criterion.condition, bind_eq_ok_iff]
    exact ⟨fun ⟨_, l, hl, r, hr, _⟩ => ⟨⟨l, hl⟩, r, hr⟩, fun ⟨⟨l, hl⟩, r, hr⟩ => ⟨_, l, hl, r, hr, rfl⟩⟩
  | not inner ih =>
    rw [Criterion.Fits, ← ih]
    simp only [Criterion.condition, bind_eq_ok_iff]
    exact ⟨fun ⟨_, c, hc, _⟩ => ⟨c, hc⟩, fun ⟨c, hc⟩ => ⟨_, c, hc, rfl⟩⟩

/-- A list has outcomes if every element has one. -/
theorem exists_mapM_iff {ε α β : Type} {f : α → Except ε β} {xs : List α} :
    (∃ ys, xs.mapM f = .ok ys) ↔ ∀ x ∈ xs, ∃ y, f x = .ok y := by
  induction xs with
  | nil => exact ⟨fun _ x hx => absurd hx List.not_mem_nil, fun _ => ⟨[], rfl⟩⟩
  | cons x xs ih =>
    rw [List.forall_mem_cons, ← ih, List.mapM_cons]
    simp only [bind_eq_ok_iff]
    exact ⟨fun ⟨_, y, hy, ys, hys, _⟩ => ⟨⟨y, hy⟩, ys, hys⟩,
      fun ⟨⟨y, hy⟩, ys, hys⟩ => ⟨_, y, hy, ys, hys, rfl⟩⟩

/-- A requirement has a condition if it has branches and every one of them does. -/
theorem Requirement.exists_condition_iff {qualifier : Option String} (r : Requirement) :
    (∃ c, r.condition qualifier = .ok c) ↔ r.branches.2 ≠ [] ∧ ∀ x ∈ r.branches.2, x.Fits := by
  have hbranches : (∃ cs, r.branches.2.mapM (Criterion.condition qualifier) = .ok cs) ↔
      ∀ x ∈ r.branches.2, x.Fits := by
    rw [exists_mapM_iff]
    exact forall₂_congr fun x _ => x.exists_condition_iff
  rw [← hbranches]
  unfold Requirement.condition
  generalize r.branches = branches
  obtain ⟨quantifier, criteria⟩ := branches
  constructor
  · rintro ⟨c, h⟩
    obtain ⟨conds, hconds, hcond⟩ := bind_eq_ok_iff.1 h
    refine ⟨?_, conds, hconds⟩
    rintro rfl
    obtain rfl := pure_eq_ok_iff.1 hconds
    exact throw_ne_ok hcond
  · rintro ⟨hne, conds, hconds⟩
    cases conds with
    | nil => cases forall₂_of_mapM hconds; exact absurd rfl hne
    | cons first rest => exact ⟨_, bind_eq_ok_iff.2 ⟨_, hconds, rfl⟩⟩

/-! ## The main statement -/

/-- The lines of a `SELECT` in front of its `WHERE`. -/
def Sql.Select.front {Source : Type} (sourceText : Source → String) (s : Select Source) : String :=
  Select.text sourceText { columns := s.columns, source := s.source, joins := s.joins }

/-- The lines of a `SELECT` behind its `WHERE`. -/
def Sql.Select.back {Source : Type} (s : Select Source) : String :=
  clauseLine "GROUP BY" ", " (s.groupBy.map Scalar.text) ++
    clauseLine "ORDER BY" ", " (s.orderBy.map OrderKey.text) ++
    clauseLine "LIMIT" "" (s.limit.toList.map toString)

theorem Sql.Select.text_eq {Source : Type} (sourceText : Source → String) (s : Select Source)
    (h : s.filters ≠ []) :
    s.text sourceText = s.front sourceText ++ "\nWHERE " ++
      " AND ".intercalate (s.filters.map Predicate.text) ++ s.back := by
  have hwhere : clauseLine "WHERE" " AND " (s.filters.map Predicate.text)
      = "\nWHERE " ++ " AND ".intercalate (s.filters.map Predicate.text) := by
    rw [clauseLine, if_neg (by simpa using h)]
    rfl
  rw [Select.text, Clauses.text, hwhere, front, Select.text, Clauses.text, back]
  simp [clauseLine, String.append_assoc]

/-- **Conditions say what the query says.** With an identifier as qualifier or with none, a criterion
has a condition exactly if its speeds fit; the text of the condition is read to its end, as a formula
that is true exactly when the criterion holds, whichever comparisons are true. The same goes for a
requirement that has branches, and what a `SELECT` has in its `WHERE` is read as the conjunction of the
tests that it was made from. -/
theorem conditions_readBack (qualifier : Option String) (hq : Identifies qualifier) :
    (∀ x : Criterion, ((∃ c, x.condition qualifier = .ok c) ↔ x.Fits) ∧
      ∀ c, x.condition qualifier = .ok c →
        ∃ f, formula? c.text = some f ∧ ∀ v, f.holds v = x.holds qualifier v) ∧
    (∀ r : Requirement,
      ((∃ c, r.condition qualifier = .ok c) ↔ r.branches.2 ≠ [] ∧ ∀ x ∈ r.branches.2, x.Fits) ∧
      ∀ c, r.condition qualifier = .ok c →
        ∃ f, formula? c.text = some f ∧ ∀ v, f.holds v = r.holds qualifier v) ∧
    ∀ (tests : List RowTest) (cs : List Condition), tests ≠ [] →
      tests.mapM (RowTest.condition qualifier) = .ok cs →
      ∀ {Source : Type} (sourceText : Source → String) (s : Select Source),
        s.filters = cs.map .holds →
        ∃ w f, s.text sourceText = s.front sourceText ++ "\nWHERE " ++ w ++ s.back ∧
          formula? w = some f ∧ ∀ v, f.holds v = tests.all (RowTest.holds qualifier v) := by
  refine ⟨fun x => ⟨x.exists_condition_iff, fun c hc => ?_⟩,
    fun r => ⟨r.exists_condition_iff, fun c hc => ?_⟩, ?_⟩
  · exact (Criterion.condition_means hq hc).formula?
  · exact (Requirement.condition_means hq hc).formula?
  · intro tests cs hne hcs Source sourceText s hs
    obtain ⟨f, hread, hholds⟩ := formula?_intercalate hq hne hcs
    refine ⟨_, f, ?_, hread, hholds⟩
    have hfilters : s.filters ≠ [] := by
      rw [hs]
      intro hnil
      have hlength := (forall₂_of_mapM hcs).length_eq
      rw [List.map_eq_nil_iff.1 hnil] at hlength
      exact hne (List.length_eq_zero_iff.1 hlength)
    rw [s.text_eq sourceText hfilters, hs, List.map_map]
    rfl

/-- A criterion with a text that looks like a condition, and with a speed. -/
def Criterion.devious : Criterion :=
  .not (.join .or (.compare .provider .ne (.text "a' OR (b") false)
    (.compare .download .ge (.number 100) true))

/-- What it says of a row of the table `d`. -/
def Criterion.deviousHolds (v : Atom → Bool) : Bool :=
  !(v ⟨"d.tilb", .ne, .text "a' OR (b"⟩ || !v ⟨"d.ned", .ge, .number 100000⟩)

theorem conditions_readBack_devious :
    Identifies (some "d") ∧
      (∃ c, Criterion.devious.condition (some "d") = .ok c ∧
        c.text = "NOT ((d.tilb != 'a'' OR (b' OR NOT (d.ned >= 100000)))" ∧
        ∃ f, formula? c.text = some f ∧ ∀ v, f.holds v = Criterion.deviousHolds v) ∧
      (∃ c, (Requirement.quantified .none [.devious]).condition (some "d") = .ok c ∧
        ∃ f, formula? c.text = some f ∧ ∀ v, f.holds v = !Criterion.deviousHolds v) ∧
      ∃ cs, [RowTest.criterion .devious, .filter (.segment .urban)].mapM
          (RowTest.condition (some "d")) = .ok cs ∧
        ∃ w f, Select.text Table.text { source := ⟨"dekning", some "d"⟩, filters := cs.map .holds }
            = "SELECT *\nFROM dekning d" ++ "\nWHERE " ++ w ∧ formula? w = some f ∧
          ∀ v, f.holds v = (Criterion.deviousHolds v && v ⟨"d.ertett", .eq, .name "true"⟩) := by
  have hq : Identifies (some "d") := by
    intro q hq
    obtain rfl := Option.some.inj hq
    decide
  have hdevious : ∀ v, Criterion.devious.holds (some "d") v = Criterion.deviousHolds v := by
    intro v
    change (!((false ^^ v ⟨"d.tilb", .ne, .text "a' OR (b"⟩) ||
      (true ^^ v ⟨"d.ned", .ge, .number 100000⟩))) = _
    simp [Criterion.deviousHolds]
  obtain ⟨hcriterion, hrequirement, htests⟩ := conditions_readBack (some "d") hq
  refine ⟨hq, ⟨_, rfl, by decide +kernel, ?_⟩, ⟨_, rfl, ?_⟩, ⟨_, rfl, ?_⟩⟩
  · obtain ⟨f, hread, hholds⟩ := (hcriterion .devious).2 _ rfl
    exact ⟨f, hread, fun v => by rw [hholds, hdevious]⟩
  · obtain ⟨f, hread, hholds⟩ := (hrequirement (.quantified .none [.devious])).2 _ rfl
    exact ⟨f, hread, fun v => by simp [hholds, Requirement.holds, hdevious]⟩
  · obtain ⟨w, f, htext, hread, hholds⟩ :=
      htests [.criterion .devious, .filter (.segment .urban)] _ (by simp) rfl Table.text
        { source := ⟨"dekning", some "d"⟩, filters := _ } rfl
    refine ⟨w, f, ?_, hread, fun v => ?_⟩
    · -- nothing stands behind the `WHERE`
      exact htext.trans String.append_empty
    · rw [hholds]
      change (Criterion.devious.holds (some "d") v && (v ⟨"d.ertett", .eq, .name "true"⟩ && true)) = _
      rw [hdevious, Bool.and_true]

end Broadband
