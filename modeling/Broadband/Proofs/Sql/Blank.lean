import Broadband.Proofs.Sql.Readable

/-!
# Statements without the texts they compare

Two statements may differ in nothing but the texts that columns are compared with. Leaving these out
(`blank`) makes them equal, and as a text only fills the inside of a literal, what is written around
the literals is then the same in both: `Statement.eraseLiterals_text` says so of the texts of the
statements.
-/

namespace Broadband.Sql

/-! ## Leaving texts out -/

/-- A constant with an empty text in place of any text. -/
def Literal.blank : Literal → Literal
  | .text _ => .text ""
  | l => l

/-- An operand with empty texts. -/
def Operand.blank : Operand → Operand
  | .literal l => .literal l.blank
  | .column c => .column c

/-- A condition with empty texts. -/
def Condition.blank : Condition → Condition
  | .compare left op right => .compare left op right.blank
  | .join op left right => .join op left.blank right.blank
  | .not inner => .not inner.blank
  | .group inner => .group inner.blank
  | c => c

/-- A subquery with empty texts in its conditions. -/
def Subquery.blank (s : Subquery) : Subquery :=
  { s with conditions := s.conditions.map Condition.blank }

/-- A predicate with empty texts in its conditions. -/
def Predicate.blank : Predicate → Predicate
  | .holds c => .holds c.blank
  | .within key s => .within key s.blank
  | .outside key s => .outside key s.blank
  | .withinEach key ss => .withinEach key (ss.map Subquery.blank)

/-- A value with empty texts in its conditions. -/
def Scalar.blank : Scalar → Scalar
  | .sum x => .sum x.blank
  | .average x => .average x.blank
  | .percent x => .percent x.blank
  | .percentage part whole => .percentage part.blank whole.blank
  | .onlyIf c x => .onlyIf c.blank x.blank
  | .ifElse c yes no => .ifElse c.blank yes.blank no.blank
  | x => x

/-- A column of the answer with empty texts in its conditions. -/
def Item.blank (i : Item) : Item := { i with value := i.value.blank }

/-- A `SELECT` with empty texts in the conditions of its columns and filters. -/
def Select.blank {Source : Type} (s : Select Source) : Select Source :=
  { s with columns := s.columns.map Item.blank, filters := s.filters.map Predicate.blank }

/-- What a named table holds, with empty texts. -/
def Body.blank : Body → Body
  | .select s => .select s.blank
  | b => b

/-- A named table with empty texts. -/
def Definition.blank (d : Definition) : Definition := { d with body := d.body.blank }

/-- A statement with empty texts in its named tables. -/
def Statement.blank (s : Statement) : Statement := { s with tables := s.tables.map Definition.blank }

/-! ## What is written around the texts -/

theorem map_blank_joined (separator : String) (mss : List (List Mark)) :
    (joined separator mss).map Mark.blank
      = joined separator (mss.map (List.map Mark.blank)) := by
  rw [joined, map_intercalate, map_blank_plain, joined]

/-- Leaving texts out of every one of some parts. -/
theorem map_blank_joined_map {α : Type} {marks : α → List Mark} {blank : α → α} (separator : String)
    {xs : List α} (h : ∀ x ∈ xs, (marks (blank x)).map Mark.blank = (marks x).map Mark.blank) :
    (joined separator ((xs.map blank).map marks)).map Mark.blank
      = (joined separator (xs.map marks)).map Mark.blank := by
  rw [map_blank_joined, map_blank_joined]
  congr 1
  simpa using h

theorem Operand.map_blank_marks (o : Operand) :
    o.blank.marks.map Mark.blank = o.marks.map Mark.blank := by
  cases o with
  | column c => rfl
  | literal l => cases l <;> rfl

theorem Condition.map_blank_marks (c : Condition) :
    c.blank.marks.map Mark.blank = c.marks.map Mark.blank := by
  induction c with
  | compare left op right => simp [blank, marks, right.map_blank_marks]
  | join op left right ihl ihr => simp [blank, marks, ihl, ihr]
  | not inner ih => simp [blank, marks, ih]
  | group inner ih => simp [blank, marks, ih]
  | truth c => rfl
  | oneOf left choices => rfl
  | verbatim s => rfl

theorem Subquery.map_blank_marks (s : Subquery) :
    s.blank.marks.map Mark.blank = s.marks.map Mark.blank := by
  have hconditions := map_blank_joined_map " AND " fun c (_ : c ∈ s.conditions) => c.map_blank_marks
  simp only [blank, marks, List.map_append, hconditions]

theorem Predicate.map_blank_marks (p : Predicate) :
    p.blank.marks.map Mark.blank = p.marks.map Mark.blank := by
  cases p with
  | holds c => exact c.map_blank_marks
  | within key s => simp only [blank, marks, List.map_append, s.map_blank_marks]
  | outside key s => simp only [blank, marks, List.map_append, s.map_blank_marks]
  | withinEach key ss =>
    have hss := map_blank_joined_map "\n  INTERSECT\n  " fun s (_ : s ∈ ss) => s.map_blank_marks
    simp only [blank, marks, List.map_append, hss]

theorem Scalar.map_blank_marks (x : Scalar) :
    x.blank.marks.map Mark.blank = x.marks.map Mark.blank := by
  induction x with
  | sum x ih => simp only [blank, marks, List.map_append, ih]
  | average x ih => simp only [blank, marks, List.map_append, ih]
  | percent x ih => simp only [blank, marks, List.map_append, ih]
  | percentage part whole ihp ihw => simp only [blank, marks, List.map_append, ihp, ihw]
  | onlyIf c x ih => simp only [blank, marks, List.map_append, c.map_blank_marks, ih]
  | ifElse c yes no ihy ihn =>
    simp only [blank, marks, List.map_append, c.map_blank_marks, ihy, ihn]
  | column c => rfl
  | literal l => rfl
  | countRows => rfl
  | coalesce choices => rfl
  | sizeRank among tie => rfl

theorem Item.map_blank_marks (i : Item) :
    i.blank.marks.map Mark.blank = i.marks.map Mark.blank := by
  simp only [blank, marks, List.map_append, i.value.map_blank_marks]

theorem Select.map_blank_marks {Source : Type} (sourceText : Source → String) (s : Select Source) :
    (s.blank.marks sourceText).map Mark.blank = (s.marks sourceText).map Mark.blank := by
  have hcolumns := map_blank_joined_map ", " fun i (_ : i ∈ s.columns) => i.map_blank_marks
  have hfilters := map_blank_joined_map " AND " fun p (_ : p ∈ s.filters) => p.map_blank_marks
  have hselect : (if s.blank.columns.isEmpty then plain "SELECT *"
      else plain "SELECT " ++ joined ", " (s.blank.columns.map Item.marks)).map Mark.blank
      = (if s.columns.isEmpty then plain "SELECT *"
        else plain "SELECT " ++ joined ", " (s.columns.map Item.marks)).map Mark.blank := by
    rw [show s.blank.columns = s.columns.map Item.blank from rfl, List.isEmpty_map]
    split
    · rfl
    · rw [List.map_append, List.map_append, hcolumns]
  have hwhere : (clauseMarks "WHERE" " AND " (s.blank.filters.map Predicate.marks)).map Mark.blank
      = (clauseMarks "WHERE" " AND " (s.filters.map Predicate.marks)).map Mark.blank := by
    rw [show s.blank.filters = s.filters.map Predicate.blank from rfl]
    simp only [clauseMarks, List.isEmpty_map]
    split
    · rfl
    · rw [List.map_append, List.map_append, hfilters]
  simp only [marks, List.map_append, hselect, hwhere]
  rfl

theorem Definition.map_blank_marks (d : Definition) :
    d.blank.marks.map Mark.blank = d.marks.map Mark.blank := by
  have hbody : d.body.blank.marks.map Mark.blank = d.body.marks.map Mark.blank := by
    cases d.body with
    | select s => exact s.map_blank_marks Source.text
    | files fs => rfl
    | nested s => rfl
    | union tables => rfl
  simp only [blank, marks, List.map_append, map_blank_indentMarks, hbody]

theorem map_blank_definitionMarks (ds : List Definition) :
    (definitionMarks (ds.map Definition.blank)).map Mark.blank
      = (definitionMarks ds).map Mark.blank := by
  fun_induction definitionMarks ds with
  | case1 => rfl
  | case2 d =>
    simp only [List.map_cons, List.map_nil, definitionMarks, List.map_append, d.map_blank_marks]
  | case3 d ds hne ih =>
    cases ds with
    | nil => exact absurd rfl hne
    | cons e es =>
      simp only [List.map_cons, definitionMarks, List.map_append, d.map_blank_marks] at ih ⊢
      rw [ih]

theorem Statement.map_blank_marks (s : Statement) :
    s.blank.marks.map Mark.blank = s.marks.map Mark.blank := by
  simp only [blank, marks, List.map_append, map_blank_definitionMarks, List.isEmpty_map]

/-- **Texts do not change what is written around them.** Statements that differ only in the texts
they compare have the same text once the content of literals is erased. -/
theorem Statement.eraseLiterals_text {s t : Statement} (hs : s.Readable) (ht : t.Readable)
    (h : s.blank = t.blank) : eraseLiterals s.text = eraseLiterals t.text := by
  apply eraseLiterals_congr
  -- a reader takes both texts apart into the marks of the statements, whatever the literals hold
  rw [read_text hs, read_text ht, ← s.map_blank_marks, h, t.map_blank_marks]

end Broadband.Sql
