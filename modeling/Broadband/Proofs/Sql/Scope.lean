import Broadband.Sql.Statement
import Mathlib.Data.List.Basic

/-!
# What a statement reads

A statement reads data files in the tables that are made of them, and everywhere else it reads tables.
If each table reads only tables that are defined before it (`ReadsEarlier`), and no two have the same
name, then nothing but those tables can reach a file: the statement is closed. `Statement.Outline` says
this of a statement, together with the tables that are made of files and the places where the year of a
row is compared with constants.

The tables of a report are put together from several lists, so the same is said of a part of the tables
(`Outline`), which may read what is known before it.
-/

namespace Broadband.Sql

/-! ## Tables -/

/-- The tables that a predicate looks into. -/
def Predicate.tables : Predicate → List String
  | .holds _ => []
  | .within _ s | .outside _ s => [s.table.name]
  | .withinEach _ ss => ss.map (·.table.name)

/-- The tables that a `SELECT` reads, given those of its source. -/
def Select.tables {Source : Type} (sourceTables : Source → List String) (s : Select Source) :
    List String :=
  sourceTables s.source ++ s.joins.map (·.table.name) ++ s.filters.flatMap Predicate.tables

/-- The table that a source is taken from. -/
def Source.tables : Source → List String
  | .table t | .distinct _ t _ => [t.name]

/-- The tables that a named table reads. Data files are no tables. -/
def Body.tables : Body → List String
  | .files _ => []
  | .select s => s.tables Source.tables
  | .nested s => s.tables fun d => d.inner.tables Source.tables
  | .union names => names

/-- Every table reads only what is known or defined before it. -/
def ReadsEarlier : List String → List Definition → Prop
  | _, [] => True
  | known, d :: ds => (∀ t ∈ d.body.tables, t ∈ known) ∧ ReadsEarlier (known ++ [d.name]) ds

theorem readsEarlier_append {known : List String} {ds es : List Definition} :
    ReadsEarlier known (ds ++ es) ↔
      ReadsEarlier known ds ∧ ReadsEarlier (known ++ ds.map (·.name)) es := by
  induction ds generalizing known with
  | nil => simp [ReadsEarlier]
  | cons d ds ih =>
    rw [List.cons_append, ReadsEarlier, ReadsEarlier, ih, and_assoc, List.map_cons, List.append_assoc,
      List.singleton_append]

/-! ## Files -/

/-- The table is made of data files. -/
def Body.isFiles : Body → Bool
  | .files _ => true
  | _ => false

/-- The names and the texts of the tables that are made of data files. -/
def fileTables (ds : List Definition) : List (String × String) :=
  (ds.filter (·.body.isFiles)).map fun d => (d.name, d.body.text)

/-! ## Years -/

/-- The comparisons of a year with constants in a condition. -/
def Condition.yearTests : Condition → List Condition
  | .compare c op (.literal l) => if c.name = "aar" then [.compare c op (.literal l)] else []
  | .oneOf c ls => if c.name = "aar" then [.oneOf c ls] else []
  | .join _ left right => left.yearTests ++ right.yearTests
  | .not inner | .group inner => inner.yearTests
  | _ => []

/-- The comparisons of a year with constants in a predicate, also in its subqueries. -/
def Predicate.yearTests : Predicate → List Condition
  | .holds c => c.yearTests
  | .within _ s | .outside _ s => s.conditions.flatMap Condition.yearTests
  | .withinEach _ ss => ss.flatMap fun s => s.conditions.flatMap Condition.yearTests

/-- The comparisons of a year with constants by which a `SELECT` picks rows, given those of its
source. -/
def Select.yearTests {Source : Type} (sourceTests : Source → List Condition) (s : Select Source) :
    List Condition :=
  sourceTests s.source ++ s.joins.flatMap (·.conditions.flatMap Condition.yearTests) ++
    s.filters.flatMap Predicate.yearTests

/-- The comparisons of a year with constants by which a named table picks rows. -/
def Body.yearTests : Body → List Condition
  | .files _ | .union _ => []
  | .select s => s.yearTests fun _ => []
  | .nested s => s.yearTests fun d => d.inner.yearTests fun _ => []

/-- The texts of tests of the year, with the table that they are in. -/
def testTexts (name : Option String) (tests : List Condition) : List (Option String × String) :=
  tests.map fun c => (name, c.text)

/-- The tests of the year in named tables. -/
def yearTests (ds : List Definition) : List (Option String × String) :=
  ds.flatMap fun d => testTexts (some d.name) d.body.yearTests

/-! ## Outlines -/

/-- The tables read what is known or defined before them; these are their files and tests of the
year. -/
structure Outline (known : List String) (ds : List Definition) (files : List (String × String))
    (tests : List (Option String × String)) : Prop where
  earlier : ReadsEarlier known ds
  files_eq : fileTables ds = files
  tests_eq : yearTests ds = tests

section

variable {known : List String} {ds es : List Definition} {files files' : List (String × String)}
  {tests tests' : List (Option String × String)}

theorem Outline.append (h : Outline known ds files tests)
    (h' : Outline (known ++ ds.map (·.name)) es files' tests') :
    Outline known (ds ++ es) (files ++ files') (tests ++ tests') := by
  refine ⟨readsEarlier_append.2 ⟨h.earlier, h'.earlier⟩, ?_, ?_⟩
  · rw [← h.files_eq, ← h'.files_eq, fileTables, List.filter_append, List.map_append]
    rfl
  · rw [← h.tests_eq, ← h'.tests_eq, yearTests, List.flatMap_append]
    rfl

/-- Tables without files and tests of the year. -/
theorem Outline.append_rows (h : Outline known ds files tests)
    (h' : Outline (known ++ ds.map (·.name)) es [] []) : Outline known (ds ++ es) files tests := by
  have hall := h.append h'
  rwa [List.append_nil, List.append_nil] at hall

/-- A table made of files. -/
theorem outline_files (known : List String) (name : String) (fs : List YearFile) :
    Outline known [⟨name, .files fs⟩] [(name, (Body.files fs).text)] [] :=
  ⟨⟨by simp [Body.tables], trivial⟩, rfl, rfl⟩

/-- A table made of other tables. -/
theorem outline_body {name : String} {body : Body} (hfiles : body.isFiles = false)
    (htables : ∀ t ∈ body.tables, t ∈ known) (htests : testTexts (some name) body.yearTests = tests) :
    Outline known [⟨name, body⟩] [] tests := by
  refine ⟨⟨htables, trivial⟩, ?_, ?_⟩
  · simp [fileTables, hfiles]
  · simp [Sql.yearTests, htests]

/-- The `SELECT` takes all rows of one table. -/
structure Select.Takes (s : Select Source) (table : String) : Prop where
  source : s.source.tables = [table]
  joins : s.joins = []
  filters : s.filters = []

theorem Select.Takes.tables_eq {s : Select Source} {table : String} (h : s.Takes table) :
    s.tables Source.tables = [table] := by
  rw [Select.tables, h.source, h.joins, h.filters]
  rfl

theorem Select.Takes.yearTests_eq {s : Select Source} {table : String} (h : s.Takes table) :
    (s.yearTests fun _ => []) = [] := by
  rw [Select.yearTests, h.joins, h.filters]
  rfl

theorem Select.Takes.outline {s : Select Source} {table : String} (h : s.Takes table)
    (hknown : table ∈ known) (name : String) : Outline known [⟨name, .select s⟩] [] [] := by
  refine outline_body rfl ?_ ?_
  · rw [Body.tables, h.tables_eq]
    exact List.forall_mem_singleton.2 hknown
  · rw [Body.yearTests, h.yearTests_eq]
    rfl

theorem outline_union {name : String} {tables : List String} (h : ∀ t ∈ tables, t ∈ known) :
    Outline known [⟨name, .union tables⟩] [] [] :=
  outline_body rfl h rfl

/-- A statement is closed, and these are its files and its tests of the year. -/
structure Statement.Outline (s : Statement) (files : List (String × String))
    (tests : List (Option String × String)) : Prop where
  distinct : (s.tables.map (·.name)).Nodup
  earlier : ReadsEarlier [] s.tables
  main : ∀ t ∈ s.main.tables Source.tables, t ∈ s.tables.map (·.name)
  files_eq : fileTables s.tables = files
  tests_eq : yearTests s.tables ++ testTexts none (s.main.yearTests fun _ => []) = tests

theorem Outline.statement (h : Outline [] ds files tests) (hnames : (ds.map (·.name)).Nodup)
    {main : Select Source} {table : String} (hmain : main.Takes table)
    (htable : table ∈ ds.map (·.name)) : Statement.Outline ⟨ds, main⟩ files tests := by
  refine ⟨hnames, h.earlier, ?_, h.files_eq, ?_⟩
  · rw [hmain.tables_eq]
    exact List.forall_mem_singleton.2 htable
  · rw [hmain.yearTests_eq, h.tests_eq]
    exact List.append_nil _

end

end Broadband.Sql
