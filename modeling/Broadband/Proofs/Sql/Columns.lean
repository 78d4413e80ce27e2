import Broadband.Proofs.Sql.Scope

/-!
# The columns of a statement

Which columns a named table has can be read off the statement, unless the table is made of data files: then
the files decide. A `SELECT` exports what it lists under the names that it gives, or all that it reads, and
a union exports what its first table does. So a statement can be followed from its first table to its last,
with what every table exports (`Scoped`), and it can be said of each place where a column is used that a
table in view has it.

A column may be called by the short name of its table or without one. Tables in view have short names too,
so what is in view at some place is of the same kind as what has been defined: names with columns.
-/

namespace Broadband.Sql

/-! ## What tables export -/

/-- The names of columns in their order; none if they are up to data files. -/
abbrev Columns := Option (List String)

/-- Tables by their names, with their columns. -/
abbrev Scope := List (String × Columns)

/-- The columns of a table. What is no table has none of them. -/
def Scope.columnsOf (scope : Scope) (table : String) : Columns := (scope.lookup table).getD (some [])

/-- The name under which a column of the answer is exported. -/
def Item.label (i : Item) : String :=
  match i.name, i.value with
  | some name, _ => name
  | none, .column c => c.name
  | none, value => value.text

/-- A table as it comes into view. -/
def Table.bound (scope : Scope) (t : Table) : String × Columns :=
  (t.short.getD t.name, scope.columnsOf t.name)

/-- A source as it comes into view. -/
def Source.bound (scope : Scope) : Source → String × Columns
  | .table t => t.bound scope
  | .distinct columns _ short => (short, some (columns.map Item.label))

/-- What is in view in a `SELECT`, given how its source comes into view. -/
def Select.view {Source : Type} (bound : Source → String × Columns) (scope : Scope)
    (s : Select Source) : Scope :=
  bound s.source :: s.joins.map (·.table.bound scope)

/-- What a `SELECT` exports: what it lists, or all columns in view. -/
def Select.exports {Source : Type} (view : Scope) (s : Select Source) : Columns :=
  if s.columns.isEmpty then (view.mapM Prod.snd).map List.flatten else some (s.columns.map Item.label)

/-- A derived source as it comes into view. -/
def Derived.bound (scope : Scope) (d : Derived) : String × Columns :=
  (d.short, d.inner.exports (d.inner.view (Source.bound scope) scope))

/-- What a named table exports. -/
def Body.exports (scope : Scope) : Body → Columns
  | .files _ => none
  | .select s => s.exports (s.view (Source.bound scope) scope)
  | .nested s => s.exports (s.view (Derived.bound scope) scope)
  | .union [] => some []
  | .union (table :: _) => scope.columnsOf table

/-! ## Where columns are used -/

/-- A table in view has the column, as far as is known. -/
def Scope.Has (view : Scope) (c : Column) : Prop :=
  ∃ t ∈ view, (∀ short ∈ c.table, short = t.1) ∧ ∀ names ∈ t.2, c.name ∈ names

/-- Further tables do not hide a column. -/
theorem Scope.Has.cons {view : Scope} {c : Column} (h : view.Has c) (t : String × Columns) :
    Scope.Has (t :: view) c := by
  obtain ⟨table, hmem, hcolumn⟩ := h
  exact ⟨table, List.mem_cons_of_mem _ hmem, hcolumn⟩

/-- A column need not be called by the short name of its table. -/
theorem Scope.Has.unqualified {view : Scope} {short : Option String} {name : String}
    (h : view.Has ⟨short, name⟩) : view.Has ⟨none, name⟩ := by
  obtain ⟨table, hmem, -, hname⟩ := h
  refine ⟨table, hmem, ?_, hname⟩
  rintro s ⟨⟩

section

variable (view : Scope)

/-- What a column is compared with is in view. -/
def Operand.InScope : Operand → Prop
  | .literal _ => True
  | .column c => view.Has c

/-- All columns of a condition are in view. What is given as text may use any. -/
def Condition.InScope : Condition → Prop
  | .truth c => view.Has c
  | .compare left _ right => view.Has left ∧ right.InScope view
  | .oneOf left _ => view.Has left
  | .verbatim _ => False
  | .join _ left right => left.InScope ∧ right.InScope
  | .not inner => inner.InScope
  | .group inner => inner.InScope

/-- All columns of a value are in view. -/
def Scalar.InScope : Scalar → Prop
  | .column c => view.Has c
  | .literal _ => True
  | .countRows => True
  | .sum x => x.InScope
  | .average x => x.InScope
  | .coalesce choices => ∀ choice ∈ choices, choice.InScope view
  | .percent x => x.InScope
  | .percentage part whole => part.InScope ∧ whole.InScope
  | .onlyIf c x => c.InScope view ∧ x.InScope
  | .ifElse c yes no => c.InScope view ∧ yes.InScope ∧ no.InScope
  | .sizeRank among tie => (∀ c ∈ among, view.Has c) ∧ view.Has tie

variable (scope : Scope)

/-- All columns of a subquery are in view, where its table comes before those around it. -/
def Subquery.InScope (s : Subquery) : Prop :=
  Scope.Has (s.table.bound scope :: view) s.column ∧
    ∀ c ∈ s.conditions, c.InScope (s.table.bound scope :: view)

/-- All columns of a predicate are in view. -/
def Predicate.InScope : Predicate → Prop
  | .holds c => c.InScope view
  | .within key s => view.Has key ∧ s.InScope view scope
  | .outside key s => view.Has key ∧ s.InScope view scope
  | .withinEach key ss => view.Has key ∧ ∀ s ∈ ss, s.InScope view scope

/-- All columns of a `SELECT` are in view, also those that it sorts by. -/
structure Select.InScope {Source : Type} (s : Select Source) : Prop where
  columns : ∀ i ∈ s.columns, i.value.InScope view
  joins : ∀ j ∈ s.joins, ∀ c ∈ j.conditions, c.InScope view
  filters : ∀ p ∈ s.filters, p.InScope view scope
  groupBy : ∀ x ∈ s.groupBy, x.InScope view
  orderBy : ∀ k ∈ s.orderBy, k.value.InScope view

end

/-- All columns that a source takes from its table are there. -/
def Source.InScope (scope : Scope) : Source → Prop
  | .table _ => True
  | .distinct columns t _ => ∀ i ∈ columns, i.value.InScope [t.bound scope]

/-- All columns of a `SELECT` from a table or a part of it are in view. -/
def Select.WellScoped (scope : Scope) (s : Select Source) : Prop :=
  s.source.InScope scope ∧ s.InScope (s.view (Source.bound scope) scope) scope

/-- All columns of a named table are in view, and tables are put together only if they have the same
columns in the same order. -/
def Body.InScope (scope : Scope) : Body → Prop
  | .files _ => True
  | .select s => s.WellScoped scope
  | .nested s =>
    s.source.inner.WellScoped scope ∧ s.InScope (s.view (Derived.bound scope) scope) scope
  | .union tables => ∃ names, ∀ t ∈ tables, scope.lookup t = some (some names)

/-! Whether all columns are in view can be found out, as tables and their columns are finitely many. -/

section

variable (view scope : Scope)

instance (c : Column) : Decidable (view.Has c) :=
  inferInstanceAs (Decidable (∃ t ∈ view, (∀ short ∈ c.table, short = t.1) ∧ ∀ names ∈ t.2, c.name ∈ names))

instance : DecidablePred (Operand.InScope view)
  | .literal _ => inferInstanceAs (Decidable True)
  | .column c => inferInstanceAs (Decidable (view.Has c))

instance Condition.decidableInScope : DecidablePred (Condition.InScope view)
  | .truth c => inferInstanceAs (Decidable (view.Has c))
  | .compare left _ right => inferInstanceAs (Decidable (view.Has left ∧ right.InScope view))
  | .oneOf left _ => inferInstanceAs (Decidable (view.Has left))
  | .verbatim _ => inferInstanceAs (Decidable False)
  | .join _ left right => @instDecidableAnd _ _ (decidableInScope left) (decidableInScope right)
  | .not inner => decidableInScope inner
  | .group inner => decidableInScope inner

instance Scalar.decidableInScope : DecidablePred (Scalar.InScope view)
  | .column c => inferInstanceAs (Decidable (view.Has c))
  | .literal _ => inferInstanceAs (Decidable True)
  | .countRows => inferInstanceAs (Decidable True)
  | .sum x => decidableInScope x
  | .average x => decidableInScope x
  | .coalesce choices => inferInstanceAs (Decidable (∀ choice ∈ choices, choice.InScope view))
  | .percent x => decidableInScope x
  | .percentage part whole => @instDecidableAnd _ _ (decidableInScope part) (decidableInScope whole)
  | .onlyIf c x => @instDecidableAnd (c.InScope view) _ _ (decidableInScope x)
  | .ifElse c yes no => @instDecidableAnd (c.InScope view) _ _
      (@instDecidableAnd _ _ (decidableInScope yes) (decidableInScope no))
  | .sizeRank among tie => inferInstanceAs (Decidable ((∀ c ∈ among, view.Has c) ∧ view.Has tie))

instance (s : Subquery) : Decidable (s.InScope view scope) :=
  inferInstanceAs (Decidable (_ ∧ ∀ c ∈ s.conditions, c.InScope (s.table.bound scope :: view)))

instance : DecidablePred (Predicate.InScope view scope)
  | .holds c => inferInstanceAs (Decidable (c.InScope view))
  | .within key s => inferInstanceAs (Decidable (view.Has key ∧ s.InScope view scope))
  | .outside key s => inferInstanceAs (Decidable (view.Has key ∧ s.InScope view scope))
  | .withinEach key ss => inferInstanceAs (Decidable (view.Has key ∧ ∀ s ∈ ss, s.InScope view scope))

instance {Source : Type} (s : Select Source) : Decidable (s.InScope view scope) :=
  decidable_of_iff
    ((∀ i ∈ s.columns, i.value.InScope view) ∧ (∀ j ∈ s.joins, ∀ c ∈ j.conditions, c.InScope view) ∧
      (∀ p ∈ s.filters, p.InScope view scope) ∧ (∀ x ∈ s.groupBy, x.InScope view) ∧
      ∀ k ∈ s.orderBy, k.value.InScope view)
    ⟨fun ⟨hc, hj, hf, hg, ho⟩ => ⟨hc, hj, hf, hg, ho⟩, fun ⟨hc, hj, hf, hg, ho⟩ => ⟨hc, hj, hf, hg, ho⟩⟩

instance : DecidablePred (Source.InScope scope)
  | .table _ => inferInstanceAs (Decidable True)
  | .distinct columns t _ => inferInstanceAs (Decidable (∀ i ∈ columns, i.value.InScope [t.bound scope]))

instance (s : Select Source) : Decidable (s.WellScoped scope) :=
  inferInstanceAs (Decidable (_ ∧ _))

end

/-! ## From the first table to the last -/

/-- The tables use only columns that are in view, and what is known before them leads to what is known
after them. -/
inductive Scoped : Scope → List Definition → Scope → Prop
  | nil (scope : Scope) : Scoped scope [] scope
  | cons {scope after : Scope} {d : Definition} {ds : List Definition} :
      d.body.InScope scope → Scoped (scope ++ [(d.name, d.body.exports scope)]) ds after →
        Scoped scope (d :: ds) after

theorem Scoped.append {scope between after : Scope} {ds es : List Definition}
    (h : Scoped scope ds between) (h' : Scoped between es after) : Scoped scope (ds ++ es) after := by
  induction h with
  | nil => exact h'
  | cons hbody _ ih => exact .cons hbody (ih h')

/-- What is known after some tables are these tables, and what was known before. -/
theorem Scoped.names_eq {scope after : Scope} {ds : List Definition} (h : Scoped scope ds after) :
    after.map Prod.fst = scope.map Prod.fst ++ ds.map (·.name) := by
  induction h with
  | nil => rw [List.map_nil, List.append_nil]
  | cons _ _ ih => rw [ih, List.map_append, List.append_assoc, List.map_cons, List.map_cons, List.map_nil,
      List.singleton_append]

theorem scoped_body {scope : Scope} {name : String} {body : Body} {columns : Columns}
    (h : body.InScope scope) (hexports : body.exports scope = columns) :
    Scoped scope [⟨name, body⟩] (scope ++ [(name, columns)]) := by
  rw [← hexports]
  exact .cons h (.nil _)

/-- A selection of all columns exports what its table does. -/
theorem exports_all {scope : Scope} {s : Select Source} {table : String} {names : List String}
    (hcolumns : s.columns = []) (hsource : s.source = .table ⟨table, none⟩) (hjoins : s.joins = [])
    (h : scope.lookup table = some (some names)) : (Body.select s).exports scope = some names := by
  rw [Body.exports, Select.exports, hcolumns, List.isEmpty_nil, if_pos rfl, Select.view, hsource, hjoins,
    Source.bound, Table.bound, Scope.columnsOf, h]
  exact congrArg some (List.append_nil names)

/-- Tables that have the same columns are put together. -/
theorem scoped_union {scope : Scope} {table : String} {tables : List String} {names : List String}
    (h : ∀ t ∈ table :: tables, scope.lookup t = some (some names)) (name : String) :
    Scoped scope [⟨name, .union (table :: tables)⟩] (scope ++ [(name, some names)]) := by
  have hinScope : (Body.union (table :: tables)).InScope scope := ⟨names, h⟩
  refine scoped_body hinScope ?_
  rw [Body.exports, Scope.columnsOf, h table List.mem_cons_self]
  rfl

theorem lookup_append_singleton {scope : Scope} {table name : String} {columns : Columns} :
    (scope ++ [(name, columns)]).lookup table =
      (scope.lookup table).or (if table = name then some columns else none) := by
  rw [List.lookup_append, List.lookup_cons]
  by_cases h : table = name
  · rw [if_pos h, beq_iff_eq.2 h]
  · rw [if_neg h, beq_eq_false_iff_ne.2 h]
    rfl

/-- A statement is well scoped, and these are its tables with their columns: no two have the same name,
what is read has been defined before, and what is used of it is there. -/
structure Statement.WellScoped (s : Statement) (scope : Scope) : Prop where
  distinct : (s.tables.map (·.name)).Nodup
  earlier : ReadsEarlier [] s.tables
  reads : ∀ t ∈ s.main.tables Source.tables, t ∈ s.tables.map (·.name)
  tables : Scoped [] s.tables scope
  main : s.main.WellScoped scope

/-! ## Tables of files and other tables -/

/-- A table that is made of files is in view under the short name. -/
def Scope.Open (view : Scope) (short : Option String) : Prop :=
  ∃ name, (name, none) ∈ view ∧ ∀ s ∈ short, s = name

section

variable {view scope : Scope} {short : Option String} {name : String} {names : List String}

/-- A table of files is taken to have every column. -/
theorem Scope.Open.has (h : view.Open short) (name : String) : view.Has ⟨short, name⟩ := by
  obtain ⟨table, hmem, hshort⟩ := h
  refine ⟨(table, none), hmem, hshort, ?_⟩
  rintro names ⟨⟩

/-- It need not be called by its short name. -/
theorem Scope.Open.unqualified (h : view.Open short) : view.Open none := by
  obtain ⟨table, hmem, -⟩ := h
  refine ⟨table, hmem, ?_⟩
  rintro s ⟨⟩

theorem Table.eq_getD_short {t : Table} {s : String} (h : s ∈ t.short) : s = t.short.getD t.name := by
  rw [Option.mem_def.1 h]
  rfl

/-- A table of files that is read is in view. -/
theorem Table.open_of_mem {t : Table} (hmem : t.bound scope ∈ view) (h : scope.lookup t.name = some none) :
    view.Open t.short := by
  rw [Table.bound, Scope.columnsOf, h] at hmem
  exact ⟨_, hmem, fun s => Table.eq_getD_short⟩

/-- A column of a table that is read is in view. -/
theorem Table.has_of_mem {t : Table} (hmem : t.bound scope ∈ view)
    (h : scope.lookup t.name = some (some names)) (hname : name ∈ names) : view.Has ⟨t.short, name⟩ := by
  rw [Table.bound, Scope.columnsOf, h] at hmem
  refine ⟨_, hmem, fun s => Table.eq_getD_short, ?_⟩
  rintro names' ⟨⟩
  exact hname

end

end Broadband.Sql
