import Broadband.Proofs.Sql.Columns

/-!
# Statements and the columns of their files

What a statement makes of its own tables can be read off it, but what columns a data file has cannot. Here
they are given: every dataset has its columns (`Dataset.columns`), and a table of files has those of its
first file, with the year beside them. A statement is then followed once more, now with all tables known
(`Statement.FindsColumns`).

For a statement that is well scoped as far as is known without the files, only the tables that read files
have to be looked at again (`Statement.WellScoped.findsColumns_iff`). For the others nothing has changed, as
whether the columns of a table are in view depends on the tables it reads and on no other
(`Body.inScope_congr`).
-/

namespace Broadband

/-- The columns of a dataset. -/
def Dataset.columns : Dataset → List String
  | .addresses =>
    ["adrid", "fylke", "komnr", "komnavn", "postnr", "ertett", "hus", "fritid", "bygninger", "bygtype"]
  | .fixedCoverage | .mobileCoverage => ["adrid", "tek", "ned", "opp", "tilb"]
  | .subscriptions =>
    ["adrid", "komnr", "komnavn", "fylke", "postnr", "ertett", "tek", "ned", "opp", "tilb", "privat"]
  | .historical => ["geo", "indikatortype", "indikator", "dekning"]

/-- The columns of its rows in a statement, where they are tagged with their year. -/
def Dataset.taggedColumns (d : Dataset) : List String := d.columns ++ ["aar"]

namespace Sql

/-! ## Tables of files -/

/-- The columns of a table that is made of files; the first of them gives the names. -/
def Body.fileColumns : Body → Option (List String)
  | .files (f :: _) => some f.dataset.taggedColumns
  | _ => none

/-- The tables that are made of files, with their columns. -/
def fileScope (ds : List Definition) : Scope :=
  ds.filterMap fun d => d.body.fileColumns.map fun names => (d.name, some names)

theorem fileScope_append (ds es : List Definition) : fileScope (ds ++ es) = fileScope ds ++ fileScope es :=
  List.filterMap_append

/-- Every column that is used anywhere in the statement is a column of a table in view, where the tables have
the given columns. -/
structure Statement.FindsColumns (s : Statement) (scope : Scope) : Prop where
  tables : ∀ d ∈ s.tables, d.body.InScope scope
  main : s.main.WellScoped scope

/-! ## What scoping depends on -/

section

variable {scope scope' : Scope}

theorem Table.bound_congr {t : Table} (h : scope.lookup t.name = scope'.lookup t.name) :
    t.bound scope = t.bound scope' := by
  rw [Table.bound, Table.bound, Scope.columnsOf, Scope.columnsOf, h]

theorem Subquery.inScope_congr {view : Scope} {s : Subquery}
    (h : scope.lookup s.table.name = scope'.lookup s.table.name) :
    s.InScope view scope ↔ s.InScope view scope' := by
  rw [Subquery.InScope, Subquery.InScope, Table.bound_congr h]

theorem Predicate.inScope_congr {view : Scope} {p : Predicate}
    (h : ∀ t ∈ p.tables, scope.lookup t = scope'.lookup t) :
    p.InScope view scope ↔ p.InScope view scope' := by
  cases p with
  | holds c => exact Iff.rfl
  | within key s => exact and_congr_right fun _ => Subquery.inScope_congr (h _ (List.mem_singleton_self _))
  | outside key s => exact and_congr_right fun _ => Subquery.inScope_congr (h _ (List.mem_singleton_self _))
  | withinEach key ss =>
    refine and_congr_right fun _ => forall₂_congr fun s hs => Subquery.inScope_congr (h _ ?_)
    exact List.mem_map_of_mem hs

theorem Select.inScope_congr {Source : Type} {view : Scope} {s : Select Source}
    (h : ∀ t ∈ s.filters.flatMap Predicate.tables, scope.lookup t = scope'.lookup t) :
    s.InScope view scope ↔ s.InScope view scope' := by
  have hfilters : (∀ p ∈ s.filters, p.InScope view scope) ↔ ∀ p ∈ s.filters, p.InScope view scope' :=
    forall₂_congr fun p hp => Predicate.inScope_congr fun t ht => h t (List.mem_flatMap.2 ⟨p, hp, ht⟩)
  constructor
  · rintro ⟨hcolumns, hjoins, hkept, hgroup, horder⟩
    exact ⟨hcolumns, hjoins, hfilters.1 hkept, hgroup, horder⟩
  · rintro ⟨hcolumns, hjoins, hkept, hgroup, horder⟩
    exact ⟨hcolumns, hjoins, hfilters.2 hkept, hgroup, horder⟩

theorem Select.view_congr {Source : Type} {bound bound' : Source → String × Columns} {s : Select Source}
    (hsource : bound s.source = bound' s.source)
    (h : ∀ t ∈ s.joins.map (·.table.name), scope.lookup t = scope'.lookup t) :
    s.view bound scope = s.view bound' scope' := by
  rw [Select.view, Select.view, hsource]
  refine congrArg _ (List.map_congr_left fun j hj => Table.bound_congr (h _ ?_))
  exact List.mem_map.2 ⟨j, hj, rfl⟩

theorem Source.bound_congr {s : Source} (h : ∀ t ∈ s.tables, scope.lookup t = scope'.lookup t) :
    s.bound scope = s.bound scope' := by
  cases s with
  | table t => exact Table.bound_congr (h _ (List.mem_singleton_self _))
  | distinct columns t short => rfl

theorem Source.inScope_congr {s : Source} (h : ∀ t ∈ s.tables, scope.lookup t = scope'.lookup t) :
    s.InScope scope ↔ s.InScope scope' := by
  cases s with
  | table t => exact Iff.rfl
  | distinct columns t short =>
    rw [Source.InScope, Source.InScope, Table.bound_congr (h _ (List.mem_singleton_self _))]

theorem Select.forall_mem_tables {Source : Type} {sourceTables : Source → List String} {s : Select Source}
    {P : String → Prop} :
    (∀ t ∈ s.tables sourceTables, P t) ↔ (∀ t ∈ sourceTables s.source, P t) ∧
      (∀ t ∈ s.joins.map (·.table.name), P t) ∧ ∀ t ∈ s.filters.flatMap Predicate.tables, P t := by
  rw [Select.tables, List.forall_mem_append, List.forall_mem_append, and_assoc]

theorem Select.viewOf_congr {s : Select Source}
    (h : ∀ t ∈ s.tables Source.tables, scope.lookup t = scope'.lookup t) :
    s.view (Source.bound scope) scope = s.view (Source.bound scope') scope' := by
  obtain ⟨hsource, hjoins, -⟩ := Select.forall_mem_tables.1 h
  exact Select.view_congr (Source.bound_congr hsource) hjoins

theorem Select.wellScoped_congr {s : Select Source}
    (h : ∀ t ∈ s.tables Source.tables, scope.lookup t = scope'.lookup t) :
    s.WellScoped scope ↔ s.WellScoped scope' := by
  obtain ⟨hsource, -, hfilters⟩ := Select.forall_mem_tables.1 h
  rw [Select.WellScoped, Select.WellScoped, Select.viewOf_congr h]
  exact and_congr (Source.inScope_congr hsource) (Select.inScope_congr hfilters)

/-- Whether the columns of a table are in view depends on the tables that it reads. -/
theorem Body.inScope_congr {b : Body} (h : ∀ t ∈ b.tables, scope.lookup t = scope'.lookup t) :
    b.InScope scope ↔ b.InScope scope' := by
  cases b with
  | files fs => exact Iff.rfl
  | select s => exact Select.wellScoped_congr h
  | nested s =>
    rw [Body.tables, Select.forall_mem_tables] at h
    obtain ⟨hinner, hjoins, hfilters⟩ := h
    have hbound : s.source.bound scope = s.source.bound scope' := by
      rw [Derived.bound, Derived.bound, Select.viewOf_congr hinner]
    rw [Body.InScope, Body.InScope, Select.view_congr hbound hjoins]
    exact and_congr (Select.wellScoped_congr hinner) (Select.inScope_congr hfilters)
  | union tables =>
    refine exists_congr fun names => forall₂_congr fun t ht => ?_
    rw [h t ht]

end

/-! ## From the last table back to the first -/

theorem Scoped.exists_append {scope after : Scope} {ds : List Definition} (h : Scoped scope ds after) :
    ∃ more, after = scope ++ more := by
  induction h with
  | nil scope => exact ⟨[], (List.append_nil scope).symm⟩
  | cons _ _ ih =>
    obtain ⟨more, hmore⟩ := ih
    exact ⟨_ :: more, by rw [hmore, List.append_assoc, List.singleton_append]⟩

section

variable {scope more : Scope} {t : String}

theorem lookup_append_of_mem (h : t ∈ scope.map Prod.fst) :
    (scope ++ more).lookup t = scope.lookup t := by
  obtain ⟨entry, hentry, rfl⟩ := List.mem_map.1 h
  cases hlookup : scope.lookup entry.1 with
  | none => exact absurd rfl (bne_iff_ne.1 (List.lookup_eq_none_iff.1 hlookup entry hentry))
  | some columns => rw [List.lookup_append, hlookup, Option.some_or]

theorem lookup_append_of_notMem (h : t ∉ scope.map Prod.fst) :
    (scope ++ more).lookup t = more.lookup t := by
  have hnone : scope.lookup t = none := by
    rw [List.lookup_eq_none_iff]
    intro entry hentry
    refine bne_iff_ne.2 fun hname => h ?_
    exact List.mem_map.2 ⟨entry, hentry, hname.symm⟩
  rw [List.lookup_append, hnone, Option.none_or]

end

/-- What a table finds among the tables before it, it finds among all tables. -/
theorem Scoped.inScope {scope after : Scope} {ds : List Definition} (h : Scoped scope ds after)
    (hearlier : ReadsEarlier (scope.map Prod.fst) ds) : ∀ d ∈ ds, d.body.InScope after := by
  induction h with
  | nil => exact List.forall_mem_nil _
  | @cons scope after d ds hbody hrest ih =>
    obtain ⟨hreads, hearlier⟩ := hearlier
    obtain ⟨more, rfl⟩ := hrest.exists_append
    refine List.forall_mem_cons.2 ⟨?_, ih ?_⟩
    · refine (Body.inScope_congr fun t ht => ?_).2 hbody
      rw [List.append_assoc]
      exact lookup_append_of_mem (hreads t ht)
    · rw [List.map_append]
      exact hearlier

/-- **Only tables that read files have to be looked at again.** -/
theorem Statement.WellScoped.findsColumns_iff {s : Statement} {scope : Scope} (h : s.WellScoped scope)
    (hmain : ∀ t ∈ s.main.tables Source.tables, t ∉ (fileScope s.tables).map Prod.fst) :
    s.FindsColumns (fileScope s.tables ++ scope) ↔
      ∀ d ∈ s.tables, (∃ t ∈ d.body.tables, t ∈ (fileScope s.tables).map Prod.fst) →
        d.body.InScope (fileScope s.tables ++ scope) := by
  constructor
  · exact fun hfinds d hd _ => hfinds.tables d hd
  · intro hreads
    refine ⟨fun d hd => ?_, ?_⟩
    · by_cases hfiles : ∃ t ∈ d.body.tables, t ∈ (fileScope s.tables).map Prod.fst
      · exact hreads d hd hfiles
      · refine (Body.inScope_congr fun t ht => ?_).2 (h.tables.inScope h.earlier d hd)
        exact lookup_append_of_notMem fun hmem => hfiles ⟨t, ht, hmem⟩
    · refine (Select.wellScoped_congr fun t ht => ?_).2 h.main
      exact lookup_append_of_notMem (hmain t ht)

/-! ## Columns in view -/

/-- A column is looked for in one table alone if no other table in view goes by the name that it is called
with. -/
theorem has_cons_iff {t : String} {names : List String} {view : Scope} {c : Column}
    (ht : ∀ short ∈ c.table, short = t) (hview : ∀ entry ∈ view, ∃ short ∈ c.table, short ≠ entry.1) :
    Scope.Has ((t, some names) :: view) c ↔ c.name ∈ names := by
  constructor
  · rintro ⟨entry, hentry, hshort, hname⟩
    rcases List.mem_cons.1 hentry with rfl | hmem
    · exact hname names rfl
    · obtain ⟨short, hmem, hne⟩ := hview entry hmem
      exact absurd (hshort short hmem) hne
  · intro hname
    refine ⟨_, List.mem_cons_self, ht, ?_⟩
    rintro names' ⟨⟩
    exact hname

end Sql

end Broadband
