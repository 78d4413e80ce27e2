import Broadband.Proofs.Report.Figures

/-!
# The row for the whole country

A report by county ends with rows for the whole country. They sum up all counties and not only those that
are shown, and they come last however the counties are sorted. Both are matters of how the end of a statement
is put together: the limit is put to the counties before the country joins them, while the sums are taken
from the result itself; and the last selection, which sorts once more, has to sort the country behind all
else. The end is written twice, for rows by year and for years side by side, in different ways.

Here the end of a statement is run on any result whatsoever (`Query.Reports` says what has to come out).
-/

namespace Broadband

open Checks Sql

/-! ## What is reported of a result -/

namespace Query

/-- The years stand side by side. -/
def Pivoted (q : Query) (years : List Int) : Prop :=
  q.metric ≠ .subscriptions ∧ 1 < years.length ∧ q.grouping ≠ .national

/-- The answer shows the groups of the result with the years side by side: as many as are asked for, sorted
by their names, and then the whole country if they are counties. -/
def ReportsPivoted (e : Engine) (q : Query) (years : List Int) (result out : Content) : Prop :=
  out.columns = q.pivotedColumns years ∧
    ∃ groups : List Datum, groups.Perm (valuesOf (resultColumns years) "gruppe" result.rows) ∧
      groups.Pairwise (fun a b => e.le q.sorting.direction a b = true) ∧
      out.rows =
        (cut q.limit groups).map (fun group => q.pivotedRow e years group
          (having (resultColumns years) "gruppe" group result.rows)) ++
        if q.grouping = .county then [q.pivotedRow e years (.text nationalLabel) result.rows] else []

/-- The answer shows the rows of the result: as many as are asked for, in the order that is asked for, and
then the whole country if they are of counties. -/
def ReportsRows (e : Engine) (q : Query) (years : List Int) (result out : Content) : Prop :=
  out.columns = rowColumns years (Report.shownFigures q.figures) ∧
    ∃ rows nationals : List (List Datum), rows.Perm result.rows ∧ q.Sorted e years rows ∧
      nationals.Perm (if q.grouping = .county then nationalRows e years result.rows else []) ∧
      q.Sorted e years nationals ∧
      out.rows = (cut q.limit rows ++ nationals).map fun row =>
        (rowColumns years (Report.shownFigures q.figures)).map (cell (resultColumns years) row)

/-- What has to come out of a result. -/
def Reports (e : Engine) (q : Query) (years : List Int) (result out : Content) : Prop :=
  (q.Pivoted years → q.ReportsPivoted e years result out) ∧
    (¬ q.Pivoted years → q.ReportsRows e years result out)

end Query

/-! ## The country behind the counties -/

section

variable {e : Engine} {columns : List String}

/-- The row is for the whole country. -/
def isNational (columns : List String) (row : List Datum) : Bool :=
  cell columns row "gruppe" = .text nationalLabel

/-- Sorts the whole country behind all else. -/
def nationalMark (columns : List String) (row : List Datum) : Datum :=
  if isNational columns row then .number 1 else .number 0

theorem le_nationalMark {a b : List Datum} :
    e.le .asc (nationalMark columns a) (nationalMark columns b) = true ↔
      (isNational columns a = true → isNational columns b = true) := by
  have hone : ¬ (1 : Rat) ≤ 0 := by decide
  unfold nationalMark
  cases isNational columns a <;> cases isNational columns b <;> simp [e.le_number, hone]

variable {keys : List (Direction × (List Datum → Datum))}

/-- Sorted by the mark first, the country comes behind the counties. -/
theorem eq_counties_append_nationals {rows : List (List Datum)}
    (h : rows.Pairwise fun a b => e.precedes ((.asc, nationalMark columns) :: keys) a b = true) :
    rows = rows.filter (! isNational columns ·) ++ rows.filter (isNational columns) := by
  -- the mark is the first key, so no county comes behind the country
  have hmarks : rows.Pairwise fun a b =>
      (! isNational columns b) = true → (! isNational columns a) = true := by
    refine h.imp fun {a b} hab => ?_
    have hle := le_nationalMark.1 (e.precedes_cons_iff.1 hab).1
    rw [Bool.not_eq_true', Bool.not_eq_true', ← Bool.not_eq_true, ← Bool.not_eq_true]
    exact mt hle
  have hsplit := eq_filter_append_filter (! isNational columns ·) hmarks
  simpa only [Bool.not_not] using hsplit

/-- Counties, and the country behind them, are sorted by the mark and other keys if both are sorted by the
other keys. -/
theorem sorted_append_iff {counties nationals : List (List Datum)}
    (hcounties : ∀ row ∈ counties, isNational columns row = false)
    (hnationals : ∀ row ∈ nationals, isNational columns row = true) :
    (counties ++ nationals).Pairwise
        (fun a b => e.precedes ((.asc, nationalMark columns) :: keys) a b = true) ↔
      counties.Pairwise (fun a b => e.precedes keys a b = true) ∧
        nationals.Pairwise (fun a b => e.precedes keys a b = true) := by
  -- the mark ties within either part and leaves the order there to the other keys
  have halike : ∀ a b, isNational columns a = isNational columns b →
      (e.precedes ((.asc, nationalMark columns) :: keys) a b = true ↔ e.precedes keys a b = true) := by
    intro a b hab
    rw [e.precedes_cons_iff, le_nationalMark, le_nationalMark, hab]
    simp
  have happart : ∀ a ∈ counties, ∀ b ∈ nationals,
      e.precedes ((.asc, nationalMark columns) :: keys) a b = true := by
    intro a ha b hb
    rw [e.precedes_cons_iff, le_nationalMark, le_nationalMark, hcounties a ha, hnationals b hb]
    simp
  rw [List.pairwise_append]
  constructor
  · rintro ⟨hc, hn, -⟩
    refine ⟨hc.imp_of_mem fun {a b} ha hb h => ?_, hn.imp_of_mem fun {a b} ha hb h => ?_⟩
    · exact (halike a b ((hcounties a ha).trans (hcounties b hb).symm)).1 h
    · exact (halike a b ((hnationals a ha).trans (hnationals b hb).symm)).1 h
  · rintro ⟨hc, hn⟩
    refine ⟨hc.imp_of_mem fun {a b} ha hb h => ?_, hn.imp_of_mem fun {a b} ha hb h => ?_, happart⟩
    · exact (halike a b ((hcounties a ha).trans (hcounties b hb).symm)).2 h
    · exact (halike a b ((hnationals a ha).trans (hnationals b hb).symm)).2 h

theorem filter_append_of_forall {counties nationals : List (List Datum)}
    (hcounties : ∀ row ∈ counties, isNational columns row = false)
    (hnationals : ∀ row ∈ nationals, isNational columns row = true) :
    (counties ++ nationals).filter (! isNational columns ·) = counties ∧
      (counties ++ nationals).filter (isNational columns) = nationals := by
  have hall : ∀ row ∈ counties, (! isNational columns row) = true := by simpa using hcounties
  have hnone : ∀ row ∈ nationals, ¬ (! isNational columns row) = true := by simpa using hnationals
  have hnone' : ∀ row ∈ counties, ¬ isNational columns row = true := by simpa using hcounties
  constructor
  · rw [List.filter_append, List.filter_eq_self.2 hall, List.filter_eq_nil_iff.2 hnone, List.append_nil]
  · rw [List.filter_append, List.filter_eq_nil_iff.2 hnone', List.filter_eq_self.2 hnationals,
      List.nil_append]

/-- Cutting counties, putting the country below them and sorting it all by the mark first gives the first
counties of some order, and then the country. -/
theorem closing_sorted_iff {counties nationals rows : List (List Datum)} {limit : Option Nat}
    (hcounties : ∀ row ∈ counties, isNational columns row = false)
    (hnationals : ∀ row ∈ nationals, isNational columns row = true) :
    ((∃ sorted : List (List Datum), sorted.Perm counties ∧
        sorted.Pairwise (fun a b => e.precedes keys a b = true) ∧
        rows.Perm (cut limit sorted ++ nationals)) ∧
      rows.Pairwise (fun a b => e.precedes ((.asc, nationalMark columns) :: keys) a b = true)) ↔
    ∃ sorted last : List (List Datum), sorted.Perm counties ∧
      sorted.Pairwise (fun a b => e.precedes keys a b = true) ∧ last.Perm nationals ∧
      last.Pairwise (fun a b => e.precedes keys a b = true) ∧ rows = cut limit sorted ++ last := by
  have hcut : ∀ sorted : List (List Datum), sorted.Perm counties →
      ∀ row ∈ cut limit sorted, isNational columns row = false :=
    fun sorted hperm row hrow => hcounties row (hperm.mem_iff.1 (mem_of_mem_cut hrow))
  constructor
  · rintro ⟨⟨sorted, hperm, hsorted, hrows⟩, hmarked⟩
    have hsplit := eq_counties_append_nationals hmarked
    obtain ⟨hkept, hdropped⟩ := filter_append_of_forall (hcut sorted hperm) hnationals
    have hfirst := hkept ▸ hrows.filter (! isNational columns ·)
    have hlast := hdropped ▸ hrows.filter (isNational columns)
    -- the counties are sorted once more after the cut, which may swap rows that tie
    rw [hsplit, sorted_append_iff] at hmarked
    · obtain ⟨sorted', hperm', hsorted', hcut'⟩ := exists_cut_eq hperm hsorted hfirst hmarked.1
      exact ⟨sorted', _, hperm', hsorted', hlast, hmarked.2, hcut' ▸ hsplit⟩
    · exact fun row hrow => hcut sorted hperm row (hfirst.mem_iff.1 hrow)
    · exact fun row hrow => hnationals row (hlast.mem_iff.1 hrow)
  · rintro ⟨sorted, last, hperm, hsorted, hlast, hlastSorted, rfl⟩
    refine ⟨⟨sorted, hperm, hsorted, hlast.append_left _⟩, ?_⟩
    rw [sorted_append_iff (hcut sorted hperm) fun row hrow => hnationals row (hlast.mem_iff.1 hrow)]
    refine ⟨?_, hlastSorted⟩
    cases limit with
    | none => exact hsorted
    | some n => exact hsorted.sublist (List.take_sublist n sorted)

end

namespace Report

open Query

variable {e : Engine} {db : Database} {r : Report} {c out : Content}

/-- Being the whole country is told by the name of the group. -/
theorem value_nationalLast {f : Frame} {fs : List Frame} {gs : List (List Frame)} :
    nationalLast.value.value e gs (f :: fs)
      = if f.value ⟨none, "gruppe"⟩ = .text nationalLabel then .number 1 else .number 0 := by
  have hmet : Condition.met e f (.compare ⟨none, "gruppe"⟩ .eq (.literal (.text nationalLabel))) = true ↔
      f.value ⟨none, "gruppe"⟩ = .text nationalLabel := met_eq_iff
  rw [nationalLast, Scalar.value, List.headD_cons]
  simp only [hmet]
  rfl

theorem local_nationalLast : nationalLast.value.Local := by
  intro e gs gs' f f' h
  rw [value_nationalLast, value_nationalLast, h]

theorem on_nationalLast (columns : List String) :
    nationalLast.on e columns = (.asc, nationalMark columns) := by
  refine Prod.ext rfl (funext fun row => ?_)
  simp only [OrderKey.on, nationalMark, isNational, value_nationalLast, value_rowFrame, decide_eq_true_eq]

/-! ## Running the end of a report -/

/-- Rows for the whole country are put below others, and the last selection goes over all of them. -/
theorem closing_answers_iff {groups : String} {columns names : List String} {nationals : List (List Datum)}
    {national main : Select Source} {keys : List (Direction × (List Datum → Datum))}
    {shown : List Datum → List Datum} (hgroups : (db.content groups).columns = columns)
    (hname : groups ≠ "national") (hwidth : ∀ row ∈ nationals, row.length = columns.length)
    (hnational : ∀ c, national.Yields e db (national.source.content e db) c ↔
      c.columns = columns ∧ c.rows.Perm nationals)
    (hsource : main.source = .table ⟨"combined", none⟩)
    (hmain : ∀ db c, c.columns = columns → (main.Yields e db ("combined", c) out ↔ out.columns = names ∧
      ∃ rows : List (List Datum), rows.Perm c.rows ∧
        rows.Pairwise (fun a b => e.precedes keys a b = true) ∧ out.rows = rows.map shown)) :
    (∃ after, Runs e db [⟨"national", .select national⟩, ⟨"combined", .union [groups, "national"]⟩] after ∧
        main.Yields e after (main.source.content e after) out) ↔
      out.columns = names ∧ ∃ rows : List (List Datum),
        rows.Perm ((db.content groups).rows ++ nationals) ∧
          rows.Pairwise (fun a b => e.precedes keys a b = true) ∧ out.rows = rows.map shown := by
  have hcombined : ∀ n k : Content, (Body.union [groups, "national"]).Yields e (("national", n) :: db) k ↔
      k.columns = columns ∧ k.rows.Perm ((db.content groups).rows ++ n.rows) := by
    intro n k
    simp only [Body.Yields, List.headD_cons, List.flatMap_cons, List.flatMap_nil, List.append_nil,
      content_cons_self, content_cons_of_ne hname, hgroups]
  have hlast : ∀ db' k, k.columns = columns →
      (main.Yields e (("combined", k) :: db') (main.source.content e (("combined", k) :: db')) out ↔
        out.columns = names ∧ ∃ rows : List (List Datum), rows.Perm k.rows ∧
          rows.Pairwise (fun a b => e.precedes keys a b = true) ∧ out.rows = rows.map shown) := by
    intro db' k hk
    rw [hsource, Source.content, content_cons_self]
    exact hmain _ k hk
  constructor
  · rintro ⟨after, hruns, hout⟩
    obtain ⟨n, hn, hruns⟩ := runs_cons_iff.1 hruns
    obtain ⟨k, hk, hruns⟩ := runs_cons_iff.1 hruns
    obtain rfl := runs_nil_iff.1 hruns
    obtain ⟨hcolumns, hrows⟩ := (hcombined n k).1 hk
    obtain ⟨hnames, rows, hperm, hsorted, hshown⟩ := (hlast _ k hcolumns).1 hout
    refine ⟨hnames, rows, ?_, hsorted, hshown⟩
    exact hperm.trans (hrows.trans (((hnational n).1 hn).2.append_left _))
  · rintro ⟨hnames, rows, hperm, hsorted, hshown⟩
    have hwide : ∀ row ∈ rows, row.length = columns.length := by
      intro row hrow
      rcases List.mem_append.1 (hperm.mem_iff.1 hrow) with hrow | hrow
      · rw [← hgroups]
        exact (db.content groups).width row hrow
      · exact hwidth row hrow
    -- a union has no order of its own, so it may as well hold the rows as they are sorted in the end
    refine ⟨_, runs_cons_iff.2 ⟨⟨columns, nationals, hwidth⟩, (hnational _).2 ⟨rfl, .refl _⟩,
      runs_cons_iff.2 ⟨⟨columns, rows, hwide⟩, (hcombined _ _).2 ⟨rfl, hperm⟩, runs_nil_iff.2 rfl⟩⟩, ?_⟩
    exact (hlast _ _ rfl).2 ⟨hnames, rows, .refl _, hsorted, hshown⟩

/-- Before that, the groups are cut in a table of their own: they are the first of some order that is asked
for, and the country is put below these. -/
theorem cutClosing_iff {name : String} {limit : Option Nat} {columns names : List String}
    {groups nationals : List (List Datum)} {first main : Select Source} {rest : List Definition}
    {keys marked : List (Direction × (List Datum → Datum))} {shown : List Datum → List Datum}
    (hwidth : ∀ row ∈ groups, row.length = columns.length)
    (hfirst : ∀ g, first.Yields e db (first.source.content e db) g → g.columns = columns ∧
      ∃ sorted : List (List Datum), sorted.Perm groups ∧
        sorted.Pairwise (fun a b => e.precedes keys a b = true) ∧ g.rows.Perm (cut limit sorted))
    (hany : ∀ (g : Content) (sorted : List (List Datum)), g.columns = columns → sorted.Perm groups →
      sorted.Pairwise (fun a b => e.precedes keys a b = true) → g.rows = cut limit sorted →
      first.Yields e db (first.source.content e db) g)
    (hclosing : ∀ g : Content, g.columns = columns →
      ((∃ after, Runs e ((name, g) :: db) rest after ∧
          main.Yields e after (main.source.content e after) out) ↔
        out.columns = names ∧ ∃ rows : List (List Datum), rows.Perm (g.rows ++ nationals) ∧
          rows.Pairwise (fun a b => e.precedes marked a b = true) ∧ out.rows = rows.map shown)) :
    (∃ after, Runs e db (⟨name, .select first⟩ :: rest) after ∧
        main.Yields e after (main.source.content e after) out) ↔
      out.columns = names ∧ ∃ rows : List (List Datum),
        ((∃ sorted : List (List Datum), sorted.Perm groups ∧
            sorted.Pairwise (fun a b => e.precedes keys a b = true) ∧
            rows.Perm (cut limit sorted ++ nationals)) ∧
          rows.Pairwise fun a b => e.precedes marked a b = true) ∧
        out.rows = rows.map shown := by
  constructor
  · rintro ⟨after, hruns, hout⟩
    obtain ⟨g, hg, hruns⟩ := runs_cons_iff.1 hruns
    obtain ⟨hcolumns, sorted, hperm, hsorted, hcut⟩ := hfirst g hg
    obtain ⟨hnames, rows, hrows, hmarked, hshown⟩ := (hclosing g hcolumns).1 ⟨after, hruns, hout⟩
    have hall := hrows.trans (hcut.append_right nationals)
    exact ⟨hnames, rows, ⟨⟨sorted, hperm, hsorted, hall⟩, hmarked⟩, hshown⟩
  · rintro ⟨hnames, rows, ⟨⟨sorted, hperm, hsorted, hrows⟩, hmarked⟩, hshown⟩
    have hwide : ∀ row ∈ cut limit sorted, row.length = columns.length :=
      fun row hrow => hwidth row (hperm.mem_iff.1 (mem_of_mem_cut hrow))
    -- of the tables that the engine may make of the groups, the one whose rows are `sorted` as it stands
    have hg := hany ⟨columns, cut limit sorted, hwide⟩ sorted rfl hperm hsorted rfl
    obtain ⟨after, hruns, hout⟩ :=
      (hclosing ⟨columns, cut limit sorted, hwide⟩ rfl).2 ⟨hnames, rows, hrows, hmarked, hshown⟩
    exact ⟨after, runs_cons_iff.2 ⟨_, hg, hruns⟩, hout⟩

/-! ## Rows for groups, or for groups and years -/

theorem isNational_nationalRows (years : List Int) (rows : List (List Datum)) :
    ∀ row ∈ Query.nationalRows e years rows, isNational (resultColumns years) row = true := by
  unfold Query.nationalRows
  split
  · rw [List.forall_mem_map]
    exact fun _ _ => rfl
  · exact List.forall_mem_singleton.2 rfl

theorem length_nationalRows (years : List Int) (rows : List (List Datum)) :
    ∀ row ∈ Query.nationalRows e years rows, row.length = (resultColumns years).length := by
  unfold Query.nationalRows resultColumns rowColumns
  split
  · rw [List.forall_mem_map]
    exact fun _ _ => rfl
  · exact List.forall_mem_singleton.2 rfl

/-- Rows are reported if they come, in some order, from the first counties of an order that is asked for and
the country, and the country is sorted behind. -/
theorem reportsRows_iff {q : Query} {years : List Int} (hcounty : q.grouping = .county)
    (hlabels : ∀ row ∈ c.rows, cell (resultColumns years) row "gruppe" ≠ .text nationalLabel) :
    q.ReportsRows e years c out ↔
      out.columns = rowColumns years (shownFigures q.figures) ∧ ∃ rows : List (List Datum),
        ((∃ sorted : List (List Datum), sorted.Perm c.rows ∧ q.Sorted e years sorted ∧
            rows.Perm (cut q.limit sorted ++ Query.nationalRows e years c.rows)) ∧
          rows.Pairwise fun a b => e.precedes ((.asc, nationalMark (resultColumns years)) ::
            (q.sortColumns years).map fun k => (k.1, (cell (resultColumns years) · k.2))) a b = true) ∧
        out.rows = rows.map fun row =>
          (rowColumns years (shownFigures q.figures)).map (cell (resultColumns years) row) := by
  have hcounties : ∀ row ∈ c.rows, isNational (resultColumns years) row = false :=
    fun row hrow => decide_eq_false (hlabels row hrow)
  unfold ReportsRows Sorted
  simp only [if_pos hcounty, closing_sorted_iff hcounties (isNational_nationalRows years c.rows)]
  refine and_congr_right fun _ => ⟨?_, ?_⟩
  · rintro ⟨sorted, last, hperm, hsorted, hlast, hlastSorted, hrows⟩
    exact ⟨_, ⟨sorted, last, hperm, hsorted, hlast, hlastSorted, rfl⟩, hrows⟩
  · rintro ⟨_, ⟨sorted, last, hperm, hsorted, hlast, hlastSorted, rfl⟩, hrows⟩
    exact ⟨sorted, last, hperm, hsorted, hlast, hlastSorted, hrows⟩

/-- The tables that close a report by county. -/
def closingTables (r : Report) : List Definition :=
  match r.query.limit with
  | none => [⟨"national", .select r.nationalRows⟩, ⟨"combined", .union ["result", "national"]⟩]
  | some n =>
    [⟨"top_groups", .select { source := .table ⟨"result", none⟩, orderBy := r.order, limit := some n }⟩,
     ⟨"national", .select r.nationalRows⟩, ⟨"combined", .union ["top_groups", "national"]⟩]

section

variable (hresult : db.content "result" = c) (hcolumns : c.columns = resultColumns r.years)

include hresult hcolumns

/-- The end of a report by county, whatever table its groups are taken from. -/
theorem countyClosing_iff {groups : String} (hgroups : (db.content groups).columns = resultColumns r.years)
    (hname : groups ≠ "national") :
    (∃ after, Runs e db
        [⟨"national", .select r.nationalRows⟩, ⟨"combined", .union [groups, "national"]⟩] after ∧
        Select.Yields e after ("combined", after.content "combined")
          { columns := r.shownColumns, source := Source.table ⟨"combined", none⟩,
            orderBy := nationalLast :: r.order } out) ↔
      out.columns = rowColumns r.years (shownFigures r.query.figures) ∧
        ∃ rows : List (List Datum),
          rows.Perm ((db.content groups).rows ++ Query.nationalRows e r.years c.rows) ∧
          rows.Pairwise (fun a b => e.precedes ((.asc, nationalMark (resultColumns r.years)) ::
            (r.query.sortColumns r.years).map fun k => (k.1, (cell (resultColumns r.years) · k.2))) a b
              = true) ∧
          out.rows = rows.map fun row =>
            (rowColumns r.years (shownFigures r.query.figures)).map (cell (resultColumns r.years) row) := by
  refine closing_answers_iff hgroups hname (length_nationalRows _ _) ?_ rfl ?_
  · intro n
    rw [show r.nationalRows.source.content e db = ("result", c) from congrArg _ hresult]
    exact nationalRows_yields_iff hcolumns
  · intro db' k hk
    have hlocal : ∀ x ∈ nationalLast :: r.order, x.value.Local :=
      List.forall_mem_cons.2 ⟨local_nationalLast, r.local_order⟩
    rw [shown_yields_iff hk hlocal, List.map_cons, on_nationalLast, map_on_order]
    rfl

/-- The end of a report by county shows what it should. -/
theorem countyRows_iff (hcounty : r.query.grouping = .county)
    (hlabels : ∀ row ∈ c.rows, cell (resultColumns r.years) row "gruppe" ≠ .text nationalLabel) :
    (∃ after, Runs e db r.closingTables after ∧
        Select.Yields e after ("combined", after.content "combined")
          { columns := r.shownColumns, source := Source.table ⟨"combined", none⟩,
            orderBy := nationalLast :: r.order } out) ↔
      r.query.ReportsRows e r.years c out := by
  rw [reportsRows_iff hcounty hlabels]
  cases hlimit : r.query.limit with
  | none =>
    -- nothing is cut, so which order the counties are in before the last selection does not matter
    have hsome : ∀ rows : List (List Datum), rows.Perm (c.rows ++ Query.nationalRows e r.years c.rows) ↔
        ∃ sorted : List (List Datum), sorted.Perm c.rows ∧ r.query.Sorted e r.years sorted ∧
          rows.Perm (cut none sorted ++ Query.nationalRows e r.years c.rows) := by
      intro rows
      constructor
      · intro hrows
        obtain ⟨sorted, hperm, hsorted⟩ := e.exists_sorted _ c.rows
        exact ⟨sorted, hperm, hsorted, hrows.trans (hperm.symm.append_right _)⟩
      · rintro ⟨sorted, hperm, -, hrows⟩
        exact hrows.trans (hperm.append_right _)
    rw [closingTables, hlimit]
    simp only
    rw [countyClosing_iff hresult hcolumns (hresult ▸ hcolumns) (by decide), hresult]
    simp only [hsome, and_assoc]
  | some n =>
    have hsource : Source.content e db (.table ⟨"result", none⟩) = ("result", c) := congrArg _ hresult
    rw [closingTables, hlimit]
    refine cutClosing_iff (fun row hrow => hcolumns ▸ c.width row hrow) ?_ ?_ ?_
    · intro g hg
      rw [hsource, topGroups_yields_iff hcolumns n] at hg
      obtain ⟨hgcolumns, sorted, hperm, hsorted, hrows⟩ := hg
      exact ⟨hgcolumns, sorted, hperm, hsorted, hrows ▸ .refl _⟩
    · intro g sorted hgcolumns hperm hsorted hrows
      rw [hsource, topGroups_yields_iff hcolumns n]
      exact ⟨hgcolumns, sorted, hperm, hsorted, hrows⟩
    · intro g hgcolumns
      have hself : Database.content (("top_groups", g) :: db) "top_groups" = g := content_cons_self
      have hkept : Database.content (("top_groups", g) :: db) "result" = c :=
        (content_cons_of_ne (by decide)).trans hresult
      refine (countyClosing_iff hkept hcolumns (hself.symm ▸ hgcolumns) (by decide)).trans ?_
      rw [hself]

end

/-! ## Groups with the years side by side -/

/-- The rows of all groups, with the years side by side. -/
def pivotedGroups (e : Engine) (q : Query) (years : List Int) (rows : List (List Datum)) :
    List (List Datum) :=
  (valuesOf (resultColumns years) "gruppe" rows).map fun group =>
    q.pivotedRow e years group (having (resultColumns years) "gruppe" group rows)

theorem cell_pivotedRow (q : Query) (years : List Int) (label : Datum) (rows : List (List Datum)) :
    cell (q.pivotedColumns years) (q.pivotedRow e years label rows) "gruppe" = label := rfl

theorem length_pivotedRow (q : Query) (years : List Int) (label : Datum) (rows : List (List Datum)) :
    (q.pivotedRow e years label rows).length = (q.pivotedColumns years).length := by
  simp only [pivotedRow, pivotedColumns, List.length_cons, List.length_flatMap, List.length_map]

/-- What groups with the years side by side are sorted by. -/
def pivotedKeys (q : Query) (years : List Int) : List (Direction × (List Datum → Datum)) :=
  [(q.sorting.direction, (cell (q.pivotedColumns years) · "gruppe"))]

/-- Sorting the rows of groups is sorting the groups. -/
theorem exists_pivotedGroups_iff {q : Query} {years : List Int} {P : List (List Datum) → Prop} :
    (∃ sorted : List (List Datum), sorted.Perm (pivotedGroups e q years c.rows) ∧
        sorted.Pairwise (fun a b => e.precedes (pivotedKeys q years) a b = true) ∧ P (cut q.limit sorted)) ↔
      ∃ groups : List Datum, groups.Perm (valuesOf (resultColumns years) "gruppe" c.rows) ∧
        groups.Pairwise (fun a b => e.le q.sorting.direction a b = true) ∧
        P ((cut q.limit groups).map fun group => q.pivotedRow e years group
          (having (resultColumns years) "gruppe" group c.rows)) := by
  have hsorted : ∀ groups : List Datum,
      (groups.map fun group => q.pivotedRow e years group
          (having (resultColumns years) "gruppe" group c.rows)).Pairwise
        (fun a b => e.precedes (pivotedKeys q years) a b = true) ↔
      groups.Pairwise fun a b => e.le q.sorting.direction a b = true := by
    intro groups
    simp only [List.pairwise_map, pivotedKeys, e.precedes_singleton, cell_pivotedRow]
  constructor
  · rintro ⟨sorted, hperm, hpairwise, hP⟩
    obtain ⟨groups, hgroups, rfl⟩ := exists_perm_map hperm
    exact ⟨groups, hgroups, (hsorted groups).1 hpairwise, cut_map q.limit _ groups ▸ hP⟩
  · rintro ⟨groups, hgroups, hpairwise, hP⟩
    exact ⟨_, hgroups.map _, (hsorted groups).2 hpairwise, (cut_map q.limit _ groups).symm ▸ hP⟩

/-- Groups are reported if they come, in some order, from the first groups of an order that is asked for
and the country, and the country is sorted behind. -/
theorem reportsPivoted_iff {q : Query} {years : List Int} (hcounty : q.grouping = .county)
    (hlabels : ∀ row ∈ c.rows, cell (resultColumns years) row "gruppe" ≠ .text nationalLabel) :
    q.ReportsPivoted e years c out ↔
      out.columns = q.pivotedColumns years ∧ ∃ rows : List (List Datum),
        ((∃ sorted : List (List Datum), sorted.Perm (pivotedGroups e q years c.rows) ∧
            sorted.Pairwise (fun a b => e.precedes (pivotedKeys q years) a b = true) ∧
            rows.Perm (cut q.limit sorted ++ [q.pivotedRow e years (.text nationalLabel) c.rows])) ∧
          rows.Pairwise fun a b => e.precedes
            ((.asc, nationalMark (q.pivotedColumns years)) :: pivotedKeys q years) a b = true) ∧
        out.rows = rows.map id := by
  have hcounties : ∀ row ∈ pivotedGroups e q years c.rows,
      isNational (q.pivotedColumns years) row = false := by
    unfold pivotedGroups
    rw [List.forall_mem_map]
    intro group hgroup
    obtain ⟨row, hrow, rfl⟩ := List.mem_map.1 (List.mem_dedup.1 hgroup)
    exact decide_eq_false (hlabels row hrow)
  have hnational : ∀ row ∈ [q.pivotedRow e years (.text nationalLabel) c.rows],
      isNational (q.pivotedColumns years) row = true := List.forall_mem_singleton.2 rfl
  unfold ReportsPivoted
  simp only [if_pos hcounty, closing_sorted_iff hcounties hnational, List.map_id]
  refine and_congr_right fun _ => ?_
  rw [← exists_pivotedGroups_iff (P := fun rows =>
    out.rows = rows ++ [q.pivotedRow e years (.text nationalLabel) c.rows])]
  constructor
  · rintro ⟨sorted, hperm, hsorted, hrows⟩
    exact ⟨_, ⟨sorted, _, hperm, hsorted, .refl _, List.pairwise_singleton _ _, rfl⟩, hrows⟩
  · rintro ⟨_, ⟨sorted, last, hperm, hsorted, hlast, -, rfl⟩, hrows⟩
    rw [List.perm_singleton.1 hlast] at hrows
    exact ⟨sorted, hperm, hsorted, hrows⟩

/-- The groups with the years side by side, sorted if they are cut. -/
def pivotedSelect (r : Report) : Select Source :=
  if r.query.limit.isSome then { r.pivotRows with orderBy := [r.groupOrder], limit := r.query.limit }
  else r.pivotRows

theorem source_pivotedSelect (r : Report) : r.pivotedSelect.source = .table ⟨"result", none⟩ := by
  unfold pivotedSelect
  split <;> rfl

/-- They are the first of some order that is asked for. -/
theorem exists_sorted_of_pivotedSelect (hcolumns : c.columns = resultColumns r.years)
    (h : r.pivotedSelect.Yields e db ("result", c) out) :
    out.columns = r.query.pivotedColumns r.years ∧
      ∃ sorted : List (List Datum), sorted.Perm (pivotedGroups e r.query r.years c.rows) ∧
        sorted.Pairwise (fun a b => e.precedes (pivotedKeys r.query r.years) a b = true) ∧
        out.rows.Perm (cut r.query.limit sorted) := by
  unfold pivotedSelect at h
  by_cases hlimit : r.query.limit.isSome = true
  · rw [if_pos hlimit, pivoted_yields_iff hcolumns [r.groupOrder] (by simp)] at h
    obtain ⟨hout, groups, hgroups, hsorted, hrows⟩ := h
    refine ⟨hout, exists_pivotedGroups_iff.2 ⟨groups, hgroups, ?_, hrows ▸ .refl _⟩⟩
    simpa only [List.map_cons, List.map_nil, e.precedes_singleton, groupOrder, id_eq] using hsorted
  · rw [if_neg hlimit] at h
    obtain ⟨hout, groups, hgroups, -, hrows⟩ :=
      (pivoted_yields_iff hcolumns [] (List.forall_mem_nil _) none).1 h
    -- groups that are not cut are not sorted here either, but they could have been
    obtain ⟨sorted, hperm, hsorted⟩ :=
      e.exists_sorted (pivotedKeys r.query r.years) (pivotedGroups e r.query r.years c.rows)
    refine ⟨hout, sorted, hperm, hsorted, ?_⟩
    rw [hrows, Option.not_isSome_iff_eq_none.1 hlimit]
    exact (hgroups.map _).trans hperm.symm

/-- And any such groups can be the outcome. -/
theorem pivotedSelect_yields_of_sorted (hcolumns : c.columns = resultColumns r.years)
    (hout : out.columns = r.query.pivotedColumns r.years) {sorted : List (List Datum)}
    (hperm : sorted.Perm (pivotedGroups e r.query r.years c.rows))
    (hsorted : sorted.Pairwise fun a b => e.precedes (pivotedKeys r.query r.years) a b = true)
    (hrows : out.rows = cut r.query.limit sorted) : r.pivotedSelect.Yields e db ("result", c) out := by
  obtain ⟨groups, hgroups, hpairwise, hshown⟩ := exists_pivotedGroups_iff.1 ⟨sorted, hperm, hsorted, hrows⟩
  unfold pivotedSelect
  by_cases hlimit : r.query.limit.isSome = true
  · rw [if_pos hlimit, pivoted_yields_iff hcolumns [r.groupOrder] (by simp)]
    refine ⟨hout, groups, hgroups, ?_, hshown⟩
    simpa only [List.map_cons, List.map_nil, e.precedes_singleton, groupOrder, id_eq] using hpairwise
  · rw [if_neg hlimit]
    refine (pivoted_yields_iff hcolumns [] (List.forall_mem_nil _) none).2 ⟨hout, groups, hgroups, ?_, ?_⟩
    · exact List.pairwise_of_forall fun _ _ => rfl
    · rw [hshown, Option.not_isSome_iff_eq_none.1 hlimit]

/-- The tables that close a report by county with the years side by side. -/
def closingPivot (r : Report) : List Definition :=
  [⟨"pivoted", .select r.pivotedSelect⟩,
   ⟨"national", .select { columns := nationalGroup :: r.pivotColumns, source := .table ⟨"result", none⟩ }⟩,
   ⟨"combined", .union ["pivoted", "national"]⟩]

section

variable (hresult : db.content "result" = c) (hcolumns : c.columns = resultColumns r.years)
  (hyears : r.years ≠ [])

include hresult hcolumns hyears

/-- The last selection goes over the groups and the country. -/
theorem pivotClosing_iff {groups : String}
    (hgroups : (db.content groups).columns = r.query.pivotedColumns r.years) (hname : groups ≠ "national") :
    (∃ after, Runs e db
        [⟨"national", .select
          { columns := nationalGroup :: r.pivotColumns, source := .table ⟨"result", none⟩ }⟩,
         ⟨"combined", .union [groups, "national"]⟩] after ∧
        Select.Yields e after ("combined", after.content "combined")
          { source := Source.table ⟨"combined", none⟩, orderBy := [nationalLast, r.groupOrder] } out) ↔
      out.columns = r.query.pivotedColumns r.years ∧ ∃ rows : List (List Datum),
        rows.Perm ((db.content groups).rows ++
          [r.query.pivotedRow e r.years (.text nationalLabel) c.rows]) ∧
        rows.Pairwise (fun a b => e.precedes ((.asc, nationalMark (r.query.pivotedColumns r.years)) ::
          pivotedKeys r.query r.years) a b = true) ∧
        out.rows = rows.map id := by
  refine closing_answers_iff hgroups hname (List.forall_mem_singleton.2 (length_pivotedRow _ _ _ _)) ?_ rfl ?_
  · intro n
    rw [List.perm_singleton, ← nationalPivot_yields_iff hcolumns hyears, ← hresult]
    rfl
  · intro db' k hk
    have hpasses : Select.PassesOn
        { source := Source.table ⟨"combined", none⟩, orderBy := [nationalLast, r.groupOrder] } :=
      ⟨rfl, rfl, rfl, rfl, by simp [local_nationalLast, groupOrder, column, Scalar.local_column]⟩
    have hkeys : [nationalLast, r.groupOrder].map (·.on e (r.query.pivotedColumns r.years))
        = (.asc, nationalMark (r.query.pivotedColumns r.years)) :: pivotedKeys r.query r.years := by
      rw [List.map_cons, List.map_cons, on_nationalLast, groupOrder, on_column]
      rfl
    rw [hpasses.yields_all_iff rfl, hk, hkeys]
    simp only [List.map_id]
    rfl

/-- The end of a report by county with the years side by side shows what it should. -/
theorem countyPivot_iff (hcounty : r.query.grouping = .county)
    (hlabels : ∀ row ∈ c.rows, cell (resultColumns r.years) row "gruppe" ≠ .text nationalLabel) :
    (∃ after, Runs e db r.closingPivot after ∧
        Select.Yields e after ("combined", after.content "combined")
          { source := Source.table ⟨"combined", none⟩, orderBy := [nationalLast, r.groupOrder] } out) ↔
      r.query.ReportsPivoted e r.years c out := by
  have hsource : r.pivotedSelect.source.content e db = ("result", c) := by
    rw [source_pivotedSelect]
    exact congrArg _ hresult
  rw [reportsPivoted_iff hcounty hlabels, closingPivot]
  have hwidth : ∀ row ∈ pivotedGroups e r.query r.years c.rows,
      row.length = (r.query.pivotedColumns r.years).length := by
    unfold pivotedGroups
    rw [List.forall_mem_map]
    exact fun group _ => length_pivotedRow _ _ _ _
  refine cutClosing_iff hwidth ?_ ?_ ?_
  · intro g hg
    rw [hsource] at hg
    exact exists_sorted_of_pivotedSelect hcolumns hg
  · intro g sorted hgcolumns hperm hsorted hrows
    rw [hsource]
    exact pivotedSelect_yields_of_sorted hcolumns hgcolumns hperm hsorted hrows
  · intro g hgcolumns
    have hself : Database.content (("pivoted", g) :: db) "pivoted" = g := content_cons_self
    have hkept : Database.content (("pivoted", g) :: db) "result" = c :=
      (content_cons_of_ne (by decide)).trans hresult
    refine (pivotClosing_iff hkept hcolumns hyears (hself.symm ▸ hgcolumns) (by decide)).trans ?_
    rw [hself]

end

/-! ## The whole end -/

/-- The result is the last of some tables. -/
def ResultLast (tables : List Definition) : Prop :=
  ∃ before d, tables = before ++ [d] ∧ d.name = "result" ∧ ∀ x ∈ before, x.name ≠ "result"

theorem resultLast_of_scoped {q : Query} {years : List Int} {columns : Columns} {tables : List Definition}
    (h : Scoped [] tables (q.baseScope years ++ [("result", columns)])) : ResultLast tables := by
  -- the scope has the names of the tables in the order in which they are defined
  have hnames : tables.map (·.name) = (q.baseScope years).map Prod.fst ++ ["result"] := by
    rw [← List.nil_append (tables.map _), ← List.map_nil, ← h.names_eq, List.map_append]
    rfl
  have hbase : ∀ name ∈ (q.baseScope years).map Prod.fst, name ≠ "result" := by
    unfold baseScope
    split
    · split <;> simp
    · split <;> simp
  obtain ⟨before, last, rfl, hbefore, hlast⟩ := List.map_eq_append_iff.1 hnames
  obtain ⟨d, rfl, hd⟩ := List.map_eq_singleton_iff.1 hlast
  refine ⟨before, d, rfl, hd, fun x hx => hbase _ ?_⟩
  rw [← hbefore]
  exact List.mem_map_of_mem hx

theorem answersFrom_iff {tables ds : List Definition} {main : Select Source} (h : ResultLast tables) :
    Statement.AnswersFrom e "result" db ⟨tables ++ ds, main⟩ out ↔
      ∃ after, Runs e db ds after ∧ main.Yields e after (main.source.content e after) out := by
  obtain ⟨before, d, rfl, hd, hbefore⟩ := h
  rw [Statement.AnswersFrom, List.append_assoc, List.singleton_append, Statement.behind_eq hbefore hd]

/-- Nothing is run behind the result if nothing stands there. -/
theorem answersFrom_nil_iff {tables : List Definition} {main : Select Source} (h : ResultLast tables) :
    Statement.AnswersFrom e "result" db ⟨tables, main⟩ out ↔
      main.Yields e db (main.source.content e db) out := by
  have hall : Statement.AnswersFrom e "result" db ⟨tables ++ [], main⟩ out ↔
      ∃ after, Runs e db [] after ∧ main.Yields e after (main.source.content e after) out :=
    answersFrom_iff h
  rw [List.append_nil] at hall
  simp only [hall, runs_nil_iff, exists_eq_left]

section

variable (hresult : db.content "result" = c) (hcolumns : c.columns = resultColumns r.years)
  (hlabels : r.query.grouping = .county →
    ∀ row ∈ c.rows, cell (resultColumns r.years) row "gruppe" ≠ .text nationalLabel)

include hresult hcolumns hlabels

/-- The end of a report with one row for each group, or for each group and year. -/
theorem ofResult_answers_iff {tables : List Definition} (htables : ResultLast tables) :
    (r.ofResult tables).AnswersFrom e "result" db out ↔ r.query.ReportsRows e r.years c out := by
  by_cases hcounty : r.query.grouping = .county
  · have hend : r.ofResult tables = ⟨tables ++ r.closingTables,
        { columns := r.shownColumns, source := .table ⟨"combined", none⟩,
          orderBy := nationalLast :: r.order }⟩ := by
      have hbyCounty : r.byCounty = true := decide_eq_true hcounty
      rw [ofResult, if_pos hbyCounty, closingTables]
      cases hlimit : r.query.limit with
      | none => simp only [List.append_nil]
      | some n => simp only [List.append_assoc, List.singleton_append]
    rw [hend, answersFrom_iff htables]
    exact countyRows_iff hresult hcolumns hcounty (hlabels hcounty)
  · have hbyCounty : ¬ r.byCounty = true := mt of_decide_eq_true hcounty
    rw [ofResult, if_neg hbyCounty, answersFrom_nil_iff htables, Source.content, hresult,
      shown_yields_iff hcolumns r.local_order, map_on_order, ReportsRows]
    refine and_congr_right fun _ => exists_congr fun rows => ?_
    simp only [if_neg hcounty, List.perm_nil]
    constructor
    · rintro ⟨hperm, hsorted, hrows⟩
      refine ⟨[], hperm, hsorted, rfl, .nil, ?_⟩
      rwa [List.append_nil]
    · rintro ⟨_, hperm, hsorted, rfl, -, hrows⟩
      rw [List.append_nil] at hrows
      exact ⟨hperm, hsorted, hrows⟩

/-- The end of a report with the years side by side. -/
theorem pivot_answers_iff {s : Statement} (h : r.pivot = .ok s)
    (htables : ∀ tables, r.coverageTables = .ok tables → ResultLast tables) (hyears : r.years ≠ []) :
    s.AnswersFrom e "result" db out ↔ r.query.ReportsPivoted e r.years c out := by
  obtain ⟨tables, hcoverage, h⟩ := bind_eq_ok_iff.1 h
  have hlast := htables tables hcoverage
  by_cases hcounty : r.query.grouping = .county
  · have hbyCounty : r.byCounty = true := decide_eq_true hcounty
    rw [if_pos hbyCounty] at h
    obtain rfl := pure_eq_ok_iff.1 h
    exact (answersFrom_iff hlast).trans
      (countyPivot_iff hresult hcolumns hyears hcounty (hlabels hcounty))
  · have hbyCounty : ¬ r.byCounty = true := mt of_decide_eq_true hcounty
    rw [if_neg hbyCounty] at h
    obtain rfl := pure_eq_ok_iff.1 h
    have hsource : r.pivotRows.source.content e db = ("result", c) := congrArg _ hresult
    rw [answersFrom_nil_iff hlast, hsource, pivoted_yields_iff hcolumns [r.groupOrder] (by simp),
      ReportsPivoted]
    simp only [if_neg hcounty, List.append_nil, List.map_cons, List.map_nil, e.precedes_singleton,
      groupOrder, id_eq]

/-- The end of a report shows what it should, in whatever way the result is made. -/
theorem statement_answers_iff {s : Statement} (h : r.statement = .ok s) (hyears : r.years ≠ [])
    (hlate : ¬ ∃ y ∈ r.years, y < 2022) :
    s.AnswersFrom e "result" db out ↔ r.query.Reports e r.years c out := by
  have hmultiYear : r.multiYear = true ↔ 1 < r.years.length := decide_eq_true_iff
  rcases statement_cases h with ⟨hearly, -⟩ | ⟨-, ⟨hmetric, h⟩ | ⟨hmetric, ⟨hpivot, h⟩ | ⟨hrows, h⟩⟩⟩
  · exact absurd hearly hlate
  · have hpivoted : ¬ r.query.Pivoted r.years := fun hp => hp.1 hmetric
    obtain ⟨tables, rfl, hscoped⟩ := subscription_scoped h hmetric
    rw [ofResult_answers_iff hresult hcolumns hlabels (resultLast_of_scoped hscoped), Reports]
    exact ⟨fun hr => ⟨fun hp => absurd hp hpivoted, fun _ => hr⟩, fun hr => hr.2 hpivoted⟩
  · have hpivoted : r.query.Pivoted r.years := ⟨hmetric, hmultiYear.1 hpivot.1, hpivot.2⟩
    rw [pivot_answers_iff hresult hcolumns hlabels h
      (fun tables htables => resultLast_of_scoped (coverageTables_scoped htables hmetric)) hyears, Reports]
    exact ⟨fun hr => ⟨fun _ => hr, fun hp => absurd hpivoted hp⟩, fun hr => hr.1 hpivoted⟩
  · have hpivoted : ¬ r.query.Pivoted r.years := fun hp => hrows ⟨hmultiYear.2 hp.2.1, hp.2.2⟩
    obtain ⟨tables, htables, rfl⟩ := map_eq_ok_iff.1 h
    rw [ofResult_answers_iff hresult hcolumns hlabels
      (resultLast_of_scoped (coverageTables_scoped htables hmetric)), Reports]
    exact ⟨fun hr => ⟨fun hp => absurd hp hpivoted, fun _ => hr⟩, fun hr => hr.2 hpivoted⟩

end

end Report

/-- Something comes out of every result. -/
theorem Query.exists_reports (e : Engine) (q : Query) (years : List Int) (result : Content) :
    ∃ out, q.Reports e years result out := by
  by_cases hpivoted : q.Pivoted years
  · obtain ⟨groups, hperm, hsorted⟩ := e.exists_sorted [(q.sorting.direction, id)]
      (valuesOf (resultColumns years) "gruppe" result.rows)
    simp only [e.precedes_singleton, id_eq] at hsorted
    refine ⟨⟨q.pivotedColumns years, _, ?_⟩, fun _ => ⟨rfl, groups, hperm, hsorted, rfl⟩,
      fun h => absurd hpivoted h⟩
    intro row hrow
    rcases List.mem_append.1 hrow with hrow | hrow
    · obtain ⟨group, -, rfl⟩ := List.mem_map.1 hrow
      exact Report.length_pivotedRow _ _ _ _
    · split at hrow
      · rw [List.mem_singleton.1 hrow]
        exact Report.length_pivotedRow _ _ _ _
      · exact absurd hrow List.not_mem_nil
  · obtain ⟨rows, hperm, hsorted⟩ := e.exists_sorted ((q.sortColumns years).map fun k =>
      (k.1, (cell (resultColumns years) · k.2))) result.rows
    obtain ⟨nationals, hnationals, hlast⟩ := e.exists_sorted ((q.sortColumns years).map fun k =>
      (k.1, (cell (resultColumns years) · k.2)))
      (if q.grouping = .county then nationalRows e years result.rows else [])
    refine ⟨⟨rowColumns years (Report.shownFigures q.figures), _, ?_⟩, fun h => absurd h hpivoted,
      fun _ => ⟨rfl, rows, nationals, hperm, hsorted, hnationals, hlast, rfl⟩⟩
    intro row hrow
    obtain ⟨other, -, rfl⟩ := List.mem_map.1 hrow
    rw [List.length_map]

/-! ## The main statement -/

/-- **A report by county closes with the whole country.** Run on any table in the place of the result, in
which no county has the name of the country, a statement has an answer, and its answers are exactly these:
the rows of the table in the order that is asked for (its groups, by name, where the years stand side by
side), cut at the limit; and below them the country, if the groups are counties, summed up from all rows of
the table, one row for each year that there is or a single one. Only rows that are alike for the order can
be swapped. In a report by anything else the limit is put to all that is shown. -/
theorem Query.toSql_reports {q : Query} {o : Options} {sql : String} (h : q.toSql o = .ok sql)
    {years : List Int} (hyears : Period.resolve q.period o.year = .ok years)
    (hlate : ∀ y ∈ years, 2022 ≤ y) (e : Engine) (db : Database) {result : Content}
    (hresult : db.lookup "result" = some result) (hcolumns : result.columns = resultColumns years)
    (hlabels : q.grouping = .county →
      ∀ row ∈ result.rows, cell (resultColumns years) row "gruppe" ≠ .text nationalLabel) :
    ∃ s : Statement, q.statement o = .ok s ∧ s.text = sql ∧
      (∃ out, s.AnswersFrom e "result" db out) ∧
      ∀ out, s.AnswersFrom e "result" db out ↔ q.Reports e years result out := by
  obtain ⟨s, hs, htext⟩ := map_eq_ok_iff.1 h
  obtain ⟨r, hresolve, hreport⟩ := bind_eq_ok_iff.1 hs
  obtain ⟨rfl, hyears', hne⟩ := Query.resolve_eq_ok hresolve
  obtain rfl := Except.ok.inj (hyears'.symm.trans hyears)
  have hcontent : db.content "result" = result := by
    rw [Database.content, hresult]
    rfl
  have hlater : ¬ ∃ y ∈ r.years, y < 2022 := by
    rintro ⟨y, hy, hearly⟩
    have := hlate y hy
    omega
  have hanswers : ∀ out, s.AnswersFrom e "result" db out ↔ r.query.Reports e r.years result out :=
    fun out => Report.statement_answers_iff (r := ⟨r, o.directory⟩) hcontent hcolumns hlabels hreport hne
      hlater
  obtain ⟨out, hout⟩ := r.query.exists_reports e r.years result
  exact ⟨s, hs, htext, ⟨out, (hanswers out).2 hout⟩, hanswers⟩

/-- The county with the most homes that have fibre. -/
def Query.topCounty : Query :=
  { requirement := some (.single (.technology .fiber false)), metric := .homes, grouping := .county,
    sorting := ⟨.count, .desc⟩, limit := some 1, period := some (.years [2024]) }

/-- A result for two counties. -/
def twoCounties : Content where
  columns := ["gruppe", "covered", "total", "percent"]
  rows := [[.text "Oslo", .number 30, .number 40, .number 75],
    [.text "Agder", .number 50, .number 100, .number 50]]
  width := by decide

/-- The country sums up both counties, though only one is shown. -/
theorem Query.toSql_reports_topCounty :
    ∃ s : Statement, Query.topCounty.toSql {} = .ok s.text ∧
      ∃ out, s.AnswersFrom Engine.plain "result" [("result", twoCounties)] out ∧
        out.rows = [[.text "Agder", .number 50, .number 100, .number 50],
          [.text "Norge", .number 80, .number 140, .number (571 / 10)]] := by
  obtain ⟨sql, h⟩ : ∃ sql, Query.topCounty.toSql {} = .ok sql := ⟨_, rfl⟩
  have hyears : Period.resolve Query.topCounty.period none = .ok [2024] := rfl
  obtain ⟨s, -, rfl, -, hanswers⟩ := Query.toSql_reports h hyears (by decide) Engine.plain
    [("result", twoCounties)] rfl rfl (fun _ => by decide)
  refine ⟨s, h, ⟨["gruppe", "covered", "total", "percent"], _, ?_⟩, (hanswers _).2 ⟨?_, fun _ => ⟨rfl,
    [[.text "Agder", .number 50, .number 100, .number 50],
      [.text "Oslo", .number 30, .number 40, .number 75]],
    [[.text "Norge", .number 80, .number 140, .number (571 / 10)]], ?_, ?_, ?_, ?_, ?_⟩⟩, rfl⟩
  · decide
  · exact fun hp => absurd hp.2.1 (by decide)
  · decide
  · unfold Query.Sorted
    decide +kernel
  · decide +kernel
  · unfold Query.Sorted
    decide +kernel
  · decide +kernel

end Broadband
