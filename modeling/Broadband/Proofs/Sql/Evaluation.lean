import Broadband.Proofs.Sql.Columns
import Mathlib.Algebra.Order.Field.Rat
import Mathlib.Data.List.Dedup
import Mathlib.Data.Prod.Lex
import Mathlib.Data.String.Basic

/-!
# Running statements

What a database engine makes of a statement. A table has columns by position, and rows that give each of
them a value; it has no order. Where a statement sorts, the engine may choose among rows that the sort
keys do not tell apart, so a selection has answers and not one answer (`Select.Yields`): any arrangement of
its rows that the keys allow, cut where the limit says. Without sort keys any arrangement is allowed.

What engines do differently is left open in `Engine`: how they order texts and where they put nulls, and
how they round. The rest is common to them. Comparing with null is neither true nor false, and what is not
true does not count as met; sums leave out nulls and are null if there is nothing to add; a selection with
sums but without groups has one row, even if there are no rows to sum up.
-/

namespace Broadband.Sql

/-! ## Values and tables -/

/-- A value in a table. -/
inductive Datum
  | null
  | number (x : Rat)
  | text (s : String)
  | truth (b : Bool)
  deriving DecidableEq, Repr

/-- The value of a constant. -/
def Literal.datum : Literal → Datum
  | .number n => .number n
  | .text s => .text s
  | .truth b => .truth b

namespace Datum

/-- The number that a value is. -/
def number? : Datum → Option Rat
  | .number x => some x
  | _ => none

/-- The sum of the numbers among some values, null if there are none. -/
def sum (xs : List Datum) : Datum :=
  match xs.filterMap number? with
  | [] => .null
  | numbers => .number numbers.sum

/-- The average of the numbers among some values, null if there are none. -/
def average (xs : List Datum) : Datum :=
  match xs.filterMap number? with
  | [] => .null
  | numbers => .number (numbers.sum / numbers.length)

end Datum

/-- What a table holds: rows with a value for each column. -/
structure Content where
  columns : List String
  rows : List (List Datum)
  width : ∀ row ∈ rows, row.length = columns.length

/-- The value of a row under a name, null if there is none. -/
def cell (columns : List String) (row : List Datum) (name : String) : Datum :=
  ((columns.zip row).lookup name).getD .null

/-- The different values that rows have under a name. -/
def valuesOf (columns : List String) (name : String) (rows : List (List Datum)) : List Datum :=
  (rows.map (cell columns · name)).dedup

/-- The rows that have a value under a name. -/
def having (columns : List String) (name : String) (x : Datum) (rows : List (List Datum)) :
    List (List Datum) :=
  rows.filter (cell columns · name = x)

/-- A value is had by some row, and the first such row has it. -/
theorem exists_having_eq_cons {columns : List String} {name : String} {x : Datum} {rows : List (List Datum)}
    (h : x ∈ valuesOf columns name rows) :
    ∃ row rest, having columns name x rows = row :: rest ∧ cell columns row name = x := by
  obtain ⟨row, hrow, hcell⟩ := List.mem_map.1 (List.mem_dedup.1 h)
  have hmem : row ∈ having columns name x rows := List.mem_filter.2 ⟨hrow, decide_eq_true hcell⟩
  obtain ⟨first, rest, hlist⟩ := List.exists_cons_of_ne_nil (List.ne_nil_of_mem hmem)
  have hfirst : first ∈ having columns name x rows := by
    rw [hlist]
    exact List.mem_cons_self
  exact ⟨first, rest, hlist, of_decide_eq_true (List.mem_filter.1 hfirst).2⟩

/-- Tables by their names, the latest first. -/
abbrev Database := List (String × Content)

/-- What a table holds; what is no table holds nothing. -/
def Database.content (db : Database) (table : String) : Content :=
  (db.lookup table).getD ⟨[], [], List.forall_mem_nil _⟩

/-! ## Engines -/

/-- A database engine: how it orders values in either direction, and how it rounds percentages, with the
data files that it reads. -/
structure Engine where
  le : Direction → Datum → Datum → Bool
  le_total : ∀ d x y, le d x y = true ∨ le d y x = true
  le_trans : ∀ d x y z, le d x y = true → le d y z = true → le d x z = true
  le_number : ∀ x y, le .asc (.number x) (.number y) = decide (x ≤ y)
  /-- A fraction as a percentage with one decimal. -/
  percent : Datum → Datum
  /-- The percentage of a part in a whole, with one decimal. -/
  percentage : Datum → Datum → Datum
  /-- The rows of data files. -/
  files : List YearFile → Content

/-- Numbers before texts before truths before null, and the usual order within each kind. -/
def Datum.sortKey : Datum → ℕ ×ₗ ℚ ×ₗ String
  | .number x => toLex (0, toLex (x, ""))
  | .text s => toLex (1, toLex (0, s))
  | .truth b => toLex (2, toLex (if b then 1 else 0, ""))
  | .null => toLex (3, toLex (0, ""))

/-- A number with one decimal. -/
def roundTenth (x : Rat) : Rat := (10 * x + 1 / 2).floor / 10

namespace Engine

/-- An engine that has no data files. It sorts in one direction as in the other, turned round. -/
def plain : Engine where
  le
    | .asc, x, y => x.sortKey ≤ y.sortKey
    | .desc, x, y => y.sortKey ≤ x.sortKey
  le_total d x y := by
    cases d <;> simp only [decide_eq_true_eq] <;> exact LinearOrder.le_total _ _
  le_trans d x y z hxy hyz := by
    cases d <;> simp only [decide_eq_true_eq] at hxy hyz ⊢
    · exact hxy.trans hyz
    · exact hyz.trans hxy
  le_number x y := by
    refine decide_eq_decide.2 ?_
    simp only [Datum.sortKey, Prod.Lex.toLex_le_toLex]
    simp [le_iff_lt_or_eq]
  percent
    | .number x => .number (roundTenth (100 * x))
    | _ => .null
  percentage
    | .number part, .number whole => if whole = 0 then .null else .number (roundTenth (100 * part / whole))
    | _, _ => .null
  files _ := ⟨[], [], List.forall_mem_nil _⟩

/-- Nothing is sorted the other way round by the first key that tells two things apart. -/
def precedes {α : Type} (e : Engine) : List (Direction × (α → Datum)) → α → α → Bool
  | [], _, _ => true
  | (d, value) :: keys, a, b =>
    e.le d (value a) (value b) && (!e.le d (value b) (value a) || e.precedes keys a b)

/-- A comparison, unknown if there is nothing to compare. -/
def compare (e : Engine) (op : Comparison) (x y : Datum) : Option Bool :=
  if x = .null ∨ y = .null then none
  else some <| match op with
    | .eq => x = y
    | .ne => x ≠ y
    | .le => e.le .asc x y
    | .ge => e.le .asc y x
    | .lt => !e.le .asc y x
    | .gt => !e.le .asc x y

end Engine

/-! ## Conditions and values of rows -/

/-- The values in view, under the short names of their tables and the names of their columns. -/
abbrev Frame := List (String × List (String × Datum))

/-- The value of a column, taken from the first table in view that may be meant and has it. -/
def Frame.value (f : Frame) (c : Column) : Datum :=
  (f.findSome? fun t => if c.table.all (· = t.1) then t.2.lookup c.name else none).getD .null

/-- The value of what a column is compared with. -/
def Operand.value (f : Frame) : Operand → Datum
  | .literal l => l.datum
  | .column c => f.value c

/-- The value of a column in the first of several rows. -/
def firstValue (rows : List Frame) (c : Column) : Datum := (rows.head?.map (·.value c)).getD .null

section

variable (e : Engine)

/-- The truth of a condition, if it has one. What is given as text is not looked into. -/
def Condition.truth? (f : Frame) : Condition → Option Bool
  | .truth c =>
    match f.value c with
    | .truth b => some b
    | _ => none
  | .compare left op right => e.compare op (f.value left) (right.value f)
  | .oneOf left choices =>
    if f.value left = .null then none else some (choices.any fun l => l.datum = f.value left)
  | .verbatim _ => none
  | .join .and left right =>
    match left.truth? f, right.truth? f with
    | some false, _ => some false
    | _, some false => some false
    | some true, some true => some true
    | _, _ => none
  | .join .or left right =>
    match left.truth? f, right.truth? f with
    | some true, _ => some true
    | _, some true => some true
    | some false, some false => some false
    | _, _ => none
  | .not inner => (inner.truth? f).map (! ·)
  | .group inner => inner.truth? f

/-- A condition is met if it is true. -/
def Condition.met (f : Frame) (c : Condition) : Bool := c.truth? e f = some true

/-- The value of an expression for a group of rows, one of several groups. What is not summed up is the
same for all rows of the group. -/
def Scalar.value (groups : List (List Frame)) (rows : List Frame) : Scalar → Datum
  | .column c => firstValue rows c
  | .literal l => l.datum
  | .countRows => .number rows.length
  | .sum x => Datum.sum (rows.map fun f => x.value groups [f])
  | .average x => Datum.average (rows.map fun f => x.value groups [f])
  | .coalesce choices =>
    ((choices.map (·.value (rows.headD []))).find? (· ≠ .null)).getD .null
  | .percent x => e.percent (x.value groups rows)
  | .percentage part whole => e.percentage (part.value groups rows) (whole.value groups rows)
  | .onlyIf c x => if c.met e (rows.headD []) then x.value groups rows else .null
  | .ifElse c yes no => if c.met e (rows.headD []) then yes.value groups rows else no.value groups rows
  | .sizeRank among tie =>
    -- larger groups rank first, and groups of the same size by the column that breaks ties
    let ahead (other : List Frame) : Bool :=
      other.length > rows.length ||
        other.length == rows.length && !e.le .asc (firstValue rows tie) (firstValue other tie)
    .number (1 + (groups.countP fun other =>
      ahead other && among.all fun c => firstValue other c = firstValue rows c : Nat))

end

/-- The expression sums up rows. -/
def Scalar.aggregates : Scalar → Bool
  | .countRows | .sum _ | .average _ | .sizeRank _ _ => true
  | .column _ | .literal _ | .coalesce _ => false
  | .percent x | .onlyIf _ x => x.aggregates
  | .percentage x y | .ifElse _ x y => x.aggregates || y.aggregates

/-! ## Selections -/

/-- A row comes into view under the short name of its table. -/
def rowFrame (short : String) (columns : List String) (row : List Datum) : Frame :=
  [(short, columns.zip row)]

/-- The rows of a table come into view. -/
def Content.frames (c : Content) (short : String) : List Frame := c.rows.map (rowFrame short c.columns)

/-- The rows of a table as far as the limit goes. -/
def cut {α : Type} (limit : Option Nat) (xs : List α) : List α :=
  match limit with
  | none => xs
  | some n => xs.take n

section

variable (e : Engine) (db : Database)

/-- The values that a subquery has where the frame is in view. -/
def Subquery.values (f : Frame) (s : Subquery) : List Datum :=
  let table := db.content s.table.name
  let rows := (table.frames (s.table.short.getD s.table.name)).map (· ++ f)
  (rows.filter fun g => s.conditions.all (·.met e g)).map (·.value s.column)

/-- A predicate is met if it is true. A key is known not to be in a subquery only if neither is null. -/
def Predicate.met (f : Frame) : Predicate → Bool
  | .holds c => c.met e f
  | .within key s => f.value key ≠ .null && (s.values e db f).contains (f.value key)
  | .outside key s =>
    let values := s.values e db f
    -- one null among the values leaves it open for every key whether it is one of them
    values.isEmpty ||
      (f.value key ≠ .null && !values.contains .null && !values.contains (f.value key))
  | .withinEach key ss => f.value key ≠ .null && ss.all fun s => (s.values e db f).contains (f.value key)

/-- The rows of another table are put beside a row. -/
def Join.beside (j : Join) (f : Frame) : List Frame :=
  let table := db.content j.table.name
  let short := j.table.short.getD j.table.name
  let partners := ((table.frames short).map (f ++ ·)).filter fun g => j.conditions.all (·.met e g)
  if partners.isEmpty && j.outer then [f ++ [(short, table.columns.map (·, .null))]] else partners

namespace Select

variable {S : Type} (source : String × Content) (s : Select S)

/-- The rows that a selection is about, with what is joined to them and as far as they are not filtered
out. -/
def frames : List Frame :=
  let joined := s.joins.foldl (fun fs j => fs.flatMap (j.beside e db)) (source.2.frames source.1)
  joined.filter fun f => s.filters.all (·.met e db f)

/-- The rows of a selection by groups: those that agree in the grouping, all rows if they are summed up
without grouping, and else every row alone. -/
def groups (fs : List Frame) : List (List Frame) :=
  if s.groupBy.isEmpty then
    if s.columns.any (·.value.aggregates) then [fs] else fs.map ([·])
  else
    let key (f : Frame) : List Datum := s.groupBy.map (·.value e [] [f])
    (fs.map key).dedup.map fun k => fs.filter fun f => key f = k

/-- The names of the columns of the answer. -/
def labels : List String :=
  if s.columns.isEmpty then
    source.2.columns ++ s.joins.flatMap fun j => (db.content j.table.name).columns
  else s.columns.map Item.label

/-- The row of the answer for a group. -/
def output (gs : List (List Frame)) (g : List Frame) : List Datum :=
  if s.columns.isEmpty then (g.headD []).flatMap (·.2.map Prod.snd)
  else s.columns.map (·.value.value e gs g)

/-- What the answer is sorted by. Columns of the answer come into view before those of the tables. -/
def sortKeys (gs : List (List Frame)) : List (Direction × (List Frame → Datum)) :=
  s.orderBy.map fun k => (k.direction, fun g =>
    k.value.value e gs (g.map (("", (s.labels db source).zip (s.output e gs g)) :: ·)))

/-- The selection has this answer: the groups in an order that the sort keys allow, cut at the limit. -/
def Yields (out : Content) : Prop :=
  let gs := s.groups e (s.frames e db source)
  out.columns = s.labels db source ∧
    ∃ picked : List (List Frame), picked.Perm gs ∧
      picked.Pairwise (fun g h => e.precedes (s.sortKeys e db source gs) g h = true) ∧
      out.rows = (cut s.limit picked).map (s.output e gs)

end Select

/-- The different rows of some columns of a table. -/
def Content.distinct (c : Content) (short : String) (columns : List Item) : Content where
  columns := columns.map Item.label
  rows := ((c.frames short).map fun f => columns.map (·.value.value e [] [f])).dedup
  width := by
    intro row hrow
    obtain ⟨f, -, rfl⟩ := List.mem_map.1 (List.mem_dedup.1 hrow)
    rw [List.length_map, List.length_map]

/-- A source with its short name. -/
def Source.content : Source → String × Content
  | .table t => (t.short.getD t.name, db.content t.name)
  | .distinct columns t short =>
    (short, (db.content t.name).distinct e (t.short.getD t.name) columns)

/-- A table may hold this. -/
def Body.Yields (out : Content) : Body → Prop
  | .files fs => out = e.files fs
  | .select s => s.Yields e db (s.source.content e db) out
  | .nested s =>
    ∃ inner : Content, s.source.inner.Yields e db (s.source.inner.source.content e db) inner ∧
      s.Yields e db (s.source.short, inner) out
  | .union tables =>
    out.columns = (db.content (tables.headD "")).columns ∧
      out.rows.Perm (tables.flatMap fun t => (db.content t).rows)

end

/-- Running the definitions of tables one after the other may lead from one database to another. -/
inductive Runs (e : Engine) : Database → List Definition → Database → Prop
  | nil (db : Database) : Runs e db [] db
  | cons {db after : Database} {d : Definition} {ds : List Definition} {c : Content} :
      d.body.Yields e db c → Runs e ((d.name, c) :: db) ds after → Runs e db (d :: ds) after

/-- The tables that are defined behind one of them. -/
def Statement.behind (s : Statement) (table : String) : List Definition :=
  (s.tables.dropWhile (·.name ≠ table)).tail

/-- The tables up to one of them, with it. -/
def Statement.upTo (s : Statement) (table : String) : List Definition :=
  s.tables.take (s.tables.findIdx (·.name = table) + 1)

/-- The statement has this answer, if the tables up to one of them are those of a database. -/
def Statement.AnswersFrom (e : Engine) (table : String) (db : Database) (s : Statement) (out : Content) :
    Prop :=
  ∃ after, Runs e db (s.behind table) after ∧ s.main.Yields e after (s.main.source.content e after) out

/-! ## Tables one after the other -/

section

variable {e : Engine} {db after : Database} {d : Definition} {ds : List Definition} {c : Content}
  {table other : String}

theorem runs_nil_iff : Runs e db [] after ↔ after = db := by
  constructor
  · rintro ⟨⟩
    rfl
  · rintro rfl
    exact .nil _

theorem runs_cons_iff :
    Runs e db (d :: ds) after ↔ ∃ c, d.body.Yields e db c ∧ Runs e ((d.name, c) :: db) ds after := by
  constructor
  · rintro (_ | ⟨hbody, hrest⟩)
    exact ⟨_, hbody, hrest⟩
  · rintro ⟨c, hbody, hrest⟩
    exact .cons hbody hrest

/-- A table holds what it was last given. -/
theorem content_cons_self : Database.content ((table, c) :: db) table = c := by
  rw [Database.content, List.lookup_cons_self]
  rfl

/-- Other tables stay as they are. -/
theorem content_cons_of_ne (h : table ≠ other) :
    Database.content ((other, c) :: db) table = Database.content db table := by
  rw [Database.content, List.lookup_cons, beq_eq_false_iff_ne.2 h]
  rfl

/-- The tables behind one of them are those that are listed behind it. -/
theorem Statement.behind_eq {before : List Definition} (hbefore : ∀ d ∈ before, d.name ≠ table)
    (hname : d.name = table) (main : Select Source) :
    Statement.behind ⟨before ++ d :: ds, main⟩ table = ds := by
  have hpass : ∀ x ∈ before, (decide (x.name ≠ table)) = true := fun x hx => decide_eq_true (hbefore x hx)
  rw [Statement.behind, List.dropWhile_append_of_pos hpass, List.dropWhile_cons, if_neg (by simp [hname]),
    List.tail_cons]

/-- The tables up to one of them are those that are listed in front of it, and it. -/
theorem Statement.upTo_eq {before : List Definition} (hbefore : ∀ d ∈ before, d.name ≠ table)
    (hname : d.name = table) (main : Select Source) :
    Statement.upTo ⟨before ++ d :: ds, main⟩ table = before ++ [d] := by
  have hpass : before.findIdx (·.name = table) = before.length := by
    rw [List.findIdx_eq_length]
    exact fun x hx => decide_eq_false (hbefore x hx)
  have hself : (d :: ds).findIdx (·.name = table) = 0 := by
    rw [List.findIdx_cons, decide_eq_true hname]
    rfl
  simp only [Statement.upTo, List.findIdx_append, hpass, lt_irrefl, if_false, hself, Nat.zero_add,
    List.take_length_add_append]
  rfl

end

end Broadband.Sql
