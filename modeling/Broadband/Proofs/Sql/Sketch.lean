import Broadband.Proofs.Sql.Phrases
import Broadband.Proofs.Sql.ReadBack
import Broadband.Proofs.Sql.Rendering

/-!
# Statements are read back

What a statement selects, from what, joined with what, by which conditions, groups and order, is
data, and its text is written from it. Here the text is read: `readSketch?` finds in it the clauses
of a `SELECT` and in those the columns with their names, the joins with their tables and conditions
and the sort keys with their directions. It stops there, at the texts of values and conditions;
those of conditions are read by `formula?`.

A statement is neat if its names are words and not those that the reader looks for, and if no
condition is a conjunction that could be taken for several (`Select.Neat`). The text of a neat
`SELECT` is read as what it was written from, `Select.Neat.readSketch?_text`, and so is that of a
statement with all its tables: `Statement.Neat.readStatement?_text`.
-/

namespace Broadband.Sql

/-! ## Reading -/

/-- A column of the answer: the text of its value, and its name if it has one of its own. -/
def readItem (s : String) : String × Option String :=
  match cutAtWord ' ' "AS" s with
  | [value, name] => (value, some name)
  | _ => (s, none)

/-- The direction that a word of a statement stands for. -/
def direction? (word : String) : Option Direction :=
  [Direction.asc, Direction.desc].find? fun d => d.keyword = word

/-- A sort key: the text of its value, and its direction. -/
def readKey? (s : String) : Option (String × Direction) :=
  ((words s).getLast?.bind direction?).map fun d => (" ".intercalate (words s).dropLast, d)

/-- A join, behind the words that open it: the text of its table, and those of its conditions. -/
def readJoined? (s : String) : Option (String × List String) :=
  match cutAtWord ' ' "ON" s with
  | [table, conditions] => some (table, conjuncts conditions)
  | _ => none

/-- A join: whether rows without a partner are kept, the text of its table, and those of its
conditions. -/
def readJoin? (s : String) : Option (Bool × String × List String) :=
  match after? "LEFT JOIN " s with
  | some joined => (readJoined? joined).map (true, ·)
  | none => (after? "JOIN " s).bind fun joined => (readJoined? joined).map (false, ·)

/-- The texts of the parts of a `SELECT`. -/
structure Sketch where
  columns : List (String × Option String)
  source : String
  joins : List (Bool × String × List String)
  filters : List String
  groupBy : List String
  orderBy : List (String × Direction)
  limit : Option Nat
  deriving DecidableEq, Repr

/-- Reads a `SELECT`. -/
def readSketch? (s : String) : Option Sketch := do
  let c ← readClauses? s
  let joins ← c.joins.mapM readJoin?
  let orderBy ← c.orderBy.mapM readKey?
  return {
    columns := c.columns.map readItem
    source := c.source
    joins
    filters := c.filters
    groupBy := c.groupBy
    orderBy
    limit := c.limit }

/-- The parts of a `SELECT`, given the text of its source. -/
def Select.sketch {Source : Type} (sourceText : Source → String) (s : Select Source) : Sketch where
  columns := s.columns.map fun i => (i.value.text, i.name)
  source := sourceText s.source
  joins := s.joins.map fun j => (j.outer, j.table.text, j.conditions.map Condition.text)
  filters := s.filters.map Predicate.text
  groupBy := s.groupBy.map Scalar.text
  orderBy := s.orderBy.map fun k => (k.value.text, k.direction)
  limit := s.limit

/-! ## Columns, keys and joins -/

/-- The names of a column of the answer can be read. -/
def Item.neat (i : Item) : Bool := i.value.neat && i.name.all isIdentifier

/-- The names of a join can be read, and how many conditions it has. -/
def Join.neat (j : Join) : Bool :=
  j.table.neat && !j.conditions.isEmpty && j.conditions.all fun c => c.neat && c.apart

/-- The text is cut at a word that only stands where it is written. -/
theorem cutAtWord_phrase {word separator s t : String} (hword : word.toList.all isTight = true)
    (hseparator : " " ++ word ++ " " = separator) (hs : Phrase [word] s) (ht : Phrase [word] t) :
    cutAtWord ' ' word (s ++ separator ++ t) = [s, t] := by
  have hbalanced := balanced_of_isFree (isFree_of_isTight hword)
  have hwords : Balanced word ∧ [' '] ∉ pieces word :=
    ⟨hbalanced, notMem_pieces_of_isTight hword rfl⟩
  have hfirst : Balanced s ∧ word ∉ cutAt ' ' s := ⟨hs.balanced, hs.noWord _ List.mem_cons_self⟩
  have hrest : word ∉ cutAt ' ' t := ht.noWord _ List.mem_cons_self
  have hblank : isFree ' ' = true := rfl
  rw [cutAtWord_append hblank hseparator hwords hfirst, cutAtWord_of_notMem hrest]

namespace Item

variable {i : Item}

theorem phrase {ban : List String} (hban : ban ⊆ reserved) (hand : "AND" ∉ ban) (has : "AS" ∉ ban)
    (h : i.neat = true) : Phrase ban i.text := by
  obtain ⟨value, name⟩ := i
  rw [neat, Bool.and_eq_true] at h
  have hvalue := Scalar.phrase hban hand h.1
  cases name with
  | none => exact hvalue
  | some name =>
    exact hvalue.divided (phrase_of_isTight rfl has) rfl (phrase_of_isIdentifier hban h.2)

/-- The value and the name of a column are read back. -/
theorem readItem_text (h : i.neat = true) : readItem i.text = (i.value.text, i.name) := by
  obtain ⟨value, name⟩ := i
  rw [neat, Bool.and_eq_true] at h
  have hvalue : Phrase ["AS"] value.text := Scalar.phrase (by decide) (by decide) h.1
  cases name with
  | none =>
    have hwhole := cutAtWord_of_notMem (hvalue.noWord _ List.mem_cons_self)
    change readItem value.text = (value.text, none)
    rw [readItem, hwhole]
  | some name =>
    have hname : Phrase ["AS"] name := phrase_of_isIdentifier (by decide) h.2
    have hparts := cutAtWord_phrase rfl (show " " ++ "AS" ++ " " = " AS " from rfl) hvalue hname
    change readItem (value.text ++ " AS " ++ name) = (value.text, some name)
    rw [readItem, hparts]

end Item

/-- The value and the direction of a sort key are read back. -/
theorem OrderKey.readKey?_text {k : OrderKey} (h : k.value.neat = true) :
    readKey? k.text = some (k.value.text, k.direction) := by
  -- the direction is the last word, however many the value has
  have hvalue := Scalar.phrase (List.nil_subset reserved) List.not_mem_nil h
  have hdirection : words k.direction.keyword = [k.direction.keyword] := by
    cases k.direction <;> decide
  have hwords : words k.text = words k.value.text ++ [k.direction.keyword] := by
    rw [text, words_append hvalue.balanced, hdirection]
  have htext : " ".intercalate (words k.value.text) = k.value.text := intercalate_cutAt rfl _
  have hread : direction? k.direction.keyword = some k.direction := by cases k.direction <;> decide
  rw [readKey?, hwords, List.getLast?_concat, List.dropLast_concat, htext, Option.bind_some, hread,
    Option.map_some]

theorem OrderKey.phrase {k : OrderKey} (h : k.value.neat = true) : Phrase [] k.text := by
  have hban := List.nil_subset reserved
  have hdirection : Phrase [] k.direction.keyword :=
    phrase_of_isIdentifier hban (by cases k.direction <;> rfl)
  exact (Scalar.phrase hban List.not_mem_nil h).beside hdirection

namespace Join

variable {j : Join}

/-- The text of a join, behind the words that open it. -/
def joined (j : Join) : String :=
  j.table.text ++ " ON " ++ " AND ".intercalate (j.conditions.map Condition.text)

theorem text_eq_joined (j : Join) :
    j.text = (if j.outer then "LEFT JOIN " else "JOIN ") ++ j.joined := by
  simp only [text, joined, String.append_assoc]

theorem isJoin_text (j : Join) : isJoin j.text = true := by
  rw [text_eq_joined]
  cases j.outer with
  | true => exact isJoin_leftJoin _
  | false => exact isJoin_join _

theorem phrase_conditions {ban : List String} (hban : ban ⊆ reserved) (hand : "AND" ∉ ban)
    (h : j.neat = true) :
    Phrase ban (" AND ".intercalate (j.conditions.map Condition.text)) := by
  simp only [neat, Bool.and_eq_true, Bool.not_eq_true', List.isEmpty_eq_false_iff,
    List.all_eq_true] at h
  refine phrase_intercalate (phrase_of_isTight (s := "AND") rfl hand) rfl ?_
    (List.forall_mem_map.2 fun c hc => ?_)
  · simpa using h.1.2
  · exact c.phrase hban (h.2 c hc).1 fun hmem => absurd hmem hand

theorem phrase (h : j.neat = true) : Phrase [] j.text := by
  have hban := List.nil_subset reserved
  have hconditions := phrase_conditions hban List.not_mem_nil h
  have htable : Phrase [] j.table.text := by
    simp only [neat, Bool.and_eq_true] at h
    exact Table.phrase hban h.1.1
  have hword : ∀ w : String, w.toList.all isTight = true → Phrase [] w :=
    fun _ hw => phrase_of_isTight hw List.not_mem_nil
  have hjoined : Phrase [] j.joined := htable.divided (hword "ON" rfl) rfl hconditions
  rw [text_eq_joined]
  cases j.outer with
  | true => exact hjoined.after ((hword "LEFT" rfl).beside (hword "JOIN" rfl)) rfl
  | false => exact hjoined.after (hword "JOIN" rfl) rfl

/-- The table and the conditions of a join are read back. -/
theorem readJoined?_joined (h : j.neat = true) :
    readJoined? j.joined = some (j.table.text, j.conditions.map Condition.text) := by
  have hconditions : Phrase ["ON"] (" AND ".intercalate (j.conditions.map Condition.text)) :=
    phrase_conditions (by decide) (by decide) h
  simp only [neat, Bool.and_eq_true, Bool.not_eq_true', List.isEmpty_eq_false_iff,
    List.all_eq_true] at h
  have htable : Phrase ["ON"] j.table.text := Table.phrase (by decide) h.1.1
  have hparts := cutAtWord_phrase rfl (show " " ++ "ON" ++ " " = " ON " from rfl) htable hconditions
  have hlist : conjuncts (" AND ".intercalate (j.conditions.map Condition.text))
      = j.conditions.map Condition.text := by
    refine conjuncts_intercalate (by simpa using h.1.2) (List.forall_mem_map.2 fun c hc => ?_)
    have hphrase : Phrase ["AND"] c.text := c.phrase (by decide) (h.2 c hc).1 fun _ => (h.2 c hc).2
    exact ⟨hphrase.balanced, hphrase.noWord _ List.mem_cons_self⟩
  rw [readJoined?, joined, hparts]
  dsimp only
  rw [hlist]

theorem readJoin?_text (h : j.neat = true) :
    readJoin? j.text = some (j.outer, j.table.text, j.conditions.map Condition.text) := by
  have hjoined := readJoined?_joined h
  rw [text_eq_joined, readJoin?]
  cases j.outer with
  | true =>
    rw [if_pos rfl, after?_append]
    dsimp only
    rw [hjoined]
    rfl
  | false =>
    rw [if_neg Bool.false_ne_true, after?_of_differ (by decide), after?_append]
    dsimp only
    rw [Option.bind_some, hjoined]
    rfl

end Join

/-! ## Selections -/

/-- All names in a `SELECT` can be read, and no condition could be taken for several. -/
structure Select.Neat {Source : Type} (sourceText : Source → String) (s : Select Source) :
    Prop where
  columns : ∀ i ∈ s.columns, i.neat = true
  source : OneLine (sourceText s.source)
  joins : ∀ j ∈ s.joins, j.neat = true
  filters : ∀ p ∈ s.filters, p.neat = true ∧ p.apart = true
  groupBy : ∀ x ∈ s.groupBy, x.neat = true
  orderBy : ∀ k ∈ s.orderBy, k.value.neat = true

/-- The texts of the clauses of a `SELECT`. -/
def Select.clauses {Source : Type} (sourceText : Source → String) (s : Select Source) :
    Clauses where
  columns := s.columns.map Item.text
  source := sourceText s.source
  joins := s.joins.map Join.text
  filters := s.filters.map Predicate.text
  groupBy := s.groupBy.map Scalar.text
  orderBy := s.orderBy.map OrderKey.text
  limit := s.limit

namespace Select.Neat

variable {Source : Type} {sourceText : Source → String} {s : Select Source}

theorem legible_clauses (h : s.Neat sourceText) : (s.clauses sourceText).Legible where
  columns := List.forall_mem_map.2 fun i hi =>
    Item.phrase (List.nil_subset reserved) List.not_mem_nil List.not_mem_nil (h.columns i hi)
  columns_ne := by
    -- the star is among the words that no name may be, so no column consists of it
    intro hstar
    have hstar' : s.columns.map Item.text = ["*"] := hstar
    obtain ⟨i, hi, htext⟩ := List.mem_map.1 (hstar' ▸ List.mem_singleton_self "*")
    have hphrase : Phrase ["*"] i.text :=
      Item.phrase (by decide) (by decide) (by decide) (h.columns i hi)
    refine hphrase.noWord "*" List.mem_cons_self ?_
    rw [htext]
    decide
  source := h.source
  joins := List.forall_mem_map.2 fun j hj => ⟨(Join.phrase (h.joins j hj)).toOneLine, j.isJoin_text⟩
  filters := List.forall_mem_map.2 fun p hp =>
    p.phrase (by decide) (h.filters p hp).1 fun _ => (h.filters p hp).2
  groupBy := List.forall_mem_map.2 fun x hx =>
    Scalar.phrase (List.nil_subset reserved) List.not_mem_nil (h.groupBy x hx)
  orderBy := List.forall_mem_map.2 fun k hk => OrderKey.phrase (h.orderBy k hk)

/-- Reading each of the texts of a list gives back what it was written from. -/
theorem mapM_map_eq_some {α β γ : Type} {read : β → Option γ} {text : α → β} {parts : α → γ}
    {xs : List α} (h : ∀ x ∈ xs, read (text x) = some (parts x)) :
    (xs.map text).mapM read = some (xs.map parts) := by
  induction xs with
  | nil => rfl
  | cons x xs ih =>
    rw [List.forall_mem_cons] at h
    rw [List.map_cons, List.mapM_cons, h.1, ih h.2]
    rfl

/-- **The parts of a `SELECT` are read back** from its text: its columns with their names, its
source, its joins with their conditions, what its rows are filtered, grouped and sorted by, and how
many of them there are at most. -/
theorem readSketch?_text (h : s.Neat sourceText) :
    readSketch? (s.text sourceText) = some (s.sketch sourceText) := by
  have hclauses : readClauses? (s.text sourceText) = some (s.clauses sourceText) :=
    h.legible_clauses.readClauses?_text
  have hcolumns : (s.columns.map Item.text).map readItem
      = s.columns.map fun i => (i.value.text, i.name) := by
    rw [List.map_map]
    exact List.map_congr_left fun i hi => Item.readItem_text (h.columns i hi)
  have hjoins := mapM_map_eq_some fun j hj => Join.readJoin?_text (h.joins j hj)
  have horderBy := mapM_map_eq_some fun k hk => OrderKey.readKey?_text (h.orderBy k hk)
  rw [readSketch?, hclauses]
  simp only [Select.clauses, Option.bind_eq_bind, Option.bind_some, hjoins, horderBy, hcolumns]
  rfl

-- commas, line feeds and words in literals and parentheses divide nothing
example :
    readSketch?
      "SELECT a, F(b, 0) AS n\nFROM t\nJOIN u ON k = l AND x\nWHERE c = ',\n' AND (d AND e)\nLIMIT 3"
    = some {
      columns := [("a", none), ("F(b, 0)", some "n")]
      source := "t"
      joins := [(false, "u", ["k = l", "x"])]
      filters := ["c = ',\n'", "(d AND e)"]
      groupBy := []
      orderBy := []
      limit := some 3 } := by
  decide +kernel

theorem balanced_text (h : s.Neat sourceText) : Balanced (s.text sourceText) := by
  have hlines := h.legible_clauses.oneLine_lines
  have htext : s.text sourceText = "\n".intercalate (s.clauses sourceText).lines :=
    Clauses.text_eq_lines _
  rw [htext]
  exact balanced_intercalate (balanced_of_isFree rfl) fun line hline => (hlines line hline).balanced

end Select.Neat

/-- The names of a source can be read. -/
def Source.neat : Source → Bool
  | .table t => t.neat
  | .distinct columns t short => columns.all Item.neat && t.neat && isIdentifier short

theorem Source.oneLine_text {s : Source} (h : s.neat = true) : OneLine s.text := by
  have hban := List.nil_subset reserved
  cases s with
  | table t => exact (Table.phrase hban h).toOneLine
  | distinct columns t short =>
    simp only [neat, Bool.and_eq_true, List.all_eq_true] at h
    have hcolumns : Balanced (", ".intercalate (columns.map Item.text)) := by
      refine balanced_intercalate (balanced_of_isFree rfl) (List.forall_mem_map.2 fun i hi => ?_)
      exact (Item.phrase hban List.not_mem_nil List.not_mem_nil (h.1.1 i hi)).balanced
    have hinner : Balanced
        ("SELECT DISTINCT " ++ (", ".intercalate (columns.map Item.text) ++ " FROM " ++ t.text)) :=
      (balanced_of_isFree rfl).append
        ((hcolumns.append (balanced_of_isFree rfl)).append (Table.phrase hban h.1.2).balanced)
    have hnamed : Phrase [] ("(SELECT DISTINCT " ++
        (", ".intercalate (columns.map Item.text) ++ " FROM " ++ t.text) ++ ") " ++ short) :=
      phrase_named hban rfl rfl hinner (phrase_of_isIdentifier hban h.2)
    have htext : (Source.distinct columns t short).text
        = "(SELECT DISTINCT " ++ ", ".intercalate (columns.map Item.text) ++ " FROM " ++ t.text
          ++ ") " ++ short := rfl
    simp only [String.append_assoc] at hnamed
    simpa only [htext, String.append_assoc] using hnamed.toOneLine

theorem filter_flatMap_lines (cs : List Char) :
    ((Text.lines cs).flatMap fun l => ' ' :: ' ' :: l ++ ['\n']).filter (!isFree ·)
      = cs.filter (!isFree ·) := by
  have hblank : isFree ' ' = true := rfl
  have hfeed : isFree '\n' = true := rfl
  have hreturn : isFree '\r' = true := rfl
  -- the blanks in front of a line and the feed behind it are free, and so is what lines end in
  fun_induction Text.lines cs with
  | case1 => rfl
  | case2 cs ih => simpa [hblank, hfeed] using ih
  | case3 cs ih => simpa [hblank, hfeed, hreturn] using ih
  | case4 c cs hn hrn hlines ih =>
    rw [hlines] at ih
    simp only [List.flatMap_cons, List.flatMap_nil, List.filter_nil] at ih ⊢
    simp [List.filter_cons, hblank, hfeed, ← ih]
  | case5 c cs hn hrn l ls hlines ih =>
    rw [hlines] at ih
    simp only [List.flatMap_cons, List.cons_append, List.filter_cons, hblank] at ih ⊢
    simp [← ih]

/-- Moving the lines of a text to the right opens and closes nothing. -/
theorem Balanced.indent {s : String} (hs : Balanced s) : Balanced (Text.indent s) := by
  rw [Balanced, Text.indent, String.toList_ofList, ← closes_filter_iff, filter_flatMap_lines,
    closes_filter_iff]
  exact hs

theorem Derived.oneLine_text {d : Derived} (h : d.inner.Neat Source.text)
    (hshort : isIdentifier d.short = true) :
    OneLine d.text := by
  have hban := List.nil_subset reserved
  have hinner : Balanced ("\n" ++ Text.indent (d.inner.text Source.text)) :=
    (balanced_of_isFree rfl).append h.balanced_text.indent
  exact (phrase_named hban rfl rfl hinner (phrase_of_isIdentifier hban hshort)).toOneLine

/-! ## Statements -/

/-- What a named table holds, as it is read: the parts of a `SELECT`, or the texts whose rows are
taken together. -/
inductive BodySketch
  | select (sketch : Sketch)
  | union (parts : List String)
  deriving DecidableEq, Repr

/-- Reads what a named table holds. -/
def readBody (s : String) : BodySketch :=
  match readSketch? s with
  | some sketch => .select sketch
  | none => .union (cutAtWord '\n' "UNION ALL" s)

/-- Reads a statement: its named tables, and what is selected from them. -/
def readStatement? (s : String) : Option (List (String × BodySketch) × Sketch) := do
  let (tables, main) ← readTables? s
  let sketch ← readSketch? main
  return (tables.map fun t => (t.1, readBody t.2), sketch)

/-- What a named table holds, in the texts of its parts. -/
def Body.sketch : Body → BodySketch
  | .files fs => .union (fs.map YearFile.text)
  | .select s => .select (s.sketch Source.text)
  | .nested s => .select (s.sketch Derived.text)
  | .union tables => .union (tables.map ("SELECT * FROM " ++ ·))

/-- A statement in the texts of its parts. -/
def Statement.sketch (s : Statement) : List (String × BodySketch) × Sketch :=
  (s.tables.map fun d => (d.name, d.body.sketch), s.main.sketch Source.text)

/-- All names in what a named table holds can be read, and the paths of its files have no quote. -/
def Body.Neat : Body → Prop
  | .files fs => fs ≠ [] ∧ ∀ f ∈ fs, '\'' ∉ f.dataPath.toList
  | .select s => s.Neat Source.text
  | .nested s => s.Neat Derived.text
  | .union tables => tables ≠ [] ∧ ∀ t ∈ tables, isIdentifier t = true

/-- All names in a named table can be read, its own among them. -/
structure Definition.Neat (d : Definition) : Prop where
  name : isIdentifier d.name = true
  body : d.body.Neat

/-- All names in a statement can be read, and it has tables. -/
structure Statement.Neat (s : Statement) : Prop where
  nonempty : s.tables ≠ []
  tables : ∀ d ∈ s.tables, d.Neat
  main : s.main.Neat Source.text

/-! ### Tables whose rows are taken together -/

/-- Texts on lines of their own are not taken for the clauses of one `SELECT`. -/
theorem readClauses?_unionAll {parts : List String} (hne : parts ≠ [])
    (h : ∀ s ∈ parts, OneLine s) :
    readClauses? (unionAll parts) = none := by
  obtain ⟨s, parts, rfl⟩ := List.exists_cons_of_ne_nil hne
  have hs := h s List.mem_cons_self
  have hline : cutAt '\n' s = [s] := cutAt_of_notMem hs.noFeed
  cases parts with
  | nil => rw [unionAll, String.intercalate_singleton, readClauses?, hline]
  | cons t parts =>
    -- the second line of a `SELECT` names its source, and here it is the one between two parts
    have hseparator : "\nUNION ALL\n" = "\n" ++ ("UNION ALL" ++ "\n") := rfl
    have htext : unionAll (s :: t :: parts)
        = s ++ "\n" ++ ("UNION ALL" ++ "\n" ++ unionAll (t :: parts)) := by
      simp only [unionAll, String.intercalate_cons_cons, hseparator, String.append_assoc]
    have hword : Balanced "UNION ALL" := balanced_of_isFree rfl
    have hcut : cutAt '\n' (unionAll (s :: t :: parts))
        = s :: "UNION ALL" :: cutAt '\n' (unionAll (t :: parts)) := by
      rw [htext, cutAt_append rfl rfl hs.balanced, cutAt_append rfl rfl hword, hline]
      rfl
    have hfrom : after? "FROM " "UNION ALL" = none := by decide
    rw [readClauses?, hcut]
    simp only [hfrom, Option.bind_eq_bind, Option.bind_none, Option.bind_fun_none]

theorem readBody_unionAll {parts : List String} (hne : parts ≠ [])
    (h : ∀ s ∈ parts, OneLine s ∧ s ≠ "UNION ALL") : readBody (unionAll parts) = .union parts := by
  have hparts : cutAtWord '\n' "UNION ALL" (unionAll parts) = parts := by
    refine cutAtWord_intercalate rfl rfl ⟨balanced_of_isFree rfl, by decide⟩ hne fun s hs => ?_
    rw [cutAt_of_notMem (h s hs).1.noFeed, List.mem_singleton]
    exact ⟨(h s hs).1.balanced, Ne.symm (h s hs).2⟩
  rw [readBody, readSketch?, readClauses?_unionAll hne fun s hs => (h s hs).1, hparts]
  rfl

/-- A text that opens with other words is not the line between two parts. -/
theorem ne_unionAll {opening : String} (h : after? opening "UNION ALL" = none) (s : String) :
    opening ++ s ≠ "UNION ALL" := by
  intro heq
  have hsome := after?_append opening s
  rw [heq, h] at hsome
  cases hsome

theorem YearFile.oneLine_text {f : YearFile} (h : '\'' ∉ f.dataPath.toList) :
    OneLine f.text ∧ f.text ≠ "UNION ALL" := by
  -- without quotes in it, a path stands in its literal as it is
  have hsource : f.dataset.source f.dataPath f.year
      = Text.quoted (f.dataPath ++ "/" ++ toString f.year ++ "/" ++ f.dataset.fileName) := by
    rw [Text.quoted, doubleQuotes_of_notMem (quote_notMem h), String.ofList_toList, Dataset.source]
    simp only [String.append_assoc]
  have htext : f.text = "SELECT *, " ++
      (toString f.year ++ " AS aar FROM " ++ f.dataset.source f.dataPath f.year) := by
    simp only [YearFile.text, String.append_assoc]
  have hnumber := (phrase_of_isTight (isTight_toString f.year) List.not_mem_nil).toOneLine
  have hfile := (phrase_quoted (List.nil_subset reserved)
    (f.dataPath ++ "/" ++ toString f.year ++ "/" ++ f.dataset.fileName)).toOneLine
  rw [← hsource] at hfile
  rw [htext]
  exact ⟨(oneLine_of_isFree rfl rfl).append
    ((hnumber.append (oneLine_of_isFree rfl rfl)).append hfile), ne_unionAll (by decide) _⟩

/-- **What a named table holds is read back** from its text. -/
theorem Body.Neat.readBody_text {b : Body} (h : b.Neat) : readBody b.text = b.sketch := by
  cases b with
  | files fs =>
    refine readBody_unionAll (by simpa using h.1) (List.forall_mem_map.2 fun f hf => ?_)
    exact YearFile.oneLine_text (h.2 f hf)
  | select s =>
    have hread := Select.Neat.readSketch?_text h
    rw [Body.text, readBody, hread]
    rfl
  | nested s =>
    have hread := Select.Neat.readSketch?_text h
    rw [Body.text, readBody, hread]
    rfl
  | union tables =>
    refine readBody_unionAll (by simpa using h.1) (List.forall_mem_map.2 fun t ht => ?_)
    have hname := (phrase_of_isIdentifier (List.nil_subset reserved) (h.2 t ht)).toOneLine
    exact ⟨(oneLine_of_isFree rfl rfl).append hname, ne_unionAll (by decide) t⟩

/-! ### The main statement -/

theorem Body.Neat.endsInLine_text {b : Body} (h : b.Neat) : EndsInLine b.text := by
  have hunion : ∀ parts : List String, parts ≠ [] → (∀ s ∈ parts, OneLine s ∧ s ≠ "") →
      EndsInLine (unionAll parts) := by
    intro parts hne hparts
    exact endsInLine_intercalate hne fun s hs => (hparts s hs).1.endsInLine (hparts s hs).2
  cases b with
  | files fs =>
    refine hunion _ (by simpa using h.1) (List.forall_mem_map.2 fun f hf => ?_)
    refine ⟨(YearFile.oneLine_text (h.2 f hf)).1, ?_⟩
    simp only [YearFile.text, String.append_assoc]
    exact append_ne_empty (by decide) _
  | select s => exact (Select.Neat.legible_clauses h).endsInLine_text
  | nested s => exact (Select.Neat.legible_clauses h).endsInLine_text
  | union tables =>
    refine hunion _ (by simpa using h.1) (List.forall_mem_map.2 fun t ht => ?_)
    have hname := (phrase_of_isIdentifier (List.nil_subset reserved) (h.2 t ht)).toOneLine
    exact ⟨(oneLine_of_isFree rfl rfl).append hname, append_ne_empty (by decide) t⟩

/-- The text of a statement gives back its tables, character for character. -/
theorem Statement.Neat.legible_tables {s : Statement} (h : s.Neat)
    (hreturn : ∀ d ∈ s.tables, ¬ ['\r', '\n'] <:+: d.body.text.toList) :
    Legible (s.tables.map fun d => (d.name, d.body.text)) := by
  refine ⟨by simpa using h.nonempty, List.forall_mem_map.2 fun d hd => ?_,
    List.forall_mem_map.2 fun d hd => ?_⟩
  · have hname := (h.tables d hd).name
    rw [isIdentifier, Bool.and_eq_true, List.all_eq_true] at hname
    exact fun hfeed => absurd (hname.1 _ hfeed) (by decide)
  · obtain ⟨c, hc, hne⟩ := (h.tables d hd).body.endsInLine_text
    refine ⟨fun hlast => hne ?_, hreturn d hd⟩
    rw [hlast] at hc
    exact (Option.some_inj.1 hc).symm

/-- **A statement is read back from its text**: the names of its tables, in order, with the parts of
what they hold, and the parts of what is selected from them. Only the pair of a carriage return and
a line feed in a literal is not kept, because tables are read line by line. -/
theorem Statement.Neat.readStatement?_text {s : Statement} (h : s.Neat)
    (hreturn : ∀ d ∈ s.tables, ¬ ['\r', '\n'] <:+: d.body.text.toList) :
    readStatement? s.text = some s.sketch := by
  have htables := (h.legible_tables hreturn).readTables?_withTables (s.main.text Source.text)
  have hmain := h.main.readSketch?_text
  have hbodies : s.tables.map (fun d => (d.name, readBody d.body.text))
      = s.tables.map fun d => (d.name, d.body.sketch) :=
    List.map_congr_left fun d hd => congrArg (Prod.mk d.name) (h.tables d hd).body.readBody_text
  rw [readStatement?, Statement.text, htables]
  simp only [Option.bind_eq_bind, Option.bind_some, hmain, List.map_map, Function.comp_def]
  rw [hbodies]
  rfl

end Broadband.Sql
