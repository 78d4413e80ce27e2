import Broadband.Proofs.Sql.Comparisons

/-!
# Comparisons in statements

Which columns a statement compares with which texts can be read off the statement as data
(`compared`) and off its text (`comparisons`). The two agree if all names in the statement are words
(`Readable`): `Statement.comparisons_text`.
-/

namespace Broadband.Sql

/-! ## Texts without literals -/

theorem unmarked_join {ss : List String} (h : ∀ s ∈ ss, Unmarked s) : Unmarked (String.join ss) := by
  intro c hc
  rw [String.toList_join, List.mem_flatMap] at hc
  obtain ⟨s, hs, hc⟩ := hc
  exact h s hs c hc

theorem unmarked_intercalate {separator : String} (hseparator : Unmarked separator)
    {ss : List String} (h : ∀ s ∈ ss, Unmarked s) : Unmarked (separator.intercalate ss) := by
  induction ss with
  | nil => simp [Unmarked]
  | cons s ss ih =>
    rw [List.forall_mem_cons] at h
    cases ss with
    | nil => simpa using h.1
    | cons t ss =>
      rw [String.intercalate_cons_cons]
      exact (h.1.append hseparator).append (ih h.2)

theorem mem_of_mem_lines {cs : List Char} {l : List Char} (hl : l ∈ Text.lines cs) {c : Char}
    (hc : c ∈ l) : c ∈ cs := by
  fun_induction Text.lines cs generalizing l with
  | case1 => exact absurd hl List.not_mem_nil
  | case2 cs ih =>
    rcases List.mem_cons.1 hl with rfl | hl
    · exact absurd hc List.not_mem_nil
    · exact List.mem_cons_of_mem _ (ih hl hc)
  | case3 cs ih =>
    rcases List.mem_cons.1 hl with rfl | hl
    · exact absurd hc List.not_mem_nil
    · exact List.mem_cons_of_mem _ (List.mem_cons_of_mem _ (ih hl hc))
  | case4 d cs _ _ hlines ih =>
    obtain rfl := List.mem_singleton.1 hl
    obtain rfl := List.mem_singleton.1 hc
    exact List.mem_cons_self
  | case5 d cs _ _ first rest hlines ih =>
    -- the character joins the first line of what follows it
    rw [hlines] at ih
    rcases List.mem_cons.1 hl with rfl | hl
    · rcases List.mem_cons.1 hc with rfl | hc
      · exact List.mem_cons_self
      · exact List.mem_cons_of_mem _ (ih List.mem_cons_self hc)
    · exact List.mem_cons_of_mem _ (ih (List.mem_cons_of_mem _ hl) hc)

theorem unmarked_indent {s : String} (h : Unmarked s) : Unmarked (Text.indent s) := by
  intro c hc
  simp only [Text.indent, String.toList_ofList, List.mem_flatMap] at hc
  obtain ⟨l, hl, hc⟩ := hc
  have hline : ∀ d ∈ l, d ≠ '\'' ∧ d ≠ '\r' := fun d hd => h d (mem_of_mem_lines hl hd)
  simp only [List.mem_append, List.mem_cons, List.not_mem_nil, or_false] at hc
  rcases hc with (rfl | rfl | hc) | rfl
  · decide
  · decide
  · exact hline c hc
  · decide

theorem unmarked_clauseLine {keyword separator : String} (hkeyword : Unmarked keyword)
    (hseparator : Unmarked separator) {items : List String} (h : ∀ s ∈ items, Unmarked s) :
    Unmarked (clauseLine keyword separator items) := by
  have hbreak : Unmarked "\n" := by decide
  unfold clauseLine
  split
  · decide
  · exact ((hbreak.append hkeyword).append (by decide)).append (unmarked_intercalate hseparator h)

theorem unmarked_limit (limit : Option Nat) :
    Unmarked (clauseLine "LIMIT" "" (limit.toList.map toString)) := by
  refine unmarked_clauseLine (by decide) (by decide) ?_
  cases limit with
  | none => exact List.forall_mem_nil _
  | some n => exact List.forall_mem_singleton.2 (unmarked_toString n)

/-- Clauses without literals. -/
theorem Clauses.unmarked_text {c : Clauses} (hcolumns : ∀ s ∈ c.columns, Unmarked s)
    (hsource : Unmarked c.source) (hjoins : ∀ s ∈ c.joins, Unmarked s)
    (hfilters : ∀ s ∈ c.filters, Unmarked s) (hgroupBy : ∀ s ∈ c.groupBy, Unmarked s)
    (horderBy : ∀ s ∈ c.orderBy, Unmarked s) : Unmarked c.text := by
  have hselect : Unmarked (if c.columns.isEmpty then "SELECT *"
      else "SELECT " ++ ", ".intercalate c.columns) := by
    have hword : Unmarked "SELECT " := by decide
    split
    · decide
    · exact hword.append (unmarked_intercalate (by decide) hcolumns)
  have hbreak : Unmarked "\n" := by decide
  have hjoins' : ∀ s ∈ c.joins.map ("\n" ++ ·), Unmarked s := by
    simpa using fun j hj => hbreak.append (hjoins j hj)
  exact ((((((hselect.append (by decide)).append hsource).append (unmarked_join hjoins')).append
    (unmarked_clauseLine (by decide) (by decide) hfilters)).append
    (unmarked_clauseLine (by decide) (by decide) hgroupBy)).append
    (unmarked_clauseLine (by decide) (by decide) horderBy)).append (unmarked_limit c.limit)

/-! ## Conditions and predicates -/

/-- The column's text is a word. -/
def Column.readable (c : Column) : Bool := decide (Word c.text)

/-- What a column is compared with is a literal or a word. -/
def Operand.readable : Operand → Bool
  | .literal _ => true
  | .column c => c.readable

/-- All columns of the condition are words. -/
def Condition.readable : Condition → Bool
  | .truth c => c.readable
  | .compare left _ right => left.readable && right.readable
  | .oneOf left _ => left.readable
  | .verbatim _ => false
  | .join _ left right => left.readable && right.readable
  | .not inner => inner.readable
  | .group inner => inner.readable

/-- The comparisons of columns with literals of text in a condition. -/
def Condition.compared : Condition → List Compared
  | .compare left op (.literal (.text s)) => [⟨left.text, op, s⟩]
  | .join _ left right => left.compared ++ right.compared
  | .not inner => inner.compared
  | .group inner => inner.compared
  | _ => []

theorem Column.word {c : Column} (h : c.readable = true) : Word c.text := of_decide_eq_true h

theorem Literal.sound (l : Literal) : Sound l.marks [] := by
  cases l with
  | text s => exact sound_literal _
  | number n => exact sound_plain (unmarked_toString n)
  | truth b => cases b <;> exact sound_plain (by decide)

theorem Operand.sound {o : Operand} (h : o.readable = true) : Sound o.marks [] := by
  cases o with
  | literal l => exact l.sound
  | column c => exact sound_plain (Column.word h).unmarked

/-- The members of a list, each with its own comparisons. -/
theorem allSound_map {α : Type} {marks : α → List Mark} {compared : α → List Compared} {xs : List α}
    (h : ∀ x ∈ xs, Sound (marks x) (compared x)) :
    AllSound (xs.map marks) (xs.flatMap compared) := by
  induction xs with
  | nil => exact .nil
  | cons x xs ih =>
    rw [List.forall_mem_cons] at h
    exact .cons h.1 (ih h.2)

/-- A comparison with anything but a literal of text is plain. -/
theorem sound_compare_plain {column s : String} (h : Word column) (op : Comparison)
    (hs : Unmarked s) : Sound (plain (column ++ " " ++ op.symbol ++ " ") ++ plain s) [] := by
  rw [← plain_append]
  have hop : Unmarked op.symbol := by cases op <;> decide
  exact sound_plain
    ((((h.unmarked.append (by decide)).append hop).append (by decide)).append hs)

theorem Condition.sound {c : Condition} (h : c.readable = true) : Sound c.marks c.compared := by
  induction c with
  | truth c => exact sound_plain (Column.word h).unmarked
  | compare left op right =>
    simp only [readable, Bool.and_eq_true] at h
    have hleft := Column.word h.1
    -- only a literal of text is found by a reader; everything else is plain
    cases right with
    | column c => exact sound_compare_plain hleft op (Column.word h.2).unmarked
    | literal l =>
      cases l with
      | text s => exact sound_compare hleft op s
      | number n => exact sound_compare_plain hleft op (unmarked_toString n)
      | truth b => cases b <;> exact sound_compare_plain hleft op (by decide)
  | oneOf left choices =>
    have hchoices : AllSound (choices.map Literal.marks) [] :=
      allSound_nil (by simpa using fun l _ => l.sound)
    have hopen : Separator (left.text ++ " IN (") :=
      .append (Column.word h).unmarked (by decide)
    exact ((hchoices.joined (by decide)).after hopen).before (by decide)
  | verbatim s => simp [readable] at h
  | join op left right ihl ihr =>
    simp only [readable, Bool.and_eq_true] at h
    have hop : Separator (" " ++ op.keyword ++ " ") := by cases op <;> decide
    exact (ihl h.1).divided hop (ihr h.2)
  | not inner ih => exact (ih h).after (by decide)
  | group inner ih => exact ((ih h).after (by decide)).before (by decide)

/-- The names of the subquery can be read, and so can its conditions. -/
def Subquery.readable (s : Subquery) : Bool :=
  s.column.readable && decide (Unmarked s.table.text) && s.conditions.all Condition.readable

/-- The comparisons in the conditions of a subquery. -/
def Subquery.compared (s : Subquery) : List Compared := s.conditions.flatMap Condition.compared

theorem Subquery.sound {s : Subquery} (h : s.readable = true) : Sound s.marks s.compared := by
  simp only [readable, Bool.and_eq_true, List.all_eq_true, decide_eq_true_eq] at h
  have hhead : Separator
      ("SELECT " ++ s.column.text ++ " FROM " ++ s.table.text ++ " WHERE ") := by
    have hselect : Unmarked "SELECT " := by decide
    exact .append (((hselect.append (Column.word h.1.1).unmarked).append (by decide)).append h.1.2)
      (by decide)
  exact ((allSound_map fun c hc => c.sound (h.2 c hc)).joined (by decide)).after hhead

/-- The names of the predicate can be read, and so can its conditions. -/
def Predicate.readable : Predicate → Bool
  | .holds c => c.readable
  | .within key s => key.readable && s.readable
  | .outside key s => key.readable && s.readable
  | .withinEach key ss => key.readable && ss.all Subquery.readable

/-- The comparisons in a predicate. -/
def Predicate.compared : Predicate → List Compared
  | .holds c => c.compared
  | .within _ s => s.compared
  | .outside _ s => s.compared
  | .withinEach _ ss => ss.flatMap Subquery.compared

theorem Predicate.sound {p : Predicate} (h : p.readable = true) : Sound p.marks p.compared := by
  cases p with
  | holds c => exact c.sound h
  | within key s =>
    simp only [readable, Bool.and_eq_true] at h
    have hopen : Separator (key.text ++ " IN (") := .append (Column.word h.1).unmarked (by decide)
    exact ((s.sound h.2).after hopen).before (by decide)
  | outside key s =>
    simp only [readable, Bool.and_eq_true] at h
    have hopen : Separator (key.text ++ " NOT IN (") :=
      .append (Column.word h.1).unmarked (by decide)
    exact ((s.sound h.2).after hopen).before (by decide)
  | withinEach key ss =>
    simp only [readable, Bool.and_eq_true, List.all_eq_true] at h
    have hopen : Separator (key.text ++ " IN (\n  ") :=
      .append (Column.word h.1).unmarked (by decide)
    have hss := (allSound_map fun s hs => Subquery.sound (h.2 s hs)).joined
      (show Separator "\n  INTERSECT\n  " by decide)
    exact (hss.after hopen).before (by decide)

/-! ## Values and selections -/

/-- The names of the value can be read. -/
def Scalar.readable : Scalar → Bool
  | .column c => c.readable
  | .literal _ => true
  | .countRows => true
  | .sum x => x.readable
  | .average x => x.readable
  | .coalesce choices => choices.all Operand.readable
  | .percent x => x.readable
  | .percentage part whole => part.readable && whole.readable
  | .onlyIf c x => c.readable && x.readable
  | .ifElse c yes no => c.readable && yes.readable && no.readable
  | .sizeRank among tie => decide (Unmarked (Scalar.sizeRank among tie).text)

/-- The comparisons in a value. -/
def Scalar.compared : Scalar → List Compared
  | .sum x => x.compared
  | .average x => x.compared
  | .percent x => x.compared
  | .percentage part whole => part.compared ++ whole.compared
  | .onlyIf c x => c.compared ++ x.compared
  | .ifElse c yes no => c.compared ++ yes.compared ++ no.compared
  | _ => []

theorem Scalar.sound {x : Scalar} (h : x.readable = true) : Sound x.marks x.compared := by
  induction x with
  | column c => exact sound_plain (Column.word h).unmarked
  | literal l => exact l.sound
  | countRows => exact sound_plain (by decide)
  | sum x ih => exact ((ih h).after (by decide)).before (by decide)
  | average x ih => exact ((ih h).after (by decide)).before (by decide)
  | coalesce choices =>
    simp only [readable, List.all_eq_true] at h
    have hchoices : AllSound (choices.map Operand.marks) [] :=
      allSound_nil (by simpa using fun o ho => Operand.sound (h o ho))
    exact ((hchoices.joined (by decide)).after (by decide)).before (by decide)
  | percent x ih => exact ((ih h).after (by decide)).before (by decide)
  | percentage part whole ihp ihw =>
    simp only [readable, Bool.and_eq_true] at h
    exact (((ihp h.1).after (by decide)).divided (by decide) (ihw h.2)).before (by decide)
  | onlyIf c x ih =>
    simp only [readable, Bool.and_eq_true] at h
    exact (((c.sound h.1).after (by decide)).divided (by decide) (ih h.2)).before (by decide)
  | ifElse c yes no ihy ihn =>
    simp only [readable, Bool.and_eq_true] at h
    have hthen := ((c.sound h.1.1).after (show Separator "CASE WHEN " by decide)).divided
      (show Separator " THEN " by decide) (ihy h.1.2)
    exact (hthen.divided (by decide) (ihn h.2)).before (by decide)
  | sizeRank among tie => exact sound_plain (of_decide_eq_true h)

/-- The names of a column of the answer can be read. -/
def Item.readable (i : Item) : Bool := i.value.readable && i.name.all fun name => decide (Unmarked name)

theorem Item.sound {i : Item} (h : i.readable = true) : Sound i.marks i.value.compared := by
  simp only [readable, Bool.and_eq_true] at h
  refine (Scalar.sound h.1).before ?_
  cases hname : i.name with
  | none => decide
  | some name =>
    have hunmarked : Unmarked " AS " := by decide
    exact hunmarked.append (by simpa [hname] using h.2)

theorem OrderKey.sound {k : OrderKey} (h : k.value.readable = true) :
    Sound k.marks k.value.compared := by
  refine (Scalar.sound h).before ?_
  cases k.direction <;> decide

/-- A clause on a line of its own, behind other marks. -/
theorem Sound.clause {ms : List Mark} {cs ds : List Compared} (h : Sound ms cs) {keyword : String}
    (hkeyword : Separator ("\n" ++ keyword ++ " ")) {separator : String}
    (hseparator : Separator separator) {mss : List (List Mark)} (hmss : AllSound mss ds) :
    Sound (ms ++ clauseMarks keyword separator mss) (cs ++ ds) := by
  cases hmss with
  | nil => simpa [clauseMarks] using h
  | cons h' hs =>
    rw [clauseMarks, if_neg (by simp), ← List.append_assoc]
    exact h.divided hkeyword ((AllSound.cons h' hs).joined hseparator)

/-- All names in a `SELECT` can be read. -/
structure Select.Readable {Source : Type} (sourceText : Source → String) (s : Select Source) :
    Prop where
  columns : ∀ i ∈ s.columns, i.readable = true
  source : Unmarked (sourceText s.source)
  joins : ∀ j ∈ s.joins, Unmarked j.text
  filters : ∀ p ∈ s.filters, p.readable = true
  groupBy : ∀ x ∈ s.groupBy, x.readable = true
  orderBy : ∀ k ∈ s.orderBy, k.value.readable = true

/-- The comparisons in a `SELECT`, in the order of its clauses. -/
def Select.compared {Source : Type} (s : Select Source) : List Compared :=
  s.columns.flatMap (·.value.compared) ++ s.filters.flatMap Predicate.compared ++
    s.groupBy.flatMap Scalar.compared ++ s.orderBy.flatMap (·.value.compared)

theorem Select.sound {Source : Type} {sourceText : Source → String} {s : Select Source}
    (h : s.Readable sourceText) : Sound (s.marks sourceText) s.compared := by
  have hcolumns : Sound (if s.columns.isEmpty then plain "SELECT *"
      else plain "SELECT " ++ joined ", " (s.columns.map Item.marks))
      (s.columns.flatMap (·.value.compared)) := by
    split
    · rename_i hempty
      rw [List.isEmpty_iff.1 hempty]
      exact sound_plain (by decide)
    · exact ((allSound_map fun i hi => Item.sound (h.columns i hi)).joined (by decide)).after
        (by decide)
  have hfrom : Unmarked ("\nFROM " ++ sourceText s.source ++
      String.join (s.joins.map ("\n" ++ Join.text ·))) := by
    have hword : Unmarked "\nFROM " := by decide
    have hbreak : Unmarked "\n" := by decide
    refine (hword.append h.source).append (unmarked_join ?_)
    simpa using fun j hj => hbreak.append (h.joins j hj)
  -- the clauses one behind the other, each adding its own comparisons
  have hfilters := (hcolumns.before hfrom).clause (show Separator ("\n" ++ "WHERE" ++ " ") by decide)
    (show Separator " AND " by decide) (allSound_map fun p hp => Predicate.sound (h.filters p hp))
  have hgroupBy := hfilters.clause (show Separator ("\n" ++ "GROUP BY" ++ " ") by decide)
    (show Separator ", " by decide) (allSound_map fun x hx => Scalar.sound (h.groupBy x hx))
  have horderBy := hgroupBy.clause (show Separator ("\n" ++ "ORDER BY" ++ " ") by decide)
    (show Separator ", " by decide) (allSound_map fun k hk => OrderKey.sound (h.orderBy k hk))
  exact horderBy.before (unmarked_limit s.limit)

/-! ## Statements -/

/-- All names in what a named table holds can be read, and its files have no quote in their paths. -/
def Body.Readable : Body → Prop
  | .files fs => ∀ f ∈ fs, '\'' ∉ f.dataPath.toList
  | .select s => s.Readable Source.text
  | .nested s => Unmarked (s.text Derived.text)
  | .union tables => ∀ t ∈ tables, Unmarked t

/-- The comparisons in what a named table holds. -/
def Body.compared : Body → List Compared
  | .select s => s.compared
  | _ => []

theorem Body.Readable.unquoted {b : Body} (h : b.Readable) : b.Unquoted := by
  cases b with
  | files fs => exact h
  | _ => trivial

theorem Body.sound {b : Body} (h : b.Readable) : Sound b.marks b.compared := by
  cases b with
  | files fs =>
    have hfile : ∀ ms ∈ fs.map YearFile.marks, Sound ms [] := by
      intro ms hms
      obtain ⟨f, -, rfl⟩ := List.mem_map.1 hms
      have hselect : Unmarked "SELECT *, " := by decide
      exact (sound_literal _).after (.append (hselect.append (unmarked_toString f.year)) (by decide))
    exact (allSound_nil hfile).joined (by decide)
  | select s => exact Select.sound h
  | nested s => exact sound_plain h
  | union tables =>
    have hselect : Unmarked "SELECT * FROM " := by decide
    refine sound_plain (unmarked_intercalate (by decide) ?_)
    simpa using fun t ht => hselect.append (h t ht)

/-- All names in a statement can be read. -/
structure Statement.Readable (s : Statement) : Prop where
  names : ∀ d ∈ s.tables, Unmarked d.name
  bodies : ∀ d ∈ s.tables, d.body.Readable
  main : s.main.Readable Source.text

/-- The comparisons in a statement, as they read in its text: those of the named tables have been
moved to the right with the lines that they stand on. -/
def Statement.compared (s : Statement) : List Compared :=
  (s.tables.flatMap (·.body.compared)).map Compared.shifted ++ s.main.compared

theorem startsPlain_definitionMarks (ds : List Definition) : StartsPlain (definitionMarks ds) := by
  have hopen : ∀ (d : Definition) (ms : List Mark), StartsPlain (d.marks ++ ms) := by
    intro d ms
    have hne : d.name ++ " AS (\n" ≠ "" := by
      intro h
      simpa using congrArg String.toList h
    rw [Definition.marks, List.append_assoc]
    exact startsPlain_plain_append hne _
  fun_cases definitionMarks ds with
  | case1 => simp [StartsPlain]
  | case2 d => exact hopen d _
  | case3 d ds _ =>
    rw [List.append_assoc]
    exact hopen d _

/-- The definitions of named tables are tidy, and what is found in them is what is found in the
bodies. What stands in front does not matter, as every body starts on a line of its own. -/
theorem definitionMarks_sound {ds : List Definition} (hnames : ∀ d ∈ ds, Unmarked d.name)
    (hbodies : ∀ d ∈ ds, d.body.Readable) :
    Tidy (definitionMarks ds) ∧ ∀ before rest, (ds = [] → before = []) →
      comparisonsFrom before (definitionMarks ds ++ rest)
        = (ds.flatMap (·.body.compared)).map Compared.shifted ++ comparisonsFrom [] rest := by
  -- one definition, with what closes it
  have hone : ∀ d ∈ ds, ∀ s : String, Unmarked s → s ≠ "" → s.toList.getLast? = some '\n' →
      Tidy (d.marks ++ plain s) ∧ ∀ before rest, comparisonsFrom before (d.marks ++ plain s ++ rest)
        = d.body.compared.map Compared.shifted ++ comparisonsFrom [] rest := by
    intro d hd s hs hne hlast
    have hbody := Body.sound (hbodies d hd)
    have hopen : Separator (d.name ++ " AS (\n") := .append (hnames d hd) (by decide)
    constructor
    · refine (tidy_plain_append hopen.unmarked hbody.tidy.indentMarks).append (tidy_plain hs) ?_
      simpa using startsPlain_plain_append hne []
    · intro before rest
      -- the line feed behind the opening parenthesis clears what has been read before
      have hstart : (d.name ++ " AS (\n").toList.foldl advance before = [] := by
        rw [String.toList_append, List.foldl_append]
        rfl
      rw [Definition.marks, List.append_assoc, List.append_assoc, comparisonsFrom_plain_append,
        hstart, ← List.append_assoc, comparisonsFrom_indentMarks hlast, hbody.comparisonsFrom_nil]
  fun_induction definitionMarks ds with
  | case1 => exact ⟨trivial, fun before rest hbefore => by rw [hbefore rfl]; rfl⟩
  | case2 d =>
    obtain ⟨htidy, hread⟩ := hone d (by simp) ")\n" (by decide) (by decide) (by decide)
    exact ⟨htidy, fun before rest _ => by simpa using hread before rest⟩
  | case3 d ds hne ih =>
    obtain ⟨htidy, hread⟩ := hone d (by simp) "),\n" (by decide) (by decide) (by decide)
    rw [List.forall_mem_cons] at hnames hbodies hone
    obtain ⟨htidy', hread'⟩ := ih hnames.2 hbodies.2 hone.2
    refine ⟨htidy.append htidy' (startsPlain_definitionMarks ds), fun before rest _ => ?_⟩
    rw [List.append_assoc, hread, hread' _ _ fun _ => rfl, List.flatMap_cons, List.map_append,
      List.append_assoc]

theorem startsPlain_select {Source : Type} (sourceText : Source → String) (s : Select Source) :
    StartsPlain (s.marks sourceText) := by
  rw [Select.marks]
  simp only [List.append_assoc]
  split
  · exact startsPlain_plain_append (by decide) _
  · rw [List.append_assoc]
    exact startsPlain_plain_append (by decide) _

theorem Statement.tidy {s : Statement} (h : s.Readable) : Tidy s.marks := by
  obtain ⟨htidy, -⟩ := definitionMarks_sound h.names h.bodies
  rw [marks, List.append_assoc]
  refine tidy_plain_append ?_ (htidy.append (Select.sound h.main).tidy (startsPlain_select _ _))
  split <;> decide

/-- The marks of a statement are what a reader takes its text apart into. -/
theorem Statement.read_text {s : Statement} (h : s.Readable) : read s.text = s.marks := by
  have hspell := s.spell_marks (fun d hd => (h.bodies d hd).unquoted)
    fun d hd => (Body.sound (h.bodies d hd)).tidy
  exact read_of_spell (Statement.tidy h) hspell.symm

/-- **The comparisons in the text of a statement** are those of the statement, in their order. -/
theorem Statement.comparisons_text {s : Statement} (h : s.Readable) :
    comparisons s.text = s.compared := by
  obtain ⟨-, hread⟩ := definitionMarks_sound h.names h.bodies
  have hmain := (Select.sound h.main).comparisonsFrom_nil
  rw [comparisons, Statement.read_text h, marks, compared, ← hmain, List.append_assoc,
    comparisonsFrom_plain_append]
  refine hread _ _ fun hnil => ?_
  rw [hnil]
  rfl

/-! ## Parts that compare nothing with a text -/

/-- The value can be read, and nothing in it is compared with a text. -/
def Scalar.silent (x : Scalar) : Bool := x.readable && x.compared.isEmpty

/-- The column of the answer can be read, and nothing in it is compared with a text. -/
def Item.silent (i : Item) : Bool := i.readable && i.value.compared.isEmpty

theorem Scalar.silent_iff {x : Scalar} : x.silent = true ↔ x.readable = true ∧ x.compared = [] := by
  simp [silent]

theorem Item.silent_iff {i : Item} :
    i.silent = true ↔ i.readable = true ∧ i.value.compared = [] := by
  simp [silent]

theorem Scalar.silent_column {c : Column} (hc : c.readable = true) :
    (Scalar.column c).silent = true := by
  simp [silent, readable, compared, hc]

theorem Item.readable_named {x : Scalar} (hx : x.readable = true) {name : String}
    (hname : Unmarked name) : (Item.named x name).readable = true := by
  simp [named, readable, hx, hname]

theorem Item.silent_named {x : Scalar} (hx : x.silent = true) {name : String}
    (hname : Unmarked name) : (Item.named x name).silent = true := by
  obtain ⟨hreadable, hcompared⟩ := Scalar.silent_iff.1 hx
  simp [silent, named, readable, hreadable, hcompared, hname]

theorem Item.silent_same {c : Column} (hc : c.readable = true) : (Item.same c).silent = true := by
  simp [silent, same, readable, Scalar.readable, Scalar.compared, hc]

theorem Scalar.silent_percentage {part whole : Scalar} (hpart : part.silent = true)
    (hwhole : whole.silent = true) : (Scalar.percentage part whole).silent = true := by
  rw [silent_iff] at *
  simp [readable, compared, hpart, hwhole]

/-- A `SELECT` that can be read, with the comparisons in it. -/
structure Select.Holds (s : Select Source) (cs : List Compared) : Prop where
  readable : s.Readable Source.text
  compared : s.compared = cs

/-- In a `SELECT` whose columns and groups compare nothing with a text, only filters and order do. -/
theorem Select.holds_of_silent {s : Select Source} (hcolumns : ∀ i ∈ s.columns, i.silent = true)
    (hsource : Unmarked s.source.text) (hjoins : ∀ j ∈ s.joins, Unmarked j.text)
    (hfilters : ∀ p ∈ s.filters, p.readable = true) (hgroupBy : ∀ x ∈ s.groupBy, x.silent = true)
    (horderBy : ∀ k ∈ s.orderBy, k.value.readable = true) :
    s.Holds (s.filters.flatMap Predicate.compared ++ s.orderBy.flatMap (·.value.compared)) := by
  simp only [Item.silent_iff, Scalar.silent_iff] at hcolumns hgroupBy
  have hcolumns' := List.flatMap_eq_nil_iff.2 fun i hi => (hcolumns i hi).2
  have hgroupBy' := List.flatMap_eq_nil_iff.2 fun x hx => (hgroupBy x hx).2
  refine ⟨⟨fun i hi => (hcolumns i hi).1, hsource, hjoins, hfilters, fun x hx => (hgroupBy x hx).1,
    horderBy⟩, ?_⟩
  rw [Select.compared, hcolumns', hgroupBy', List.nil_append, List.append_nil]

/-- Named tables that can be read, with the comparisons in them. -/
structure Hold (tables : List Definition) (cs : List Compared) : Prop where
  names : ∀ d ∈ tables, Unmarked d.name
  bodies : ∀ d ∈ tables, d.body.Readable
  compared : tables.flatMap (·.body.compared) = cs

theorem hold_nil : Hold [] [] := ⟨by simp, by simp, rfl⟩

theorem Hold.append {tables tables' : List Definition} {cs ds : List Compared} (h : Hold tables cs)
    (h' : Hold tables' ds) : Hold (tables ++ tables') (cs ++ ds) := by
  refine ⟨List.forall_mem_append.2 ⟨h.names, h'.names⟩,
    List.forall_mem_append.2 ⟨h.bodies, h'.bodies⟩, ?_⟩
  rw [List.flatMap_append, h.compared, h'.compared]

/-- One table. -/
theorem hold_singleton {name : String} (hname : Unmarked name) {b : Body} (hbody : b.Readable) :
    Hold [⟨name, b⟩] b.compared := by
  refine ⟨?_, ?_, ?_⟩
  · simpa using hname
  · simpa using hbody
  · simp

/-- A table that is the answer of a `SELECT`. -/
theorem Select.Holds.table {s : Select Source} {cs : List Compared} (h : s.Holds cs) {name : String}
    (hname : Unmarked name) : Hold [⟨name, .select s⟩] cs := by
  obtain ⟨hreadable, rfl⟩ := h
  exact hold_singleton (b := .select s) hname hreadable

/-- A statement that can be read, with the comparisons in its text. -/
structure Statement.Holds (s : Statement) (cs : List Compared) : Prop where
  readable : s.Readable
  compared : s.compared = cs

/-- A statement over tables that can be read. -/
theorem Hold.statement {tables : List Definition} {cs ds : List Compared} (h : Hold tables cs)
    {main : Select Source} (hmain : main.Holds ds) :
    (Statement.mk tables main).Holds (cs.map Compared.shifted ++ ds) := by
  refine ⟨⟨h.names, h.bodies, hmain.readable⟩, ?_⟩
  rw [Statement.compared, h.compared, hmain.compared]

end Broadband.Sql
