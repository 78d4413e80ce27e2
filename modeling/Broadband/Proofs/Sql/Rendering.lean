import Broadband.Proofs.Numeral
import Broadband.Proofs.Sql.Marks
import Broadband.Sql.Statement

/-!
# The marks of statements

Every part of a statement that has a text has marks too: the same text, with the literals of text
kept apart from what surrounds them. Parts that never hold such a literal in a report (columns,
tables, joins, ranked subselects) are plain as a whole. `Statement.spell_marks` says that writing
the marks down gives the text.
-/

namespace Broadband.Sql

/-! ## Conditions and predicates -/

/-- Several groups of marks with a separator between any two of them. -/
def joined (separator : String) (mss : List (List Mark)) : List Mark :=
  (plain separator).intercalate mss

/-- The marks of a constant. -/
def Literal.marks : Literal → List Mark
  | .text s => [.literal s.toList]
  | l => plain l.render

/-- The marks of an operand. -/
def Operand.marks : Operand → List Mark
  | .literal l => l.marks
  | .column c => plain c.text

/-- The marks of a condition. -/
def Condition.marks : Condition → List Mark
  | .truth c => plain c.text
  | .compare left op right => plain (left.text ++ " " ++ op.symbol ++ " ") ++ right.marks
  | .oneOf left choices =>
    plain (left.text ++ " IN (") ++ joined ", " (choices.map Literal.marks) ++ plain ")"
  | .verbatim s => plain s
  | .join op left right => left.marks ++ plain (" " ++ op.keyword ++ " ") ++ right.marks
  | .not inner => plain "NOT " ++ inner.marks
  | .group inner => plain "(" ++ inner.marks ++ plain ")"

/-- The marks of a subquery. -/
def Subquery.marks (s : Subquery) : List Mark :=
  plain ("SELECT " ++ s.column.text ++ " FROM " ++ s.table.text ++ " WHERE ") ++
    joined " AND " (s.conditions.map Condition.marks)

/-- The marks of a predicate. -/
def Predicate.marks : Predicate → List Mark
  | .holds c => c.marks
  | .within key s => plain (key.text ++ " IN (") ++ s.marks ++ plain ")"
  | .outside key s => plain (key.text ++ " NOT IN (") ++ s.marks ++ plain ")"
  | .withinEach key ss =>
    plain (key.text ++ " IN (\n  ") ++ joined "\n  INTERSECT\n  " (ss.map Subquery.marks) ++
      plain "\n)"

/-- What is made of the members of joined lists is joined in the same way. -/
theorem flatMap_intercalate {α β : Type} (f : α → List β) (separator : List α)
    (xss : List (List α)) :
    (separator.intercalate xss).flatMap f
      = (separator.flatMap f).intercalate (xss.map (List.flatMap f)) := by
  induction xss with
  | nil => rfl
  | cons xs xss ih =>
    -- the separator stands only between two parts
    cases xss with
    | nil => simp
    | cons ys xss => simp_all

theorem map_intercalate {α β : Type} (f : α → β) (separator : List α) (xss : List (List α)) :
    (separator.intercalate xss).map f
      = (separator.map f).intercalate (xss.map (List.map f)) := by
  have hmap : List.map f = List.flatMap fun x => [f x] := funext fun _ => List.map_eq_flatMap
  rw [hmap]
  exact flatMap_intercalate _ separator xss

theorem spell_joined (separator : String) (mss : List (List Mark)) :
    spell (joined separator mss) = separator.toList.intercalate (mss.map spell) := by
  rw [← spell_plain separator]
  exact flatMap_intercalate Mark.chars (plain separator) mss

/-- Marks of the members of a list, joined, are written as their texts joined. -/
theorem spell_joined_map {α : Type} {marks : α → List Mark} {text : α → String} (separator : String)
    {xs : List α} (h : ∀ x ∈ xs, spell (marks x) = (text x).toList) :
    spell (joined separator (xs.map marks)) = (separator.intercalate (xs.map text)).toList := by
  rw [spell_joined, String.toList_intercalate, List.map_map, List.map_map]
  congr 1
  exact List.map_congr_left h

theorem Literal.spell_marks (l : Literal) : spell l.marks = l.render.toList := by
  cases l with
  | text s => exact spell_literal s
  | number n => exact spell_plain _
  | truth b => exact spell_plain _

theorem Operand.spell_marks (o : Operand) : spell o.marks = o.text.toList := by
  cases o with
  | literal l => exact l.spell_marks
  | column c => exact spell_plain _

theorem Condition.spell_marks (c : Condition) : spell c.marks = c.text.toList := by
  induction c with
  | truth c => exact spell_plain _
  | compare left op right => simp [marks, text, spell_append, spell_plain, right.spell_marks]
  | oneOf left choices =>
    have hchoices := spell_joined_map ", " fun l (_ : l ∈ choices) => l.spell_marks
    simp only [marks, text, spell_append, spell_plain, hchoices, String.toList_append]
  | verbatim s => exact spell_plain _
  | join op left right ihl ihr => simp [marks, text, spell_append, spell_plain, ihl, ihr]
  | not inner ih => simp only [marks, text, spell_append, spell_plain, ih, String.toList_append]
  | group inner ih => simp only [marks, text, spell_append, spell_plain, ih, String.toList_append]

/-- Conditions joined from the left are written with the word between any two of them. -/
theorem Condition.text_foldl_join (op : Connective) (c : Condition) (cs : List Condition) :
    (cs.foldl (.join op) c).text
      = (" " ++ op.keyword ++ " ").intercalate (c.text :: cs.map Condition.text) := by
  induction cs generalizing c with
  | nil => rfl
  | cons d ds ih =>
    rw [List.foldl_cons, ih]
    simp [text, String.append_assoc]

theorem Subquery.spell_marks (s : Subquery) : spell s.marks = s.text.toList := by
  have hconditions := spell_joined_map " AND " fun c (_ : c ∈ s.conditions) => c.spell_marks
  simp only [marks, text, spell_append, spell_plain, hconditions, String.toList_append]

theorem Predicate.spell_marks (p : Predicate) : spell p.marks = p.text.toList := by
  cases p with
  | holds c => exact c.spell_marks
  | within key s =>
    simp only [marks, text, spell_append, spell_plain, s.spell_marks, String.toList_append]
  | outside key s =>
    simp only [marks, text, spell_append, spell_plain, s.spell_marks, String.toList_append]
  | withinEach key ss =>
    have hss := spell_joined_map "\n  INTERSECT\n  " fun s (_ : s ∈ ss) => s.spell_marks
    simp only [marks, text, spell_append, spell_plain, hss, String.toList_append]

/-! ## Values and selections -/

/-- The marks of a value. -/
def Scalar.marks : Scalar → List Mark
  | .column c => plain c.text
  | .literal l => l.marks
  | .countRows => plain "COUNT(*)"
  | .sum x => plain "SUM(" ++ x.marks ++ plain ")"
  | .average x => plain "AVG(" ++ x.marks ++ plain ")"
  | .coalesce choices => plain "COALESCE(" ++ joined ", " (choices.map Operand.marks) ++ plain ")"
  | .percent x => plain "ROUND(100.0 * " ++ x.marks ++ plain ", 1)"
  | .percentage part whole =>
    plain "ROUND(100.0 * " ++ part.marks ++ plain " / " ++ whole.marks ++ plain ", 1)"
  | .onlyIf c x => plain "CASE WHEN " ++ c.marks ++ plain " THEN " ++ x.marks ++ plain " END"
  | .ifElse c yes no =>
    plain "CASE WHEN " ++ c.marks ++ plain " THEN " ++ yes.marks ++ plain " ELSE " ++ no.marks ++
      plain " END"
  | .sizeRank among tie => plain (Scalar.sizeRank among tie).text

/-- The marks of a column of the answer. -/
def Item.marks (i : Item) : List Mark :=
  i.value.marks ++ plain (i.name.elim "" (" AS " ++ ·))

/-- The marks of a value to sort by. -/
def OrderKey.marks (k : OrderKey) : List Mark := k.value.marks ++ plain (" " ++ k.direction.keyword)

/-- The marks of a clause on a line of its own. -/
def clauseMarks (keyword separator : String) (items : List (List Mark)) : List Mark :=
  if items.isEmpty then [] else plain ("\n" ++ keyword ++ " ") ++ joined separator items

/-- The marks of a `SELECT`, given the text of its source. -/
def Select.marks {Source : Type} (sourceText : Source → String) (s : Select Source) : List Mark :=
  (if s.columns.isEmpty then plain "SELECT *"
    else plain "SELECT " ++ joined ", " (s.columns.map Item.marks)) ++
    plain ("\nFROM " ++ sourceText s.source ++ String.join (s.joins.map ("\n" ++ Join.text ·))) ++
    clauseMarks "WHERE" " AND " (s.filters.map Predicate.marks) ++
    clauseMarks "GROUP BY" ", " (s.groupBy.map Scalar.marks) ++
    clauseMarks "ORDER BY" ", " (s.orderBy.map OrderKey.marks) ++
    plain (clauseLine "LIMIT" "" (s.limit.toList.map toString))

theorem Scalar.spell_marks (x : Scalar) : spell x.marks = x.text.toList := by
  induction x with
  | column c => exact spell_plain _
  | literal l => exact l.spell_marks
  | countRows => exact spell_plain _
  | sum x ih =>
    have htext : (Scalar.sum x).text = "SUM(" ++ x.text ++ ")" := rfl
    simp only [marks, htext, spell_append, spell_plain, ih, String.toList_append]
  | average x ih =>
    have htext : (Scalar.average x).text = "AVG(" ++ x.text ++ ")" := rfl
    simp only [marks, htext, spell_append, spell_plain, ih, String.toList_append]
  | coalesce choices =>
    have htext : (Scalar.coalesce choices).text
        = "COALESCE(" ++ ", ".intercalate (choices.map Operand.text) ++ ")" := rfl
    have hchoices := spell_joined_map ", " fun o (_ : o ∈ choices) => o.spell_marks
    simp only [marks, htext, spell_append, spell_plain, hchoices, String.toList_append]
  | percent x ih =>
    have htext : (Scalar.percent x).text = "ROUND(100.0 * " ++ x.text ++ ", 1)" := rfl
    simp only [marks, htext, spell_append, spell_plain, ih, String.toList_append]
  | percentage part whole ihp ihw =>
    have htext : (Scalar.percentage part whole).text
        = "ROUND(100.0 * " ++ part.text ++ " / " ++ whole.text ++ ", 1)" := rfl
    simp only [marks, htext, spell_append, spell_plain, ihp, ihw, String.toList_append]
  | onlyIf c x ih =>
    have htext : (Scalar.onlyIf c x).text
        = "CASE WHEN " ++ c.text ++ " THEN " ++ x.text ++ " END" := rfl
    simp only [marks, htext, spell_append, spell_plain, c.spell_marks, ih, String.toList_append]
  | ifElse c yes no ihy ihn =>
    have htext : (Scalar.ifElse c yes no).text
        = "CASE WHEN " ++ c.text ++ " THEN " ++ yes.text ++ " ELSE " ++ no.text ++ " END" := rfl
    simp only [marks, htext, spell_append, spell_plain, c.spell_marks, ihy, ihn,
      String.toList_append]
  | sizeRank among tie => exact spell_plain _

theorem Item.spell_marks (i : Item) : spell i.marks = i.text.toList := by
  rw [marks, spell_append, spell_plain, i.value.spell_marks, text]
  cases i.name with
  | none => simp
  | some name => simp

theorem OrderKey.spell_marks (k : OrderKey) : spell k.marks = k.text.toList := by
  rw [marks, spell_append, spell_plain, k.value.spell_marks, text]
  simp

theorem spell_clauseMarks {α : Type} {marks : α → List Mark} {text : α → String}
    (h : ∀ x, spell (marks x) = (text x).toList) (keyword separator : String) (xs : List α) :
    spell (clauseMarks keyword separator (xs.map marks))
      = (clauseLine keyword separator (xs.map text)).toList := by
  cases xs with
  | nil => rfl
  | cons x xs =>
    have hxs := spell_joined_map separator fun y (_ : y ∈ x :: xs) => h y
    rw [clauseMarks, clauseLine, if_neg (by simp), if_neg (by simp), spell_append, spell_plain, hxs]
    simp

theorem Select.spell_marks {Source : Type} (sourceText : Source → String) (s : Select Source) :
    spell (s.marks sourceText) = (s.text sourceText).toList := by
  have hcolumns : spell (if s.columns.isEmpty then plain "SELECT *"
      else plain "SELECT " ++ joined ", " (s.columns.map Item.marks))
      = (if (s.columns.map Item.text).isEmpty then "SELECT *"
        else "SELECT " ++ ", ".intercalate (s.columns.map Item.text)).toList := by
    have hitems := spell_joined_map ", " fun i (_ : i ∈ s.columns) => i.spell_marks
    rw [List.isEmpty_map]
    split
    · exact spell_plain _
    · rw [spell_append, spell_plain, hitems, String.toList_append]
  have hfilters := spell_clauseMarks Predicate.spell_marks "WHERE" " AND " s.filters
  have hgroupBy := spell_clauseMarks Scalar.spell_marks "GROUP BY" ", " s.groupBy
  have horderBy := spell_clauseMarks OrderKey.spell_marks "ORDER BY" ", " s.orderBy
  simp only [marks, text, Clauses.text, spell_append, hcolumns, hfilters, hgroupBy, horderBy,
    spell_plain, String.toList_append, List.map_map, List.append_assoc]
  rfl

/-! ## Statements -/

/-- The marks that read a data file. -/
def YearFile.marks (f : YearFile) : List Mark :=
  plain ("SELECT *, " ++ toString f.year ++ " AS aar FROM ") ++
    [.literal (f.dataPath ++ "/" ++ toString f.year ++ "/" ++ f.dataset.fileName).toList]

/-- The marks of what a named table holds. -/
def Body.marks : Body → List Mark
  | .files fs => joined "\nUNION ALL\n" (fs.map YearFile.marks)
  | .select s => s.marks Source.text
  | .nested s => plain (s.text Derived.text)
  | .union tables => plain (unionAll (tables.map ("SELECT * FROM " ++ ·)))

/-- The marks of a named table, in front of what closes its definition. -/
def Definition.marks (d : Definition) : List Mark :=
  plain (d.name ++ " AS (\n") ++ indentMarks d.body.marks

/-- The marks of named tables. -/
def definitionMarks : List Definition → List Mark
  | [] => []
  | [d] => d.marks ++ plain ")\n"
  | d :: ds => d.marks ++ plain "),\n" ++ definitionMarks ds

/-- The marks of a statement. -/
def Statement.marks (s : Statement) : List Mark :=
  plain (if s.tables.isEmpty then "" else "WITH ") ++ definitionMarks s.tables ++
    s.main.marks Source.text

/-- No file of the body has a quote in its path. -/
def Body.Unquoted : Body → Prop
  | .files fs => ∀ f ∈ fs, '\'' ∉ f.dataPath.toList
  | _ => True

theorem doubleQuotes_of_notMem {cs : List Char} (h : '\'' ∉ cs) : Text.doubleQuotes cs = cs := by
  induction cs with
  | nil => rfl
  | cons c cs ih =>
    rw [List.mem_cons, not_or] at h
    have hc : c ≠ '\'' := fun hc => h.1 hc.symm
    rw [Text.doubleQuotes, if_neg hc, ih h.2]

/-- A number is written without quotes. -/
theorem unmarked_toString (n : Int) : Unmarked (toString n) := by
  intro c hc
  rcases Text.isDigit_of_mem_toString_int hc with rfl | hdigit
  · decide
  · constructor <;> rintro rfl <;> exact absurd hdigit (by decide)

/-- There is no quote in the path of a file, if there is none in that of its directory. -/
theorem YearFile.quote_notMem {f : YearFile} (h : '\'' ∉ f.dataPath.toList) :
    '\'' ∉ (f.dataPath ++ "/" ++ toString f.year ++ "/" ++ f.dataset.fileName).toList := by
  have hyear : '\'' ∉ (toString f.year).toList := fun hq => (unmarked_toString f.year _ hq).1 rfl
  have hname : '\'' ∉ f.dataset.fileName.toList := by cases f.dataset <;> decide
  simp only [String.toList_append, List.mem_append, not_or]
  exact ⟨⟨⟨⟨h, by decide⟩, hyear⟩, by decide⟩, hname⟩

/-- A file is a literal as it stands, if there is no quote in its path. -/
theorem YearFile.spell_marks {f : YearFile} (h : '\'' ∉ f.dataPath.toList) :
    spell f.marks = f.text.toList := by
  have hliteral := doubleQuotes_of_notMem (quote_notMem h)
  rw [marks, spell_append, spell_plain, spell, List.flatMap_singleton, Mark.chars, literalChars,
    hliteral, text, Dataset.source]
  simp

theorem Body.spell_marks {b : Body} (h : b.Unquoted) : spell b.marks = b.text.toList := by
  cases b with
  | files fs => exact spell_joined_map _ fun f hf => YearFile.spell_marks (h f hf)
  | select s => exact s.spell_marks Source.text
  | nested s => exact spell_plain _
  | union tables => exact spell_plain _

/-- Named tables whose bodies are tidy, with their layout. -/
theorem spell_definitionMarks {ds : List Definition} (hquotes : ∀ d ∈ ds, d.body.Unquoted)
    (htidy : ∀ d ∈ ds, Tidy d.body.marks) :
    spell (definitionMarks ds)
      = (definitions (ds.map fun d => (d.name, d.body.text))).toList := by
  have hdefinition : ∀ d ∈ ds, spell d.marks
      = (d.name ++ " AS (\n" ++ Text.indent d.body.text).toList := by
    intro d hd
    have hindent := indent_spell (htidy d hd) (Body.spell_marks (hquotes d hd)).symm
    rw [Definition.marks, spell_append, spell_plain, ← hindent, ← String.toList_append]
  fun_induction definitionMarks ds with
  | case1 => rfl
  | case2 d =>
    rw [spell_append, spell_plain, hdefinition d (by simp), ← String.toList_append]
    rfl
  | case3 d ds hne ih =>
    rw [List.forall_mem_cons] at hquotes htidy hdefinition
    have hrest := ih hquotes.2 htidy.2 hdefinition.2
    have htext : definitions ((d :: ds).map fun d => (d.name, d.body.text))
        = d.name ++ " AS (\n" ++ Text.indent d.body.text ++ "),\n" ++
          definitions (ds.map fun d => (d.name, d.body.text)) := by
      cases ds with
      | nil => exact absurd rfl hne
      | cons e es => rfl
    rw [spell_append, spell_append, spell_plain, hdefinition.1, hrest, htext]
    simp only [String.toList_append]

/-- **The marks of a statement are written as its text.** -/
theorem Statement.spell_marks {s : Statement} (hquotes : ∀ d ∈ s.tables, d.body.Unquoted)
    (htidy : ∀ d ∈ s.tables, Tidy d.body.marks) : spell s.marks = s.text.toList := by
  rw [marks, spell_append, spell_append, spell_plain, spell_definitionMarks hquotes htidy,
    s.main.spell_marks, text, withTables, List.isEmpty_map]
  simp only [String.toList_append]

end Broadband.Sql
