import Broadband.Proofs.Sql.Marks
import Broadband.Sql.Layout
import Mathlib.Data.List.Infix

/-!
# Named tables are read back

The text of a statement, read line by line without knowing what its parts say: a header line gives the name
of a table, the lines after it that are moved right are its body, and the line that closes the body says
whether another table follows (`readTables?`). A line of a body may itself look like a header or like a
closing line, since it is the two blanks in front that make it a line of the body.

Whatever the bodies are, the names, the lines of each body and the main part are found again
(`readTables?_withTables`). A body is put together again from its lines exactly if its line feeds do no more
than stand between lines (`intercalate_lines_eq_self_iff`). So the text of `Legible` tables determines them
and the main part.
-/

namespace Broadband.Sql

/-! ## Reading -/

/-- The text that has these lines, with a line feed between two of them. -/
def unlines (ls : List (List Char)) : String := String.ofList (['\n'].intercalate ls)

mutual

/-- Reads lines from the header of a table on: the tables, and what stands behind the last of them. -/
def readTable? : List (List Char) → Option (List (String × String) × String)
  | [] => none
  | header :: ls => do
    let name ← header.dropSuffix? " AS (".toList
    let (body, tables, main) ← readBody? ls
    return ((String.ofList name, unlines body) :: tables, main)

/-- Reads lines from inside a body on: the lines left of that body, the tables behind it, and what stands
behind the last of them. -/
def readBody? : List (List Char) → Option (List (List Char) × List (String × String) × String)
  | (' ' :: ' ' :: l) :: ls => (readBody? ls).map (Prod.map (l :: ·) id)
  | [')', ','] :: ls => (readTable? ls).map ([], ·)
  | [')'] :: ls => some ([], [], unlines ls)
  | _ => none

end

/-- Reads a statement with named tables: the tables and the main part. -/
def readTables? (text : String) : Option (List (String × String) × String) :=
  (text.toList.dropPrefix? "WITH ".toList).bind fun cs => readTable? (cs.splitOn '\n')

/-! ## Lines -/

theorem newline_not_mem_of_mem_lines {cs l : List Char} (hl : l ∈ Text.lines cs) : '\n' ∉ l := by
  fun_induction Text.lines cs generalizing l with
  | case1 => exact absurd hl List.not_mem_nil
  | case2 cs ih | case3 cs ih =>
    rcases List.mem_cons.1 hl with rfl | hl
    · exact List.not_mem_nil
    · exact ih hl
  | case4 c cs hn _ _ _ =>
    obtain rfl := List.mem_singleton.1 hl
    simpa using Ne.symm hn
  | case5 c cs hn _ first rest hlines ih =>
    rw [hlines] at ih
    rcases List.mem_cons.1 hl with rfl | hl
    · exact List.not_mem_cons_of_ne_of_not_mem (Ne.symm hn) (ih List.mem_cons_self)
    · exact ih (List.mem_cons_of_mem _ hl)

/-- The line feeds of a text stand between its lines and do nothing else: the text does not end in one, and no
carriage return stands directly before one. -/
def FeedsBetween (cs : List Char) : Prop := cs.getLast? ≠ some '\n' ∧ ¬ ['\r', '\n'] <:+: cs

instance : DecidablePred FeedsBetween := fun _ => inferInstanceAs (Decidable (_ ∧ _))

theorem feedsBetween_singleton {c : Char} : FeedsBetween [c] ↔ c ≠ '\n' := by
  simp [FeedsBetween, List.infix_cons_iff]

theorem feedsBetween_cons_cons {c d : Char} {cs : List Char} :
    FeedsBetween (c :: d :: cs) ↔ ¬ (c = '\r' ∧ d = '\n') ∧ FeedsBetween (d :: cs) := by
  have hbreak : ['\r', '\n'] <+: c :: d :: cs ↔ c = '\r' ∧ d = '\n' := by
    simp [List.cons_prefix_cons, eq_comm]
  have hinfix : ['\r', '\n'] <:+: c :: d :: cs ↔ (c = '\r' ∧ d = '\n') ∨ ['\r', '\n'] <:+: d :: cs := by
    rw [List.infix_cons_iff, hbreak]
  rw [FeedsBetween, FeedsBetween, List.getLast?_cons_cons, hinfix, not_or, and_left_comm]

/-- **A text is put together again from its lines** exactly if its line feeds do nothing but stand between
them. -/
theorem intercalate_lines_eq_self_iff (cs : List Char) :
    ['\n'].intercalate (Text.lines cs) = cs ↔ FeedsBetween cs := by
  -- a line feed is put back only between two lines, so the last character is looked at apart
  fun_induction Text.lines cs with
  | case1 => simp [FeedsBetween]
  | case2 cs ih =>
    cases cs with
    | nil => simp [Text.lines, feedsBetween_singleton]
    | cons c cs =>
      have hne : Text.lines (c :: cs) ≠ [] := mt lines_eq_nil_iff.1 (List.cons_ne_nil c cs)
      rw [List.intercalate_cons_of_ne_nil hne, feedsBetween_cons_cons, ← ih]
      simp
  | case3 cs ih =>
    -- nothing puts the carriage return back
    have hlost : ['\n'].intercalate ([] :: Text.lines cs) ≠ '\r' :: '\n' :: cs := by
      cases Text.lines cs <;> simp
    simp [hlost, feedsBetween_cons_cons]
  | case4 c cs hn hrn hlines ih =>
    obtain rfl := lines_eq_nil_iff.1 hlines
    rw [List.intercalate_singleton, feedsBetween_singleton]
    exact iff_of_true rfl hn
  | case5 c cs hn hrn l ls hlines ih =>
    cases cs with
    | nil => simp [Text.lines] at hlines
    | cons d cs =>
      have hbreak : ¬ (c = '\r' ∧ d = '\n') := fun h => hrn cs h.1 (h.2 ▸ rfl)
      rw [List.intercalate_cons_cons_left, List.cons.injEq, ← hlines, ih, feedsBetween_cons_cons]
      simp [hbreak]

/-! ## Texts cut into lines -/

theorem splitOn_indent (body : String) (rest : List Char) :
    ((Text.indent body).toList ++ rest).splitOn '\n'
      = (Text.lines body.toList).map (' ' :: ' ' :: ·) ++ rest.splitOn '\n' := by
  have hlines : ∀ l ∈ Text.lines body.toList, '\n' ∉ l := fun l hl => newline_not_mem_of_mem_lines hl
  rw [Text.indent, String.toList_ofList]
  -- of the lines only that they hold no line feed is used
  generalize Text.lines body.toList = ls at hlines
  induction ls with
  | nil => rfl
  | cons l ls ih =>
    rw [List.forall_mem_cons] at hlines
    have hl : '\n' ∉ ' ' :: ' ' :: l := by simpa using hlines.1
    rw [List.map_cons, List.cons_append, ← ih hlines.2, ← List.splitOn_append_cons_self_of_not_mem hl]
    simp

/-- The definition of a table is cut into its header, its body and the line that closes it. -/
theorem splitOn_definition {name ending : String} {close : List Char} (hname : '\n' ∉ name.toList)
    (hending : ending.toList = close ++ ['\n']) (hclose : '\n' ∉ close) (body rest : String) :
    (name ++ " AS (\n" ++ Text.indent body ++ ending ++ rest).toList.splitOn '\n'
      = (name.toList ++ " AS (".toList) ::
        ((Text.lines body.toList).map (' ' :: ' ' :: ·) ++ close :: rest.toList.splitOn '\n') := by
  have hheader : '\n' ∉ name.toList ++ " AS (".toList := by simp [hname]
  rw [← List.splitOn_append_cons_self_of_not_mem hclose, ← splitOn_indent,
    ← List.splitOn_append_cons_self_of_not_mem hheader]
  simp [hending]

/-! ## Tables -/

/-- A table as it is read: the body that has its lines. -/
def asRead (table : String × String) : String × String :=
  (table.1, unlines (Text.lines table.2.toList))

theorem asRead_eq_self_iff (table : String × String) :
    asRead table = table ↔ FeedsBetween table.2.toList := by
  rw [← intercalate_lines_eq_self_iff, asRead, Prod.ext_iff, and_iff_right rfl, ← String.toList_inj,
    unlines, String.toList_ofList]

theorem readBody?_indented (ls rest : List (List Char)) :
    readBody? (ls.map (' ' :: ' ' :: ·) ++ rest) = (readBody? rest).map (Prod.map (ls ++ ·) id) := by
  induction ls with
  | nil =>
    rw [List.map_nil, List.nil_append]
    cases readBody? rest <;> rfl
  | cons l ls ih =>
    rw [List.map_cons, List.cons_append, readBody?, ih, Option.map_map]
    rfl

/-- A table is read up to the line that closes it, and the rest by what that line says. -/
theorem readTable?_definition {name ending : String} {close : List Char} (hname : '\n' ∉ name.toList)
    (hending : ending.toList = close ++ ['\n']) (hclose : '\n' ∉ close) (body : String) {rest main : String}
    {tables : List (String × String)}
    (hrest : readBody? (close :: rest.toList.splitOn '\n') = some ([], tables, main)) :
    readTable? ((name ++ " AS (\n" ++ Text.indent body ++ ending ++ rest).toList.splitOn '\n')
      = some (asRead (name, body) :: tables, main) := by
  have hheader : (name.toList ++ " AS (".toList).dropSuffix? " AS (".toList = some name.toList :=
    List.dropSuffix?_eq_some_iff.2 ⟨_, rfl, by simp⟩
  rw [splitOn_definition hname hending hclose, readTable?, hheader, readBody?_indented, hrest]
  simp [asRead]

/-- The tables are read one after the other, whatever their bodies are: of each its name and the lines of its
body, and behind the last of them the main part. -/
theorem readTable?_definitions {tables : List (String × String)} (hne : tables ≠ [])
    (hnames : ∀ t ∈ tables, '\n' ∉ t.1.toList) (main : String) :
    readTable? ((definitions tables ++ main).toList.splitOn '\n') = some (tables.map asRead, main) := by
  -- by the cases of the comma: what closes a body says whether the main part or another table is next
  fun_induction definitions tables with
  | case1 => exact absurd rfl hne
  | case2 name body =>
    have hend : readBody? ([')'] :: main.toList.splitOn '\n') = some ([], [], main) := by
      rw [readBody?, unlines, List.intercalate_splitOn, String.ofList_toList]
    exact readTable?_definition (hnames _ List.mem_cons_self) rfl (by decide) body hend
  | case3 name body rest hrest ih =>
    rw [List.forall_mem_cons] at hnames
    have hnext : readBody? ([')', ','] :: (definitions rest ++ main).toList.splitOn '\n')
        = some ([], rest.map asRead, main) := by
      rw [readBody?, ih hrest hnames.2]
      rfl
    rw [String.append_assoc]
    exact readTable?_definition hnames.1 rfl (by decide) body hnext

theorem readTables?_withTables {tables : List (String × String)} (hne : tables ≠ [])
    (hnames : ∀ t ∈ tables, '\n' ∉ t.1.toList) (main : String) :
    readTables? (withTables tables main) = some (tables.map asRead, main) := by
  have hopening : (withTables tables main).toList.dropPrefix? "WITH ".toList
      = some (definitions tables ++ main).toList := by
    rw [List.dropPrefix?_eq_some_iff]
    refine ⟨"WITH ".toList, ?_, by simp⟩
    simp [withTables, hne, String.toList_append]
  rw [readTables?, hopening, Option.bind_some, readTable?_definitions hne hnames]

/-! ## The main statement -/

/-- Named tables that their text determines: there are some, no name has a line feed, and the line feeds of a
body do nothing but stand between its lines. -/
structure Legible (tables : List (String × String)) : Prop where
  nonempty : tables ≠ []
  name : ∀ t ∈ tables, '\n' ∉ t.1.toList
  body : ∀ t ∈ tables, FeedsBetween t.2.toList

/-- Tables whose names are of one line are read as they are exactly if the line feeds of each body do nothing
but stand between its lines. -/
theorem readTables?_withTables_eq_iff {tables : List (String × String)} (hne : tables ≠ [])
    (hnames : ∀ t ∈ tables, '\n' ∉ t.1.toList) (main : String) :
    readTables? (withTables tables main) = some (tables, main) ↔ ∀ t ∈ tables, FeedsBetween t.2.toList := by
  calc readTables? (withTables tables main) = some (tables, main)
      ↔ tables.map asRead = tables.map id := by
        rw [readTables?_withTables hne hnames, List.map_id, Option.some_inj, Prod.mk.injEq,
          and_iff_left rfl]
    _ ↔ ∀ t ∈ tables, asRead t = t := List.map_inj_left
    _ ↔ ∀ t ∈ tables, FeedsBetween t.2.toList := by simp only [asRead_eq_self_iff]

theorem Legible.readTables?_withTables {tables : List (String × String)} (h : Legible tables)
    (main : String) : readTables? (withTables tables main) = some (tables, main) :=
  (readTables?_withTables_eq_iff h.nonempty h.name main).2 h.body

/-- **The text of a statement determines its named tables and its main part.** Reading it gives back every
table under its name, with its body, in order, and the main part, character for character. So no two lists of
tables with main parts have one text. -/
theorem withTables_readBack {tables : List (String × String)} (h : Legible tables) (main : String) :
    readTables? (withTables tables main) = some (tables, main) ∧
      ∀ tables' main', Legible tables' → withTables tables' main' = withTables tables main →
        tables' = tables ∧ main' = main := by
  have hread := h.readTables?_withTables main
  refine ⟨hread, fun tables' main' h' htext => ?_⟩
  have hread' := h'.readTables?_withTables main'
  rw [htext, hread, Option.some_inj, Prod.mk.injEq] at hread'
  exact ⟨hread'.1.symm, hread'.2.symm⟩

/-- Tables that look like others: a name and lines of a body like a header, lines like closing ones, a name
and a body that are empty, and a body that starts with empty lines and ends in a carriage return. -/
def lookalikes : List (String × String) :=
  [("a AS (", ")\n),\nb AS (\n  SELECT 1"), ("", ""), ("b", "\n\n)\r")]

theorem withTables_readBack_lookalikes :
    Legible lookalikes ∧
      withTables lookalikes "),\n  x\n" =
        "WITH a AS ( AS (\n  )\n  ),\n  b AS (\n    SELECT 1\n),\n AS (\n),\n" ++
          "b AS (\n  \n  \n  )\r\n)\n),\n  x\n" ∧
      readTables? (withTables lookalikes "),\n  x\n") = some (lookalikes, "),\n  x\n") := by
  have h : Legible lookalikes := ⟨by decide, by decide, by decide⟩
  exact ⟨h, by decide, (withTables_readBack h _).1⟩

-- a name with a line feed can hide a table
example : withTables [("a AS (\n  x\n),\nb", "y")] "z" = withTables [("a", "x"), ("b", "y")] "z" := by decide

end Broadband.Sql
