import Broadband.Proofs.Sql.Readable

/-!
# Data files in statements

A statement names its data files by literals, and the directory of the data stands in them as it was
given. Here a statement is seen with the directory left out, as a list of slots: most of them hold a
mark, and one for each file waits for the directory. Putting a directory in gives the text of the
statement for that directory, whatever characters the directory has (`Statement.toList_text`).

What a reader makes of that text is another matter. Nothing writes the quotes of the directory twice,
so the files are read back exactly if it has none (`Statement.read_moved_iff`); and the layout moves the
lines of the named tables to the right, so they are read back under their paths exactly if it has no
line feed either (`Statement.read_paths_iff`).
-/

namespace Broadband

/-- Where the file of a dataset for a year lies. -/
def Dataset.path (d : Dataset) (dataPath : String) (year : Int) : List Char :=
  (dataPath ++ "/" ++ toString year ++ "/" ++ d.fileName).toList

theorem Dataset.toList_source (d : Dataset) (dataPath : String) (year : Int) :
    (d.source dataPath year).toList = '\'' :: (d.path dataPath year ++ ['\'']) := by
  simp [source, path]

/-- The quotes and the line feeds in the path of a file are those of the directory. -/
theorem Dataset.count_path {c : Char} (hc : c = '\'' ∨ c = '\n') (d : Dataset) (dataPath : String)
    (year : Int) : (d.path dataPath year).count c = dataPath.toList.count c := by
  have hslash : "/".toList.count c = 0 := by rcases hc with rfl | rfl <;> decide
  have hyear : (toString year).toList.count c = 0 := by
    rw [List.count_eq_zero]
    intro hmem
    rcases Text.isDigit_of_mem_toString_int hmem with hminus | hdigit
    · rcases hc with rfl | rfl <;> exact absurd hminus (by decide)
    · rcases hc with rfl | rfl <;> exact absurd hdigit (by decide)
  have hname : d.fileName.toList.count c = 0 := by
    rcases hc with rfl | rfl <;> cases d <;> decide
  rw [path, String.toList_append, String.toList_append, String.toList_append, String.toList_append,
    List.count_append, List.count_append, List.count_append, List.count_append, hslash, hyear, hname]
  omega

theorem Dataset.mem_path {c : Char} (hc : c = '\'' ∨ c = '\n') (d : Dataset) (dataPath : String)
    (year : Int) : c ∈ d.path dataPath year ↔ c ∈ dataPath.toList := by
  rw [← List.count_pos_iff, ← List.count_pos_iff, d.count_path hc]

namespace Sql

open Text (doubleQuotes)

/-! ## Slots -/

/-- A place in a statement: a mark, which is there for every directory of the data, or the file of a
dataset for a year. -/
inductive Slot
  | mark (m : Mark)
  | file (year : Int) (dataset : Dataset)
  deriving DecidableEq, Repr

namespace Slot

/-- The mark in a slot, if the literals of files hold some content. -/
def filled (content : Int → Dataset → List Char) : Slot → Mark
  | .mark m => m
  | .file year d => .literal (content year d)

/-- The characters in a slot, if the content of a file's literal stands between quotes as it is. -/
def chars (content : Int → Dataset → List Char) : Slot → List Char
  | .mark m => m.chars
  | .file year d => '\'' :: (content year d ++ ['\''])

/-- The file of a slot, if it is for one. -/
def files : Slot → List (Int × Dataset)
  | .mark _ => []
  | .file year d => [(year, d)]

end Slot

/-- The slots of marks. -/
def fixed (ms : List Mark) : List Slot := ms.map .mark

variable {content content' : Int → Dataset → List Char} {ss : List Slot} {s : String}

@[simp] theorem map_filled_fixed (ms : List Mark) : (fixed ms).map (Slot.filled content) = ms := by
  rw [fixed, List.map_map]
  exact List.map_id ms

@[simp] theorem flatMap_chars_fixed (ms : List Mark) :
    (fixed ms).flatMap (Slot.chars content) = spell ms := by
  simp [fixed, List.flatMap_map, Slot.chars, spell]

@[simp] theorem flatMap_files_fixed (ms : List Mark) : (fixed ms).flatMap Slot.files = [] := by
  simp [fixed, List.flatMap_map, Slot.files]

/-! ## Quotes in the directory -/

theorem count_doubleQuotes (cs : List Char) :
    (doubleQuotes cs).count '\'' = 2 * cs.count '\'' := by
  induction cs with
  | nil => rfl
  | cons c cs ih =>
    by_cases hc : c = '\''
    · rw [doubleQuotes, if_pos hc, hc, List.count_cons_self, List.count_cons_self,
        List.count_cons_self, ih]
      omega
    · rw [doubleQuotes, if_neg hc, List.count_cons_of_ne hc, List.count_cons_of_ne hc, ih]

/-- With the same number of quotes in the literal of every file, writing them twice takes that many
more for each file than writing them once. -/
theorem count_spell_filled {n : Nat} (h : ∀ year d, (content year d).count '\'' = n)
    (h' : ∀ year d, (content' year d).count '\'' = n) (ss : List Slot) :
    (spell (ss.map (Slot.filled content))).count '\''
      = (ss.flatMap (Slot.chars content')).count '\'' + n * (ss.flatMap Slot.files).length := by
  induction ss with
  | nil => rfl
  | cons slot ss ih =>
    rw [List.map_cons, List.flatMap_cons, List.flatMap_cons, List.count_append, List.length_append,
      Nat.mul_add]
    cases slot with
    | mark m =>
      have hcons : (spell (m :: ss.map (Slot.filled content))).count '\''
          = m.chars.count '\'' + (spell (ss.map (Slot.filled content))).count '\'' := by
        rw [spell, List.flatMap_cons, List.count_append, spell]
      rw [Slot.filled, hcons, ih, Slot.chars, Slot.files, List.length_nil]
      omega
    | file year d =>
      rw [Slot.filled, spell_literal_cons, Slot.chars, Slot.files, List.count_cons_self,
        List.count_append, count_doubleQuotes, List.count_cons_self, List.count_cons_self,
        List.count_append, List.count_singleton_self, h, h', ih, List.length_singleton]
      omega

/-- **A text is read as slots only if the directory has no quotes.** If the files stand between quotes
as they are and a reader finds their literals, with as many quotes in them, there are none. -/
theorem quotes_eq_zero_of_read {n : Nat} (h : ∀ year d, (content year d).count '\'' = n)
    (h' : ∀ year d, (content' year d).count '\'' = n) (hfiles : ss.flatMap Slot.files ≠ [])
    (hs : s.toList = ss.flatMap (Slot.chars content'))
    (hread : read s = ss.map (Slot.filled content)) : n = 0 := by
  have hcount := count_spell_filled h h' ss
  rw [← hread, spell_read, hs] at hcount
  have hlength : (ss.flatMap Slot.files).length ≠ 0 := by
    rwa [Ne, List.length_eq_zero_iff]
  have hproduct : n * (ss.flatMap Slot.files).length = 0 := by omega
  exact (Nat.mul_eq_zero.1 hproduct).resolve_right hlength

/-- Without quotes in the literals of files, what stands between quotes is the literal. -/
theorem spell_filled (h : ∀ year d, '\'' ∉ content year d) (ss : List Slot) :
    spell (ss.map (Slot.filled content)) = ss.flatMap (Slot.chars content) := by
  rw [spell, List.flatMap_map]
  congr 1
  funext slot
  cases slot with
  | mark m => rfl
  | file year d =>
    rw [Slot.filled, Mark.chars, literalChars, doubleQuotes_of_notMem (h year d), Slot.chars]

theorem read_of_chars (h : ∀ year d, '\'' ∉ content year d)
    (htidy : Tidy (ss.map (Slot.filled content)))
    (hs : s.toList = ss.flatMap (Slot.chars content)) : read s = ss.map (Slot.filled content) :=
  read_of_spell htidy (hs.trans (spell_filled h ss).symm)

/-- The paths of files below a directory. -/
def paths (dataPath : String) (year : Int) (d : Dataset) : List Char := d.path dataPath year

theorem count_paths (dataPath : String) (year : Int) (d : Dataset) :
    (paths dataPath year d).count '\'' = dataPath.toList.count '\'' :=
  d.count_path (.inl rfl) dataPath year

theorem quote_notMem_paths {dataPath : String} (h : '\'' ∉ dataPath.toList) (year : Int)
    (d : Dataset) : '\'' ∉ paths dataPath year d :=
  mt (d.mem_path (.inl rfl) dataPath year).1 h

/-- A file alone, as it stands in a statement, is read as a literal that holds its path exactly if the
directory has no quote. -/
theorem read_source_iff (d : Dataset) (dataPath : String) (year : Int) :
    read (d.source dataPath year) = [.literal (d.path dataPath year)] ↔ '\'' ∉ dataPath.toList := by
  have hs : (d.source dataPath year).toList
      = [Slot.file year d].flatMap (Slot.chars (paths dataPath)) := by
    rw [d.toList_source, List.flatMap_singleton, Slot.chars, paths]
  constructor
  · intro hread
    have hcount := count_paths dataPath
    exact List.count_eq_zero.1 (quotes_eq_zero_of_read hcount hcount (by simp [Slot.files]) hs hread)
  · intro hquote
    have hcontent := quote_notMem_paths hquote
    have htidy : Tidy ([Slot.file year d].map (Slot.filled (paths dataPath))) :=
      ⟨by simp [StartsPlain], trivial⟩
    exact read_of_chars hcontent htidy hs

/-! ## Slots and the layout -/

/-- Slots moved to the right, as marks are. The file in a slot stays where it is. -/
def shiftSlots : List Slot → List Slot
  | [] => []
  | [.mark (.char '\n')] => []
  | .mark (.char '\n') :: ss =>
    .mark (.char '\n') :: .mark (.char ' ') :: .mark (.char ' ') :: shiftSlots ss
  | .mark (.literal content) :: ss => .mark (.literal (shifted content)) :: shiftSlots ss
  | slot :: ss => slot :: shiftSlots ss

/-- The slots of a text that stands indented on lines of its own. -/
def indentSlots (ss : List Slot) : List Slot :=
  if ss = [] then [] else fixed (plain "  ") ++ shiftSlots ss ++ fixed (plain "\n")

/-- Contents with their lines moved to the right. -/
def moved (content : Int → Dataset → List Char) (year : Int) (d : Dataset) : List Char :=
  shifted (content year d)

theorem map_filled_shiftSlots (ss : List Slot) :
    (shiftSlots ss).map (Slot.filled (moved content)) = shiftMarks (ss.map (Slot.filled content)) := by
  fun_induction shiftSlots ss with
  | case1 => rfl
  | case2 => rfl
  | case3 ss hne ih =>
    have hss : ss.map (Slot.filled content) ≠ [] := fun hnil => hne (List.map_eq_nil_iff.1 hnil)
    have hcons : (Slot.mark (.char '\n') :: ss).map (Slot.filled content)
        = .char '\n' :: ss.map (Slot.filled content) := rfl
    rw [hcons, shiftMarks_newline hss, ← ih]
    rfl
  | case4 c ss ih =>
    rw [List.map_cons, List.map_cons, ih]
    rfl
  | case5 slot ss hlast hn hliteral ih =>
    rw [List.map_cons, List.map_cons, ih]
    cases slot with
    | file year d => rfl
    | mark m =>
      rw [Slot.filled, Slot.filled, shiftMarks] <;> simp_all

theorem map_filled_indentSlots (ss : List Slot) :
    (indentSlots ss).map (Slot.filled (moved content))
      = indentMarks (ss.map (Slot.filled content)) := by
  unfold indentSlots indentMarks
  by_cases hss : ss = []
  · simp [hss]
  · simp [hss, map_filled_shiftSlots]

theorem flatMap_chars_ne_nil (h : ss ≠ []) : ss.flatMap (Slot.chars content) ≠ [] := by
  intro hnil
  obtain ⟨slot, ss, rfl⟩ := List.exists_cons_of_ne_nil h
  rw [List.flatMap_cons, List.append_eq_nil_iff] at hnil
  cases slot with
  | file year d => exact absurd hnil.1 (by simp [Slot.chars])
  | mark m => cases m <;> exact absurd hnil.1 (by simp [Slot.chars, Mark.chars, literalChars])

/-- Moving what is written in slots is moving the slots, also with quotes in the directory. -/
theorem shiftChars_slots (htidy : Tidy (ss.map (Slot.filled content'))) :
    shiftChars (ss.flatMap (Slot.chars content))
      = (shiftSlots ss).flatMap (Slot.chars (moved content)) := by
  fun_induction shiftSlots ss with
  | case1 => rfl
  | case2 => rfl
  | case3 ss hne ih =>
    have hss : ss.flatMap (Slot.chars content) ≠ [] := by
      apply flatMap_chars_ne_nil
      rintro rfl
      exact hne rfl
    have hcons : (Slot.mark (.char '\n') :: ss).flatMap (Slot.chars content)
        = '\n' :: ss.flatMap (Slot.chars content) := rfl
    rw [hcons, shiftChars_newline hss, ih htidy.2]
    rfl
  | case4 c ss ih =>
    rw [List.flatMap_cons, List.flatMap_cons, ← ih htidy.2]
    exact shiftChars_literal c _
  | case5 slot ss hlast hn hliteral ih =>
    cases slot with
    | file year d =>
      -- the quotes around a file keep a line break at either end of its path apart from the rest
      rw [List.flatMap_cons, List.flatMap_cons, ← ih htidy.2]
      exact shiftChars_quoted (content year d) _
    | mark m =>
      cases m with
      | char c =>
        have hc : c ≠ '\n' := fun hc => hn (by rw [hc])
        have hcons : (Slot.mark (.char c) :: ss).flatMap (Slot.chars content)
            = c :: ss.flatMap (Slot.chars content) := rfl
        rw [hcons, shiftChars_cons hc fun hr => absurd hr htidy.1.2, ih htidy.2]
        rfl
      | literal c => exact absurd rfl (hliteral c)
      | unclosed c => exact htidy.elim

theorem indent_slots (htidy : Tidy (ss.map (Slot.filled content')))
    (hs : s.toList = ss.flatMap (Slot.chars content)) :
    (Text.indent s).toList = (indentSlots ss).flatMap (Slot.chars (moved content)) := by
  by_cases hss : ss = []
  · simp [Text.indent, indentSlots, hs, hss, Text.lines]
  · have hne : ss.flatMap (Slot.chars content) ≠ [] := flatMap_chars_ne_nil hss
    have hindent := indent_eq_shiftChars hne
    rw [Text.indent, String.toList_ofList, hs, indentSlots, if_neg hss, List.flatMap_append,
      List.flatMap_append, ← shiftChars_slots htidy]
    simpa [spell_plain] using hindent

/-- No file is lost or added where slots are moved. -/
theorem flatMap_files_shiftSlots (ss : List Slot) :
    (shiftSlots ss).flatMap Slot.files = ss.flatMap Slot.files := by
  fun_induction shiftSlots ss with
  | case1 => rfl
  | case2 => rfl
  | case3 ss hne ih => exact ih
  | case4 c ss ih => exact ih
  | case5 slot ss _ _ _ ih => rw [List.flatMap_cons, List.flatMap_cons, ih]

theorem flatMap_files_indentSlots (ss : List Slot) :
    (indentSlots ss).flatMap Slot.files = ss.flatMap Slot.files := by
  unfold indentSlots
  split
  · next hss => rw [hss]
  · simp [flatMap_files_shiftSlots]

/-! ## The slots of statements -/

/-- The slots that read a data file. -/
def YearFile.slots (f : YearFile) : List Slot :=
  fixed (plain ("SELECT *, " ++ toString f.year ++ " AS aar FROM ")) ++ [.file f.year f.dataset]

/-- The slots of what a named table holds. -/
def Body.slots : Body → List Slot
  | .files fs => (fixed (plain "\nUNION ALL\n")).intercalate (fs.map YearFile.slots)
  | b => fixed b.marks

/-- The slots of a named table, in front of what closes its definition. -/
def Definition.slots (d : Definition) : List Slot :=
  fixed (plain (d.name ++ " AS (\n")) ++ indentSlots d.body.slots

/-- The slots of named tables. -/
def definitionSlots : List Definition → List Slot
  | [] => []
  | [d] => d.slots ++ fixed (plain ")\n")
  | d :: ds => d.slots ++ fixed (plain "),\n") ++ definitionSlots ds

/-- The slots of a statement. -/
def Statement.slots (s : Statement) : List Slot :=
  fixed (plain (if s.tables.isEmpty then "" else "WITH ")) ++ definitionSlots s.tables ++
    fixed (s.main.marks Source.text)

/-- The files that a named table holds, with their years. -/
def Body.sources : Body → List (Int × Dataset)
  | .files fs => fs.map fun f => (f.year, f.dataset)
  | _ => []

@[simp] theorem Body.sources_select (s : Select Source) : (Body.select s).sources = [] := rfl

@[simp] theorem Body.sources_nested (s : Select Derived) : (Body.nested s).sources = [] := rfl

@[simp] theorem Body.sources_union (tables : List String) : (Body.union tables).sources = [] := rfl

/-- The files that a statement reads, with their years. -/
def Statement.sources (s : Statement) : List (Int × Dataset) := s.tables.flatMap (·.body.sources)

theorem intercalate_nil_left {α : Type} (xss : List (List α)) :
    ([] : List α).intercalate xss = xss.flatten := by
  induction xss with
  | nil => rfl
  | cons xs xss ih =>
    cases xss with
    | nil => simp
    | cons ys xss => simp_all

theorem Body.flatMap_files_slots (b : Body) : b.slots.flatMap Slot.files = b.sources := by
  cases b with
  | files fs =>
    have hfile : List.flatMap Slot.files ∘ YearFile.slots = fun f => [(f.year, f.dataset)] := by
      funext f
      simp [YearFile.slots, Slot.files]
    rw [slots, flatMap_intercalate, flatMap_files_fixed, List.map_map, hfile, intercalate_nil_left,
      ← List.flatMap_def, ← List.map_eq_flatMap, sources]
  | select s => exact flatMap_files_fixed _
  | nested s => exact flatMap_files_fixed _
  | union tables => exact flatMap_files_fixed _

theorem flatMap_files_definitionSlots (ds : List Definition) :
    (definitionSlots ds).flatMap Slot.files = ds.flatMap (·.body.sources) := by
  have hdefinition : ∀ d : Definition, d.slots.flatMap Slot.files = d.body.sources := by
    intro d
    rw [Definition.slots, List.flatMap_append, flatMap_files_fixed, List.nil_append,
      flatMap_files_indentSlots, Body.flatMap_files_slots]
  fun_induction definitionSlots ds with
  | case1 => rfl
  | case2 d => simp [hdefinition]
  | case3 d ds _ ih => simp [hdefinition, ih]

theorem Statement.flatMap_files_slots (s : Statement) : s.slots.flatMap Slot.files = s.sources := by
  simp [slots, sources, flatMap_files_definitionSlots]

/-! ## Another directory -/

/-- The same file in another directory of the data. -/
def YearFile.inDirectory (dataPath : String) (f : YearFile) : YearFile := { f with dataPath }

/-- The same rows, with the files taken from another directory. -/
def Body.inDirectory (dataPath : String) : Body → Body
  | .files fs => .files (fs.map (YearFile.inDirectory dataPath))
  | b => b

/-- The same table, with the files taken from another directory. -/
def Definition.inDirectory (dataPath : String) (d : Definition) : Definition :=
  { d with body := d.body.inDirectory dataPath }

/-- The same statement, with the files taken from another directory. -/
def Statement.inDirectory (dataPath : String) (s : Statement) : Statement :=
  { s with tables := s.tables.map (Definition.inDirectory dataPath) }

variable {dataPath : String}

theorem Body.Readable.inDirectory {b : Body} (h : b.Readable) (hpath : '\'' ∉ dataPath.toList) :
    (b.inDirectory dataPath).Readable := by
  cases b with
  | files fs =>
    intro f hf
    obtain ⟨g, -, rfl⟩ := List.mem_map.1 hf
    exact hpath
  | _ => exact h

theorem Statement.Readable.inDirectory {s : Statement} (h : s.Readable)
    (hpath : '\'' ∉ dataPath.toList) : (s.inDirectory dataPath).Readable := by
  refine ⟨?_, ?_, h.main⟩
  · exact List.forall_mem_map.2 h.names
  · exact List.forall_mem_map.2 fun d hd => (h.bodies d hd).inDirectory hpath

theorem Body.marks_inDirectory (dataPath : String) (b : Body) :
    (b.inDirectory dataPath).marks = b.slots.map (Slot.filled (paths dataPath)) := by
  cases b with
  | files fs =>
    have hfile : List.map (Slot.filled (paths dataPath)) ∘ YearFile.slots
        = YearFile.marks ∘ YearFile.inDirectory dataPath := by
      funext f
      rw [Function.comp, YearFile.slots, List.map_append, map_filled_fixed]
      rfl
    rw [slots, map_intercalate, map_filled_fixed, List.map_map, hfile, ← List.map_map]
    rfl
  | select s => exact (map_filled_fixed _).symm
  | nested s => exact (map_filled_fixed _).symm
  | union tables => exact (map_filled_fixed _).symm

theorem Definition.marks_inDirectory (dataPath : String) (d : Definition) :
    (d.inDirectory dataPath).marks = d.slots.map (Slot.filled (moved (paths dataPath))) := by
  rw [marks, slots, List.map_append, map_filled_fixed, map_filled_indentSlots,
    ← Body.marks_inDirectory]
  rfl

theorem definitionMarks_inDirectory (dataPath : String) (ds : List Definition) :
    definitionMarks (ds.map (Definition.inDirectory dataPath))
      = (definitionSlots ds).map (Slot.filled (moved (paths dataPath))) := by
  fun_induction definitionSlots ds with
  | case1 => rfl
  | case2 d => simp [definitionMarks, d.marks_inDirectory]
  | case3 d ds hne ih =>
    cases ds with
    | nil => exact absurd rfl hne
    | cons e es =>
      rw [List.map_append, List.map_append, ← ih, map_filled_fixed, ← d.marks_inDirectory]
      rfl

/-- The marks of the statement for a directory are its slots with the paths below it, their lines moved
as those of the statement. -/
theorem Statement.marks_inDirectory (dataPath : String) (s : Statement) :
    (s.inDirectory dataPath).marks = s.slots.map (Slot.filled (moved (paths dataPath))) := by
  rw [slots, List.map_append, List.map_append, map_filled_fixed, map_filled_fixed,
    ← definitionMarks_inDirectory, marks, inDirectory, List.isEmpty_map]

/-! ## The text for a directory -/

theorem YearFile.toList_text (dataPath : String) (f : YearFile) :
    (f.inDirectory dataPath).text.toList = f.slots.flatMap (Slot.chars (paths dataPath)) := by
  rw [slots, List.flatMap_append, flatMap_chars_fixed, spell_plain, List.flatMap_singleton,
    Slot.chars, paths, ← f.dataset.toList_source, ← String.toList_append]
  rfl

theorem Body.toList_text (dataPath : String) (b : Body) :
    (b.inDirectory dataPath).text.toList = b.slots.flatMap (Slot.chars (paths dataPath)) := by
  have hfixed : ∀ b : Body, b.inDirectory dataPath = b → b.slots = fixed b.marks → b.Unquoted →
      (b.inDirectory dataPath).text.toList = b.slots.flatMap (Slot.chars (paths dataPath)) := by
    intro b hsame hslots hquotes
    rw [hsame, hslots, flatMap_chars_fixed, Body.spell_marks hquotes]
  cases b with
  | files fs =>
    have hfiles : (fs.map (YearFile.inDirectory dataPath)).map (String.toList ∘ YearFile.text)
        = fs.map (List.flatMap (Slot.chars (paths dataPath)) ∘ YearFile.slots) := by
      simp only [List.map_map, Function.comp_def, YearFile.toList_text]
    rw [inDirectory, text, unionAll, String.toList_intercalate, List.map_map, hfiles, slots,
      flatMap_intercalate, flatMap_chars_fixed, spell_plain, List.map_map]
  | select s => exact hfixed (.select s) rfl rfl trivial
  | nested s => exact hfixed (.nested s) rfl rfl trivial
  | union tables => exact hfixed (.union tables) rfl rfl trivial

/-- The slots of a named table are tidy, whatever the directory. -/
theorem Body.Readable.tidy_slots {b : Body} (h : b.Readable) :
    Tidy (b.slots.map (Slot.filled (paths ""))) := by
  have hempty : '\'' ∉ "".toList := by decide
  rw [← Body.marks_inDirectory]
  exact (Body.sound (h.inDirectory hempty)).tidy

theorem Definition.toList_text {d : Definition} (h : d.body.Readable) (dataPath : String) :
    (d.name ++ " AS (\n" ++ Text.indent (d.inDirectory dataPath).body.text).toList
      = d.slots.flatMap (Slot.chars (moved (paths dataPath))) := by
  rw [slots, List.flatMap_append, flatMap_chars_fixed, spell_plain,
    ← indent_slots h.tidy_slots (d.body.toList_text dataPath), ← String.toList_append]
  rfl

theorem toList_definitions {ds : List Definition} (h : ∀ d ∈ ds, d.body.Readable)
    (dataPath : String) :
    (definitions ((ds.map (Definition.inDirectory dataPath)).map fun d => (d.name, d.body.text))).toList
      = (definitionSlots ds).flatMap (Slot.chars (moved (paths dataPath))) := by
  fun_induction definitionSlots ds with
  | case1 => rfl
  | case2 d =>
    rw [List.flatMap_append, flatMap_chars_fixed, spell_plain,
      ← Definition.toList_text (h d List.mem_cons_self), ← String.toList_append]
    rfl
  | case3 d ds hne ih =>
    rw [List.forall_mem_cons] at h
    cases ds with
    | nil => exact absurd rfl hne
    | cons e es =>
      rw [List.flatMap_append, List.flatMap_append, flatMap_chars_fixed, spell_plain,
        ← Definition.toList_text h.1, ← ih h.2, ← String.toList_append, ← String.toList_append]
      rfl

/-- **The text of a statement for a directory** is what its slots hold with the paths below that
directory between quotes. This is so for every directory, also for one with quotes. -/
theorem Statement.toList_text {s : Statement} (h : s.Readable) (dataPath : String) :
    (s.inDirectory dataPath).text.toList
      = s.slots.flatMap (Slot.chars (moved (paths dataPath))) := by
  rw [slots, List.flatMap_append, List.flatMap_append, flatMap_chars_fixed, flatMap_chars_fixed,
    spell_plain, ← toList_definitions h.bodies, s.main.spell_marks, text, withTables, inDirectory,
    List.isEmpty_map, List.isEmpty_map, String.toList_append, String.toList_append]

theorem count_shifted (cs : List Char) : (shifted cs).count '\'' = cs.count '\'' := by
  fun_induction shifted cs with
  | case1 => rfl
  | case2 cs ih => simp [ih]
  | case3 cs ih => simp [ih]
  | case4 c cs _ _ ih => rw [List.count_cons, List.count_cons, ih]

theorem count_moved_paths (dataPath : String) (year : Int) (d : Dataset) :
    (moved (paths dataPath) year d).count '\'' = dataPath.toList.count '\'' := by
  rw [moved, count_shifted, count_paths]

/-- A reader finds the files of a statement, with their lines moved, exactly if the directory has no
quote. -/
theorem Statement.read_moved_iff {s : Statement} (h : s.Readable) (hsources : s.sources ≠ [])
    (dataPath : String) :
    read (s.inDirectory dataPath).text = s.slots.map (Slot.filled (moved (paths dataPath))) ↔
      '\'' ∉ dataPath.toList := by
  constructor
  · intro hread
    rw [← s.flatMap_files_slots] at hsources
    have hcount := count_moved_paths dataPath
    exact List.count_eq_zero.1
      (quotes_eq_zero_of_read hcount hcount hsources (Statement.toList_text h dataPath) hread)
  · intro hquote
    rw [Statement.read_text (h.inDirectory hquote), s.marks_inDirectory]

/-- A reader finds the files of a statement under their paths exactly if the directory has neither a
quote nor a line feed. -/
theorem Statement.read_paths_iff {s : Statement} (h : s.Readable) (hsources : s.sources ≠ [])
    (dataPath : String) :
    read (s.inDirectory dataPath).text = s.slots.map (Slot.filled (paths dataPath)) ↔
      '\'' ∉ dataPath.toList ∧ '\n' ∉ dataPath.toList := by
  have hmoved := Statement.read_moved_iff h hsources dataPath
  rw [← s.flatMap_files_slots] at hsources
  constructor
  · intro hread
    have hquote : '\'' ∉ dataPath.toList := List.count_eq_zero.1 (quotes_eq_zero_of_read
      (count_paths dataPath) (count_moved_paths dataPath) hsources
      (Statement.toList_text h dataPath) hread)
    refine ⟨hquote, ?_⟩
    -- both readings are right, so the lines of any one path have not moved
    obtain ⟨slot, hslot, hfile⟩ : ∃ slot ∈ s.slots, slot.files ≠ [] := by
      simpa [List.flatMap_eq_nil_iff] using hsources
    have hsame := List.map_inj_left.1 ((hmoved.2 hquote).symm.trans hread) slot hslot
    cases slot with
    | mark m => exact absurd rfl hfile
    | file year d =>
      have hpath : shifted (paths dataPath year d) = paths dataPath year d :=
        Mark.literal.inj hsame
      exact mt (d.mem_path (.inr rfl) dataPath year).2 (shifted_eq_self_iff.1 hpath)
  · rintro ⟨hquote, hline⟩
    have hexact : moved (paths dataPath) = paths dataPath := by
      funext year d
      exact shifted_of_notMem (mt (d.mem_path (.inr rfl) dataPath year).1 hline)
    rw [hmoved.2 hquote, hexact]

end Sql

end Broadband
