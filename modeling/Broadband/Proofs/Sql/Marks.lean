import Broadband.Text.Lines
import Broadband.Text.Quoted

/-!
# Reading the literals of a statement

How a reader of SQL takes a statement apart into what is in single quotes and what is not: a quote
opens a literal, a quote that is not followed by another one closes it, and two in a row inside are one
character of it. `read` is that reader; `eraseLiterals` is the statement with nothing left in its
literals.

Its other side is `spell`, which writes marks down. What is written is read back if no mark outside a
literal is a quote and no two literals touch, which is the main part of being `Tidy`
(`scan_spell`). The layout moves the lines of a statement to the right without knowing of
literals, so it also changes those that hold line breaks; `indent_spell` says exactly how.
-/

namespace Broadband.Sql

open Text (doubleQuotes)

/-! ## Marks -/

/-- A part of a statement: a character outside of literals, the content of a literal, or of one that
the statement ends in the middle of. -/
inductive Mark
  | char (c : Char)
  | literal (content : List Char)
  | unclosed (content : List Char)
  deriving DecidableEq, Repr

/-- The marks of some characters, either outside of literals or in the middle of one, of which the
content so far is given in reverse. -/
def scan : Option (List Char) → List Char → List Mark
  | none, [] => []
  | some content, [] => [.unclosed content.reverse]
  | none, c :: cs => if c = '\'' then scan (some []) cs else .char c :: scan none cs
  | some content, '\'' :: '\'' :: cs => scan (some ('\'' :: content)) cs
  | some content, c :: cs =>
    if c = '\'' then .literal content.reverse :: scan none cs else scan (some (c :: content)) cs

/-- The marks of a text. -/
def read (s : String) : List Mark := scan none s.toList

/-- What is left of a mark without the content of literals: the quotes. -/
def Mark.erased : Mark → List Char
  | .char c => [c]
  | .literal _ => ['\'', '\'']
  | .unclosed _ => ['\'']

/-- The text with the content of every literal erased. -/
def eraseLiterals (s : String) : String := String.ofList ((read s).flatMap Mark.erased)

/-! ## Writing marks down -/

/-- A literal, every quote in it twice. -/
def literalChars (content : List Char) : List Char := '\'' :: (doubleQuotes content ++ ['\''])

/-- The characters of a mark. -/
def Mark.chars : Mark → List Char
  | .char c => [c]
  | .literal content => literalChars content
  | .unclosed content => '\'' :: doubleQuotes content

/-- The characters of marks. -/
def spell (ms : List Mark) : List Char := ms.flatMap Mark.chars

/-- The marks of a text outside of literals. -/
def plain (s : String) : List Mark := s.toList.map .char

theorem spell_append (ms ns : List Mark) : spell (ms ++ ns) = spell ms ++ spell ns :=
  List.flatMap_append

theorem spell_plain (s : String) : spell (plain s) = s.toList := by
  simp [spell, plain, List.flatMap_map, Mark.chars]

theorem plain_append (s t : String) : plain (s ++ t) = plain s ++ plain t := by
  simp [plain]

/-- A literal mark is written as the program writes a literal. -/
theorem spell_literal (s : String) : spell [.literal s.toList] = (Text.quoted s).toList := by
  simp [spell, Mark.chars, literalChars, Text.quoted]

theorem spell_char_cons (c : Char) (ms : List Mark) : spell (.char c :: ms) = c :: spell ms := rfl

theorem spell_literal_cons (content : List Char) (ms : List Mark) :
    spell (.literal content :: ms) = '\'' :: (doubleQuotes content ++ '\'' :: spell ms) := by
  simp [spell, Mark.chars, literalChars]

/-! ## Tidy marks -/

/-- The first mark is not a literal. -/
def StartsPlain (ms : List Mark) : Prop := ∀ content, ms.head? ≠ some (.literal content)

/-- Outside of literals there is no quote and no carriage return, every literal is closed, and no two
of them touch. -/
def Tidy : List Mark → Prop
  | [] => True
  | .char c :: ms => (c ≠ '\'' ∧ c ≠ '\r') ∧ Tidy ms
  | .literal _ :: ms => StartsPlain ms ∧ Tidy ms
  | .unclosed _ :: _ => False

/-- The text has neither quotes nor carriage returns. -/
def Unmarked (s : String) : Prop := ∀ c ∈ s.toList, c ≠ '\'' ∧ c ≠ '\r'

instance (s : String) : Decidable (Unmarked s) :=
  List.decidableBAll (fun c => c ≠ '\'' ∧ c ≠ '\r') s.toList

theorem Unmarked.append {s t : String} (hs : Unmarked s) (ht : Unmarked t) : Unmarked (s ++ t) := by
  intro c hc
  rw [String.toList_append, List.mem_append] at hc
  exact hc.elim (hs c) (ht c)

theorem startsPlain_plain_append {s : String} (h : s ≠ "") (ms : List Mark) :
    StartsPlain (plain s ++ ms) := by
  intro content
  cases hs : s.toList with
  | nil => exact absurd (String.toList_eq_nil_iff.1 hs) h
  | cons c cs => simp [plain, hs]

/-- Text outside of literals may stand before anything. -/
theorem tidy_plain_append {s : String} (hs : Unmarked s) {ms : List Mark} (h : Tidy ms) :
    Tidy (plain s ++ ms) := by
  unfold Unmarked at hs
  unfold plain
  generalize s.toList = cs at hs ⊢
  induction cs with
  | nil => exact h
  | cons c cs ih =>
    rw [List.forall_mem_cons] at hs
    exact ⟨hs.1, ih hs.2⟩

theorem tidy_plain {s : String} (hs : Unmarked s) : Tidy (plain s) := by
  have hnil : Tidy [] := trivial
  rw [← List.append_nil (plain s)]
  exact tidy_plain_append hs hnil

/-- Marks may follow each other unless two literals would touch. -/
theorem Tidy.append {ms ns : List Mark} (hms : Tidy ms) (hns : Tidy ns) (h : StartsPlain ns) :
    Tidy (ms ++ ns) := by
  induction ms with
  | nil => exact hns
  | cons m ms ih =>
    cases m with
    | char c => exact ⟨hms.1, ih hms.2⟩
    | literal content =>
      -- what follows the literal is the next mark, or the first of `ns` if it is the last
      refine ⟨?_, ih hms.2⟩
      cases ms with
      | nil => exact h
      | cons m ms => exact hms.1
    | unclosed content => exact hms.elim

/-! ## Reading back -/

/-- Inside a literal everything is read up to the quote that closes it. -/
theorem scan_doubleQuotes {rest : List Char} (hrest : rest.head? ≠ some '\'')
    (content before : List Char) :
    scan (some before) (doubleQuotes content ++ '\'' :: rest)
      = .literal (before.reverse ++ content) :: scan none rest := by
  -- the content read so far stands in front, in reverse, and grows by one character at a time
  induction content generalizing before with
  | nil =>
    cases rest with
    | nil => simp [doubleQuotes, scan]
    | cons c cs =>
      have hc : c ≠ '\'' := by simpa using hrest
      simp [doubleQuotes, scan, hc]
  | cons c content ih =>
    by_cases hc : c = '\''
    · simp [doubleQuotes, scan, hc, ih]
    · simp [doubleQuotes, scan, hc, ih]

theorem head?_spell {ms : List Mark} (h : Tidy ms) (hs : StartsPlain ms) :
    (spell ms).head? ≠ some '\'' := by
  cases ms with
  | nil => simp [spell]
  | cons m ms =>
    cases m with
    | char c => simpa [spell, Mark.chars] using h.1.1
    | literal content => exact absurd rfl (hs content)
    | unclosed content => exact h.elim

/-- **Tidy marks are read back as they were written.** -/
theorem scan_spell {ms : List Mark} (h : Tidy ms) : scan none (spell ms) = ms := by
  induction ms with
  | nil => rfl
  | cons m ms ih =>
    cases m with
    | char c => rw [spell_char_cons, scan, if_neg h.1.1, ih h.2]
    | literal content =>
      -- no quote follows the closing one, or the two would be read as one character
      have hnext := head?_spell h.2 h.1
      rw [spell_literal_cons, scan, if_pos rfl, scan_doubleQuotes hnext, ih h.2]
      rfl
    | unclosed content => exact h.elim

/-- The marks of a text that was written from tidy ones. -/
theorem read_of_spell {s : String} {ms : List Mark} (h : Tidy ms) (hs : s.toList = spell ms) :
    read s = ms := by
  rw [read, hs, scan_spell h]

theorem doubleQuotes_append (cs ds : List Char) :
    doubleQuotes (cs ++ ds) = doubleQuotes cs ++ doubleQuotes ds := by
  induction cs with
  | nil => rfl
  | cons c cs ih =>
    by_cases hc : c = '\''
    · simp [doubleQuotes, hc, ih]
    · simp [doubleQuotes, hc, ih]

/-- Writing down what is read gives what was there. In the middle of a literal that is what has been
read of it so far, with the quote in front, and the rest. -/
theorem spell_scan (state : Option (List Char)) (cs : List Char) :
    spell (scan state cs)
      = (state.elim [] fun content => '\'' :: doubleQuotes content.reverse) ++ cs := by
  fun_induction scan state cs with
  | case1 => rfl
  | case2 content => simp [spell, Mark.chars]
  | case3 cs ih => simp [ih, doubleQuotes]
  | case4 c cs hc ih => simp [spell_char_cons, ih]
  | case5 content cs ih => simp [ih, doubleQuotes_append, doubleQuotes]
  | case6 content cs hnext ih => simp [spell_literal_cons, ih]
  | case7 content c cs hnext hc ih => simp [ih, doubleQuotes_append, doubleQuotes, hc]

/-- A text is what its marks are written as. -/
theorem spell_read (s : String) : spell (read s) = s.toList := spell_scan none s.toList

/-! ## What the layout does -/

/-- A text moved to the right in the middle of a line: every line feed is followed by two blanks, and a
carriage return directly before one is lost. -/
def shifted : List Char → List Char
  | [] => []
  | '\n' :: cs => '\n' :: ' ' :: ' ' :: shifted cs
  | '\r' :: '\n' :: cs => '\n' :: ' ' :: ' ' :: shifted cs
  | c :: cs => c :: shifted cs

/-- Marks moved to the right: the lines outside of literals and those inside of them. A line feed at
the very end ends the last line and starts no other. -/
def shiftMarks : List Mark → List Mark
  | [] => []
  | [.char '\n'] => []
  | .char '\n' :: ms => .char '\n' :: .char ' ' :: .char ' ' :: shiftMarks ms
  | .literal content :: ms => .literal (shifted content) :: shiftMarks ms
  | m :: ms => m :: shiftMarks ms

theorem shiftMarks_newline {ms : List Mark} (h : ms ≠ []) :
    shiftMarks (.char '\n' :: ms) = .char '\n' :: .char ' ' :: .char ' ' :: shiftMarks ms := by
  rw [shiftMarks]
  exact h

/-- The marks of a text that stands indented on lines of its own. -/
def indentMarks (ms : List Mark) : List Mark :=
  if ms = [] then [] else plain "  " ++ shiftMarks ms ++ plain "\n"

/-- The characters of an indented text, before the blanks of its first line and without the end of its
last one. -/
def shiftChars : List Char → List Char
  | [] => []
  | ['\n'] => []
  | ['\r', '\n'] => []
  | '\n' :: cs => '\n' :: ' ' :: ' ' :: shiftChars cs
  | '\r' :: '\n' :: cs => '\n' :: ' ' :: ' ' :: shiftChars cs
  | c :: cs => c :: shiftChars cs

theorem shiftChars_cons {c : Char} {cs : List Char} (hn : c ≠ '\n')
    (hr : c = '\r' → ∀ ds, cs ≠ '\n' :: ds) : shiftChars (c :: cs) = c :: shiftChars cs := by
  rw [shiftChars] <;> simp_all

theorem shiftChars_newline {cs : List Char} (h : cs ≠ []) :
    shiftChars ('\n' :: cs) = '\n' :: ' ' :: ' ' :: shiftChars cs := by
  rw [shiftChars]
  exact h

theorem shiftChars_return {cs : List Char} (h : cs ≠ []) :
    shiftChars ('\r' :: '\n' :: cs) = '\n' :: ' ' :: ' ' :: shiftChars cs := by
  rw [shiftChars]
  exact h

/-- Only the empty text has no lines. -/
theorem lines_eq_nil_iff {cs : List Char} : Text.lines cs = [] ↔ cs = [] := by
  fun_cases Text.lines cs <;> simp

/-- Indenting a text that is not empty. -/
theorem indent_eq_shiftChars {cs : List Char} (h : cs ≠ []) :
    ((Text.lines cs).flatMap fun l => ' ' :: ' ' :: (l ++ ['\n']))
      = ' ' :: ' ' :: (shiftChars cs ++ ['\n']) := by
  -- by the cases in which lines are cut: at the end, at a line feed, at both characters of a line
  -- break, and in the middle of a line that is the last one or not
  fun_induction Text.lines cs with
  | case1 => exact absurd rfl h
  | case2 cs ih =>
    cases cs with
    | nil => simp [Text.lines, shiftChars]
    | cons c cs => simpa [shiftChars] using ih (by simp)
  | case3 cs ih =>
    cases cs with
    | nil => simp [Text.lines, shiftChars]
    | cons c cs => simpa [shiftChars] using ih (by simp)
  | case4 c cs hn hrn hlines ih =>
    obtain rfl := lines_eq_nil_iff.1 hlines
    have hshift : shiftChars [c] = [c] := shiftChars_cons hn (by simp)
    simp [hshift]
  | case5 c cs hn hrn l ls hlines ih =>
    have hne : cs ≠ [] := by
      intro hcs
      simp [hcs, Text.lines] at hlines
    have hshift : shiftChars (c :: cs) = c :: shiftChars cs :=
      shiftChars_cons hn fun hc ds hds => hrn ds hc hds
    have hrest : l ++ '\n' :: ls.flatMap (fun l => ' ' :: ' ' :: (l ++ ['\n']))
        = shiftChars cs ++ ['\n'] := by
      simpa [hlines] using ih hne
    simp [hshift, hrest]

theorem shifted_cons {c : Char} {cs : List Char} (hn : c ≠ '\n')
    (hr : c = '\r' → ∀ ds, cs ≠ '\n' :: ds) : shifted (c :: cs) = c :: shifted cs := by
  rw [shifted] <;> simp_all

/-- In front of a character that is no part of a line break, every line break is moved, also one directly
before it. -/
theorem shiftChars_append_cons {c : Char} (hnewline : c ≠ '\n') (hreturn : c ≠ '\r')
    (content rest : List Char) :
    shiftChars (content ++ c :: rest) = shifted content ++ c :: shiftChars rest := by
  fun_induction shifted content with
  | case1 => exact shiftChars_cons hnewline fun h => absurd h hreturn
  | case2 cs ih =>
    have hne : cs ++ c :: rest ≠ [] := by simp
    rw [List.cons_append, shiftChars_newline hne, ih]
    rfl
  | case3 cs ih =>
    have hne : cs ++ c :: rest ≠ [] := by simp
    rw [List.cons_append, List.cons_append, shiftChars_return hne, ih]
    rfl
  | case4 d cs hn hrn ih =>
    -- what follows a carriage return in the content is no line feed, nor is the character behind it
    have hnext : d = '\r' → ∀ ds, cs ++ c :: rest ≠ '\n' :: ds := by
      intro hr ds hds
      cases cs with
      | nil => exact hnewline (List.cons.inj hds).1
      | cons e cs =>
        obtain rfl : e = '\n' := (List.cons.inj hds).1
        exact hrn cs hr rfl
    rw [List.cons_append, shiftChars_cons hn hnext, ih]
    rfl

theorem shiftChars_append_quote (content rest : List Char) :
    shiftChars (content ++ '\'' :: rest) = shifted content ++ '\'' :: shiftChars rest :=
  shiftChars_append_cons (by decide) (by decide) content rest

/-- Moving lines and doubling quotes do not get in each other's way. -/
theorem shifted_doubleQuotes (content : List Char) :
    shifted (doubleQuotes content) = doubleQuotes (shifted content) := by
  fun_induction shifted content with
  | case1 => rfl
  | case2 cs ih => simp [doubleQuotes, shifted, ih]
  | case3 cs ih => simp [doubleQuotes, shifted, ih]
  | case4 c cs hn hrn ih =>
    by_cases hc : c = '\''
    · simp [doubleQuotes, shifted, hc, ih]
    · have hnext : c = '\r' → ∀ ds, doubleQuotes cs ≠ '\n' :: ds := by
        intro hr ds hds
        cases cs with
        | nil => simp [doubleQuotes] at hds
        | cons d cs =>
          by_cases hd : d = '\''
          · simp [doubleQuotes, hd] at hds
          · obtain rfl : d = '\n' := by simp [doubleQuotes, hd] at hds; exact hds.1
            exact hrn cs hr rfl
      rw [doubleQuotes, if_neg hc, doubleQuotes, if_neg hc, shifted_cons hn hnext, ih]

/-- What stands between quotes is moved with its line breaks. -/
theorem shiftChars_quoted (content rest : List Char) :
    shiftChars ('\'' :: (content ++ ['\'']) ++ rest)
      = '\'' :: (shifted content ++ ['\'']) ++ shiftChars rest := by
  rw [List.cons_append, List.append_assoc, shiftChars_cons (by decide) (by simp),
    List.singleton_append, shiftChars_append_quote]
  simp

/-- Inside a literal every line break is moved, also one at the end of its content. -/
theorem shiftChars_literal (content rest : List Char) :
    shiftChars (literalChars content ++ rest) = literalChars (shifted content) ++ shiftChars rest := by
  rw [literalChars, shiftChars_quoted, shifted_doubleQuotes, literalChars]

theorem spell_ne_nil {ms : List Mark} (h : ms ≠ []) : spell ms ≠ [] := by
  cases ms with
  | nil => exact absurd rfl h
  | cons m ms => cases m <;> simp [spell, Mark.chars, literalChars]

/-- Moving the written marks is moving the marks. -/
theorem shiftChars_spell {ms : List Mark} (h : Tidy ms) :
    shiftChars (spell ms) = spell (shiftMarks ms) := by
  fun_induction shiftMarks ms with
  | case1 => rfl
  | case2 => rfl
  | case3 ms hne ih =>
    have hms : ms ≠ [] := by
      rintro rfl
      exact hne rfl
    rw [spell_char_cons, shiftChars_newline (spell_ne_nil hms), ih h.2]
    rfl
  | case4 content ms ih =>
    change shiftChars (literalChars content ++ spell ms) = literalChars (shifted content) ++ spell _
    rw [shiftChars_literal, ih h.2]
  | case5 m ms hlast hn hliteral ih =>
    cases m with
    | char c =>
      -- a carriage return outside of literals could hide a line feed; tidy marks have none
      have hc : c ≠ '\n' := fun hc => hn (by rw [hc])
      rw [spell_char_cons, spell_char_cons, shiftChars_cons hc fun hr => absurd hr h.1.2, ih h.2]
    | literal content => exact absurd rfl (hliteral content)
    | unclosed content => exact h.elim

/-- **Indenting written marks**: the text stands on lines of its own, and what has moved inside it are
its lines, in literals and outside of them. -/
theorem indent_spell {ms : List Mark} (h : Tidy ms) {s : String} (hs : s.toList = spell ms) :
    (Text.indent s).toList = spell (indentMarks ms) := by
  by_cases hms : ms = []
  · simp [Text.indent, indentMarks, hs, hms, spell, Text.lines]
  · have hindent := indent_eq_shiftChars (spell_ne_nil hms)
    simp only [Text.indent, String.toList_ofList, hs, indentMarks, if_neg hms, spell_append,
      spell_plain, ← shiftChars_spell h, List.cons_append]
    rw [hindent]
    simp

theorem startsPlain_shiftMarks {ms : List Mark} (h : StartsPlain ms) :
    StartsPlain (shiftMarks ms) := by
  fun_cases shiftMarks ms with
  | case1 | case2 | case3 => simp [StartsPlain]
  | case4 content ms => exact absurd rfl (h content)
  | case5 m ms _ _ hliteral =>
    intro content hm
    exact hliteral content (by simpa using hm)

theorem Tidy.shiftMarks {ms : List Mark} (h : Tidy ms) : Tidy (shiftMarks ms) := by
  fun_induction Sql.shiftMarks ms with
  | case1 => trivial
  | case2 => trivial
  | case3 ms _ ih => exact ⟨by decide, by decide, by decide, ih h.2⟩
  | case4 content ms ih => exact ⟨startsPlain_shiftMarks h.1, ih h.2⟩
  | case5 m ms _ _ hliteral ih =>
    cases m with
    | char c => exact ⟨h.1, ih h.2⟩
    | literal content => exact absurd rfl (hliteral content)
    | unclosed content => exact h.elim

theorem Tidy.indentMarks {ms : List Mark} (h : Tidy ms) : Tidy (indentMarks ms) := by
  unfold Sql.indentMarks
  split
  · trivial
  · rw [List.append_assoc]
    refine tidy_plain_append (by decide) (h.shiftMarks.append (tidy_plain (by decide)) ?_)
    simp [StartsPlain, plain]

/-! ## Marks without the content of their literals -/

/-- The mark with nothing in it, if it is a literal. -/
def Mark.blank : Mark → Mark
  | .char c => .char c
  | .literal _ => .literal []
  | .unclosed _ => .unclosed []

theorem Mark.erased_blank (m : Mark) : m.blank.erased = m.erased := by
  cases m <;> rfl

/-- Texts whose marks agree but for the content of literals become equal when it is erased. -/
theorem eraseLiterals_congr {s t : String}
    (h : (read s).map Mark.blank = (read t).map Mark.blank) :
    eraseLiterals s = eraseLiterals t := by
  have hblank : ∀ ms : List Mark, ms.flatMap Mark.erased = (ms.map Mark.blank).flatMap Mark.erased := by
    intro ms
    simp [List.flatMap_map, Mark.erased_blank]
  rw [eraseLiterals, eraseLiterals, hblank, h, ← hblank]

/-- What moves to the right outside of literals does not depend on what is in them. -/
theorem map_blank_shiftMarks (ms : List Mark) :
    (shiftMarks ms).map Mark.blank = shiftMarks (ms.map Mark.blank) := by
  fun_induction shiftMarks ms with
  | case1 => rfl
  | case2 => rfl
  | case3 ms hne ih =>
    -- leaving content out keeps a line feed from becoming the last mark
    have hms : ms.map Mark.blank ≠ [] := by
      intro hnil
      exact hne (List.map_eq_nil_iff.1 hnil)
    have hcons : (Mark.char '\n' :: ms).map Mark.blank = .char '\n' :: ms.map Mark.blank := rfl
    rw [hcons, shiftMarks_newline hms, ← ih]
    rfl
  | case4 content ms ih =>
    rw [List.map_cons, List.map_cons, ih]
    rfl
  | case5 m ms hlast hn hliteral ih =>
    rw [List.map_cons, List.map_cons, ih]
    cases m with
    | char c =>
      have hc : Mark.char c ≠ .char '\n' := hn
      rw [Mark.blank, shiftMarks] <;> simp_all
    | literal content => exact absurd rfl (hliteral content)
    | unclosed content => rfl

theorem map_blank_plain (s : String) : (plain s).map Mark.blank = plain s := by
  simp [plain, Mark.blank]

theorem map_blank_indentMarks (ms : List Mark) :
    (indentMarks ms).map Mark.blank = indentMarks (ms.map Mark.blank) := by
  unfold indentMarks
  by_cases hms : ms = []
  · simp [hms]
  · simp [hms, map_blank_plain, map_blank_shiftMarks]

end Broadband.Sql
