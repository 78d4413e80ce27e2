import Broadband.Proofs.Sql.Rendering

/-!
# Comparisons in the text of a statement

A reader who does not know how a statement was built can still find where a column is compared with a
literal: a literal stands there, in front of it an operator between blanks, and in front of that a
word. `comparisons` lists these places of a text, from left to right. A comparison does not extend
over lines, so the reader looks back no further than to the start of the line or to the literal
before.

What the reader finds in a part of a statement does not depend on where the part stands, as long as
the text in front of it ends a word and is no comparison itself (`Neutral`). `Sound` says of some marks
that they are tidy and which comparisons are found in them wherever they stand; it is closed under all
the ways in which statements are put together. Indented, the same comparisons are found, with the
lines in their literals moved to the right (`comparisonsFrom_indentMarks`).
-/

namespace Broadband.Sql

/-! ## The reader -/

/-- A comparison of a column with a literal. -/
structure Compared where
  column : String
  op : Comparison
  value : String
  deriving DecidableEq, Repr

/-- The character ends a word. -/
def isGap (c : Char) : Bool := c = ' ' || c = '('

/-- The column and the operator that the text in front of a literal, given in reverse, ends with. -/
def comparedWith? : List Char → Option (String × Comparison)
  | ' ' :: rest =>
    match rest.dropWhile (!isGap ·) with
    | ' ' :: rest' =>
      let column := rest'.takeWhile (!isGap ·)
      if column = [] then none
      else (Comparison.ofSymbol? (String.ofList (rest.takeWhile (!isGap ·)).reverse)).map
        fun op => (String.ofList column.reverse, op)
    | _ => none
  | _ => none

/-- The text in front, in reverse, after one more character outside of literals. -/
def advance (before : List Char) (c : Char) : List Char := if c = '\n' then [] else c :: before

/-- The comparisons in marks, given the text in front of them in reverse. -/
def comparisonsFrom : List Char → List Mark → List Compared
  | _, [] => []
  | before, .char c :: ms => comparisonsFrom (advance before c) ms
  | before, .literal content :: ms =>
    ((comparedWith? before).map fun (column, op) =>
      ⟨column, op, String.ofList content⟩).toList ++ comparisonsFrom [] ms
  | before, .unclosed _ :: ms => comparisonsFrom before ms

/-- The comparisons of columns with literals in a text, from left to right. -/
def comparisons (s : String) : List Compared := comparisonsFrom [] (read s)

/-! ## What stands in front -/

/-- A literal behind this text is not compared with anything, and a word behind it starts anew. -/
def Neutral (before : List Char) : Prop :=
  comparedWith? before = none ∧ ∀ c ∈ before.head?, isGap c = true

theorem neutral_nil : Neutral [] := by
  simp [Neutral, comparedWith?]

theorem comparisonsFrom_plain_append (before : List Char) (s : String) (ms : List Mark) :
    comparisonsFrom before (plain s ++ ms) = comparisonsFrom (s.toList.foldl advance before) ms := by
  unfold plain
  generalize s.toList = cs
  induction cs generalizing before with
  | nil => rfl
  | cons c cs ih => exact ih (advance before c)

/-- The last character of an operator. -/
theorem getLast?_symbol {op : Comparison} {c : Char} (h : op.symbol.toList.getLast? = some c) :
    c = '=' ∨ c = '<' ∨ c = '>' := by
  cases op <;> simp [Comparison.symbol] at h <;> simp [← h]

theorem symbol_of_ofSymbol? {s : String} {op : Comparison} (h : Comparison.ofSymbol? s = some op) :
    op.symbol = s := by
  simpa using List.find?_some h

theorem ofSymbol?_symbol (op : Comparison) : Comparison.ofSymbol? op.symbol = some op := by
  cases op <;> decide

/-- What ends in a blank behind anything but an operator is neutral. -/
theorem neutral_blank {c : Char} (hc : c ≠ '=' ∧ c ≠ '<' ∧ c ≠ '>') (before : List Char) :
    Neutral (' ' :: c :: before) := by
  have hop : Comparison.ofSymbol?
      (String.ofList ((c :: before).takeWhile (!isGap ·)).reverse) = none := by
    by_cases hgap : isGap c = true
    · rw [List.takeWhile_cons, hgap]
      rfl
    · -- the word in front of the blank ends in `c`, as an operator never does
      rw [Option.eq_none_iff_forall_ne_some]
      intro op hop
      have hsymbol := congrArg String.toList (symbol_of_ofSymbol? hop)
      have hlast : op.symbol.toList.getLast? = some c := by
        rw [hsymbol, String.toList_ofList, List.takeWhile_cons]
        simp [hgap]
      rcases getLast?_symbol hlast with rfl | rfl | rfl <;> simp at hc
  constructor
  · unfold comparedWith?
    simp only [hop]
    split <;> simp_all
  · simp [isGap]

/-- The text ends with an open parenthesis or a line feed, or with a blank behind a character that no
operator ends with. -/
def endsNeutral (s : String) : Bool :=
  match s.toList.reverse with
  | '(' :: _ => true
  | '\n' :: _ => true
  | ' ' :: c :: _ => c ≠ '=' && c ≠ '<' && c ≠ '>'
  | _ => false

/-- Text outside of literals behind which anything can be read. -/
structure Separator (s : String) : Prop where
  unmarked : Unmarked s
  ends : endsNeutral s = true

instance (s : String) : Decidable (Separator s) :=
  decidable_of_iff (Unmarked s ∧ endsNeutral s = true) ⟨fun h => ⟨h.1, h.2⟩, fun h => ⟨h.1, h.2⟩⟩

theorem Separator.ne_empty {s : String} (h : Separator s) : s ≠ "" := by
  rintro rfl
  exact absurd h.ends (by decide)

theorem Separator.neutral {s : String} (h : Separator s) (before : List Char) :
    Neutral (s.toList.foldl advance before) := by
  have hends := h.ends
  unfold endsNeutral at hends
  -- by the last characters, which are what the reader sees first
  split at hends
  · rename_i cs hcs
    rw [List.reverse_eq_iff.1 hcs, List.reverse_cons, List.foldl_append]
    simp [advance, Neutral, comparedWith?, isGap]
  · rename_i cs hcs
    rw [List.reverse_eq_iff.1 hcs, List.reverse_cons, List.foldl_append]
    exact neutral_nil
  · rename_i c cs hcs
    rw [List.reverse_eq_iff.1 hcs, List.reverse_cons, List.reverse_cons, List.append_assoc,
      List.foldl_append]
    -- a blank behind a line feed starts a line, and no operator stands in front of it
    by_cases hc : c = '\n'
    · simp [advance, hc, Neutral, comparedWith?, isGap]
    · simpa [advance, hc] using neutral_blank (by simpa [and_assoc] using hends) _
  · simp at hends

/-- What stands in front of the end of a separator only has to be outside of literals. -/
theorem Separator.append {s t : String} (hs : Unmarked s) (ht : Separator t) :
    Separator (s ++ t) := by
  refine ⟨hs.append ht.unmarked, ?_⟩
  have hends := ht.ends
  unfold endsNeutral at hends ⊢
  rw [String.toList_append, List.reverse_append]
  split at hends
  · rename_i cs hcs
    rw [hcs]
    rfl
  · rename_i cs hcs
    rw [hcs]
    rfl
  · rename_i c cs hcs
    rw [hcs]
    exact hends
  · simp at hends

/-! ## Sound marks -/

/-- The marks are tidy, and what is found in them, wherever they stand, are the comparisons. -/
structure Sound (ms : List Mark) (cs : List Compared) : Prop where
  tidy : Tidy ms
  comparisons : ∀ before, Neutral before →
    ∃ after, ∀ rest, comparisonsFrom before (ms ++ rest) = cs ++ comparisonsFrom after rest

theorem sound_nil : Sound [] [] :=
  ⟨trivial, fun before _ => ⟨before, fun _ => rfl⟩⟩

theorem sound_plain {s : String} (h : Unmarked s) : Sound (plain s) [] :=
  ⟨tidy_plain h, fun before _ => ⟨_, comparisonsFrom_plain_append before s⟩⟩

/-- A literal on its own is compared with nothing. -/
theorem sound_literal (content : List Char) : Sound [.literal content] [] := by
  refine ⟨⟨by simp [StartsPlain], trivial⟩, fun before hbefore => ⟨[], fun rest => ?_⟩⟩
  simp [comparisonsFrom, hbefore.1]

/-- The word can name a column: it is not empty, and nothing in it ends a word. -/
structure Word (s : String) : Prop where
  unmarked : Unmarked s
  ne_empty : s ≠ ""
  gapless : ∀ c ∈ s.toList, isGap c = false ∧ c ≠ '\n'

instance (s : String) : Decidable (Word s) :=
  letI : Decidable (∀ c ∈ s.toList, isGap c = false ∧ c ≠ '\n') := List.decidableBAll _ _
  decidable_of_iff (Unmarked s ∧ s ≠ "" ∧ ∀ c ∈ s.toList, isGap c = false ∧ c ≠ '\n')
    ⟨fun h => ⟨h.1, h.2.1, h.2.2⟩, fun h => ⟨h.1, h.2, h.3⟩⟩

theorem foldl_advance {cs : List Char} (h : ∀ c ∈ cs, c ≠ '\n') (before : List Char) :
    cs.foldl advance before = cs.reverse ++ before := by
  induction cs generalizing before with
  | nil => rfl
  | cons c cs ih =>
    rw [List.forall_mem_cons] at h
    rw [List.foldl_cons, ih h.2, advance, if_neg h.1]
    simp

/-- Where a word ends, reading backwards. -/
theorem takeWhile_word {cs before : List Char} (h : ∀ c ∈ cs, isGap c = false)
    (hbefore : ∀ c ∈ before.head?, isGap c = true) :
    (cs.reverse ++ before).takeWhile (!isGap ·) = cs.reverse ∧
      (cs.reverse ++ before).dropWhile (!isGap ·) = before := by
  have hcs : ∀ c ∈ cs.reverse, (!isGap c) = true := by
    intro c hc
    simp [h c (List.mem_reverse.1 hc)]
  have hstop : before.takeWhile (!isGap ·) = [] ∧ before.dropWhile (!isGap ·) = before := by
    cases before with
    | nil => simp
    | cons c before => simp [hbefore c rfl]
  rw [List.takeWhile_append_of_pos hcs, List.dropWhile_append_of_pos hcs, hstop.1, hstop.2]
  simp

/-- **A comparison is found** where it is written, and nothing else with it. -/
theorem sound_compare {column : String} (h : Word column) (op : Comparison) (value : String) :
    Sound (plain (column ++ " " ++ op.symbol ++ " ") ++ [.literal value.toList])
      [⟨column, op, value⟩] := by
  have hop : Word op.symbol := by cases op <;> decide
  constructor
  · refine tidy_plain_append ?_ (sound_literal value.toList).tidy
    exact ((h.unmarked.append (by decide)).append hop.unmarked).append (by decide)
  · intro before hbefore
    refine ⟨[], fun rest => ?_⟩
    -- read backwards from the literal: the operator up to a blank, the column up to what is before
    have hblank : ∀ c ∈ (' ' :: (column.toList.reverse ++ before)).head?, isGap c = true := by
      simp [isGap]
    have hsymbol := takeWhile_word (fun c hc => (hop.gapless c hc).1) hblank
    have hcolumn := takeWhile_word (fun c hc => (h.gapless c hc).1) hbefore.2
    have hne : column.toList.reverse ≠ [] := by simpa using h.ne_empty
    have hadvance : (column ++ " " ++ op.symbol ++ " ").toList.foldl advance before
        = ' ' :: (op.symbol.toList.reverse ++ ' ' :: (column.toList.reverse ++ before)) := by
      rw [foldl_advance]
      · simp
      · simp only [String.toList_append, List.forall_mem_append]
        exact ⟨⟨⟨fun c hc => (h.gapless c hc).2, by simp⟩, fun c hc => (hop.gapless c hc).2⟩,
          by simp⟩
    rw [List.append_assoc, comparisonsFrom_plain_append, hadvance]
    simp [comparisonsFrom, comparedWith?, hsymbol, hcolumn, hne, ofSymbol?_symbol]

/-! ## Putting sound marks together -/

/-- Behind a separator. -/
theorem Sound.after {ms : List Mark} {cs : List Compared} (h : Sound ms cs) {s : String}
    (hs : Separator s) : Sound (plain s ++ ms) cs := by
  refine ⟨tidy_plain_append hs.unmarked h.tidy, fun before _ => ?_⟩
  obtain ⟨after, hafter⟩ := h.comparisons _ (hs.neutral before)
  refine ⟨after, fun rest => ?_⟩
  rw [List.append_assoc, comparisonsFrom_plain_append, hafter]

/-- In front of text. -/
theorem Sound.before {ms : List Mark} {cs : List Compared} (h : Sound ms cs) {s : String}
    (hs : Unmarked s) : Sound (ms ++ plain s) cs := by
  constructor
  · by_cases hne : s = ""
    · simpa [hne, plain] using h.tidy
    · refine h.tidy.append (tidy_plain hs) ?_
      simpa using startsPlain_plain_append hne []
  · intro before hbefore
    obtain ⟨after, hafter⟩ := h.comparisons before hbefore
    refine ⟨s.toList.foldl advance after, fun rest => ?_⟩
    rw [List.append_assoc, hafter, comparisonsFrom_plain_append]

/-- Divided by a separator. -/
theorem Sound.divided {ms ns : List Mark} {cs ds : List Compared} (hms : Sound ms cs) {s : String}
    (hs : Separator s) (hns : Sound ns ds) : Sound (ms ++ plain s ++ ns) (cs ++ ds) := by
  rw [List.append_assoc]
  constructor
  · exact hms.tidy.append (tidy_plain_append hs.unmarked hns.tidy)
      (startsPlain_plain_append hs.ne_empty ns)
  · intro before hbefore
    obtain ⟨between, hbetween⟩ := hms.comparisons before hbefore
    obtain ⟨after, hafter⟩ := hns.comparisons _ (hs.neutral between)
    refine ⟨after, fun rest => ?_⟩
    rw [List.append_assoc, hbetween, List.append_assoc, comparisonsFrom_plain_append, hafter,
      List.append_assoc]

/-- Groups of marks that are all sound, with the comparisons of all of them. -/
inductive AllSound : List (List Mark) → List Compared → Prop
  | nil : AllSound [] []
  | cons {ms : List Mark} {mss : List (List Mark)} {cs ds : List Compared} (h : Sound ms cs)
      (hs : AllSound mss ds) : AllSound (ms :: mss) (cs ++ ds)

/-- Groups of marks without any comparison. -/
theorem allSound_nil {mss : List (List Mark)} (h : ∀ ms ∈ mss, Sound ms []) : AllSound mss [] := by
  induction mss with
  | nil => exact .nil
  | cons ms mss ih =>
    rw [List.forall_mem_cons] at h
    exact .cons h.1 (ih h.2)

/-- Groups of marks, joined. -/
theorem AllSound.joined {mss : List (List Mark)} {cs : List Compared} (h : AllSound mss cs)
    {s : String} (hs : Separator s) : Sound (joined s mss) cs := by
  induction h with
  | nil => exact sound_nil
  | @cons ms mss cs ds h hs' ih =>
    cases hs' with
    | nil => simpa [Sql.joined] using h
    | @cons ns nss _ _ _ _ =>
      have hjoined : Sql.joined s (ms :: ns :: nss) = ms ++ plain s ++ Sql.joined s (ns :: nss) := by
        simp [Sql.joined]
      rw [hjoined]
      exact h.divided hs ih

/-- The comparisons of marks that stand at the start of a line. -/
theorem Sound.comparisonsFrom_nil {ms : List Mark} {cs : List Compared} (h : Sound ms cs) :
    comparisonsFrom [] ms = cs := by
  obtain ⟨after, hafter⟩ := h.comparisons [] neutral_nil
  simpa [comparisonsFrom] using hafter []

/-! ## Moving to the right -/

/-- The comparison as it reads in a text that has been moved to the right. -/
def Compared.shifted (c : Compared) : Compared :=
  { c with value := String.ofList (Sql.shifted c.value.toList) }

/-- Blanks end a word, wherever it started. -/
theorem takeWhile_append_blanks (cs : List Char) :
    (cs ++ [' ', ' ']).takeWhile (!isGap ·) = cs.takeWhile (!isGap ·) ∧
      (cs ++ [' ', ' ']).dropWhile (!isGap ·) = cs.dropWhile (!isGap ·) ++ [' ', ' '] := by
  induction cs with
  | nil => decide
  | cons c cs ih => cases hc : isGap c <;> simp [hc, ih]

/-- Blanks at the start of the line make no difference to what a literal is compared with. -/
theorem comparedWith?_append_blanks (before : List Char) :
    comparedWith? (before ++ [' ', ' ']) = comparedWith? before := by
  cases before with
  | nil => decide
  | cons c rest =>
    by_cases hc : c = ' '
    · obtain ⟨htake, hdrop⟩ := takeWhile_append_blanks rest
      subst hc
      simp only [List.cons_append, comparedWith?, htake, hdrop]
      cases rest.dropWhile (!isGap ·) with
      | nil => rfl
      | cons d rest' =>
        by_cases hd : d = ' '
        · subst hd
          simp only [List.cons_append, (takeWhile_append_blanks rest').1]
        · simp [hd]
    · simp [comparedWith?, hc]

/-- The comparisons in marks that have been moved to the right, from the start of a line on or from
behind a literal. -/
theorem comparisonsFrom_shiftMarks (ms : List Mark) (before : List Char) {margin : List Char}
    (hmargin : margin = [] ∨ margin = [' ', ' ']) :
    comparisonsFrom (before ++ margin) (shiftMarks ms)
      = (comparisonsFrom before ms).map Compared.shifted := by
  -- the margin is what has been added to the line so far: two blanks at its start, none behind a
  -- literal, where the reader starts anew
  fun_induction shiftMarks ms generalizing before margin with
  | case1 => rfl
  | case2 => rfl
  | case3 ms hne ih => exact ih [] (.inr rfl)
  | case4 content ms ih =>
    have hcompared : comparedWith? (before ++ margin) = comparedWith? before := by
      rcases hmargin with rfl | rfl
      · rw [List.append_nil]
      · exact comparedWith?_append_blanks before
    have hrest := ih [] (.inl rfl)
    rw [List.append_nil] at hrest
    rw [comparisonsFrom, comparisonsFrom, hcompared, hrest, List.map_append]
    cases comparedWith? before with
    | none => rfl
    | some c => simp [Compared.shifted]
  | case5 m ms hlast hn hliteral ih =>
    cases m with
    | char c =>
      have hc : c ≠ '\n' := fun hc => hn (by rw [hc])
      have hadvance : ∀ cs, advance cs c = c :: cs := fun cs => if_neg hc
      rw [comparisonsFrom, comparisonsFrom, hadvance, hadvance]
      exact ih (c :: before) hmargin
    | literal content => exact absurd rfl (hliteral content)
    | unclosed content => exact ih before hmargin

/-- A line feed ends whatever was read before it. -/
theorem comparisonsFrom_append_newline {s : String} (hs : s.toList.getLast? = some '\n')
    (before : List Char) (ms rest : List Mark) :
    comparisonsFrom before (ms ++ plain s ++ rest)
      = comparisonsFrom before ms ++ comparisonsFrom [] rest := by
  obtain ⟨cs, hcs⟩ := List.getLast?_eq_some_iff.1 hs
  induction ms generalizing before with
  | nil =>
    rw [List.nil_append, comparisonsFrom_plain_append, hcs, List.foldl_append]
    rfl
  | cons m ms ih =>
    cases m with
    | char c => exact ih _
    | literal content =>
      rw [List.cons_append, List.cons_append, comparisonsFrom, comparisonsFrom, ih, List.append_assoc]
    | unclosed content => exact ih _

/-- The comparisons in an indented text, read from the start of a line on. -/
theorem comparisonsFrom_indentMarks {s : String} (hs : s.toList.getLast? = some '\n')
    (ms rest : List Mark) :
    comparisonsFrom [] (indentMarks ms ++ plain s ++ rest)
      = (comparisonsFrom [] ms).map Compared.shifted ++ comparisonsFrom [] rest := by
  rw [comparisonsFrom_append_newline hs]
  congr 1
  unfold indentMarks
  split
  · rename_i hms
    rw [hms]
    rfl
  · have hend := comparisonsFrom_append_newline (s := "\n") (by decide) [] (plain "  " ++ shiftMarks ms) []
    rw [List.append_nil] at hend
    rw [hend, comparisonsFrom_plain_append]
    have hshift := comparisonsFrom_shiftMarks ms [] (.inr rfl)
    simpa [comparisonsFrom, advance] using hshift

/-! ## Line feeds in literals -/

theorem shifted_of_notMem {cs : List Char} (h : '\n' ∉ cs) : shifted cs = cs := by
  fun_induction shifted cs with
  | case1 => rfl
  | case2 cs ih => exact absurd List.mem_cons_self h
  | case3 cs ih => exact absurd (List.mem_cons_of_mem _ List.mem_cons_self) h
  | case4 c cs _ _ ih => rw [ih fun hc => h (List.mem_cons_of_mem _ hc)]

/-- Every line feed in a literal makes it longer. -/
theorem length_shifted (cs : List Char) :
    cs.length + cs.count '\n' ≤ (shifted cs).length := by
  fun_induction shifted cs with
  | case1 => simp
  | case2 cs ih =>
    -- two blanks are added
    simp only [List.length_cons, List.count_cons_self]
    omega
  | case3 cs ih =>
    -- two blanks are added and the carriage return is lost
    have hcount : ('\r' :: '\n' :: cs).count '\n' = cs.count '\n' + 1 := by simp
    simp only [List.length_cons, hcount]
    omega
  | case4 c cs hn _ ih =>
    have hc : c ≠ '\n' := hn
    rw [List.length_cons, List.length_cons, List.count_cons_of_ne hc]
    omega

theorem shifted_eq_self_iff {cs : List Char} : shifted cs = cs ↔ '\n' ∉ cs := by
  refine ⟨fun h => ?_, shifted_of_notMem⟩
  have hlength := length_shifted cs
  rw [h] at hlength
  exact List.count_eq_zero.1 (by omega)

theorem Compared.shifted_eq_self_iff {c : Compared} : c.shifted = c ↔ '\n' ∉ c.value.toList := by
  rw [← Sql.shifted_eq_self_iff]
  constructor
  · intro h
    have hvalue : String.ofList (Sql.shifted c.value.toList) = c.value := congrArg Compared.value h
    simpa using congrArg String.toList hvalue
  · intro h
    rw [Compared.shifted, h, String.ofList_toList]

theorem map_shifted_eq_self_iff {cs : List Compared} :
    cs.map Compared.shifted = cs ↔ ∀ c ∈ cs, '\n' ∉ c.value.toList := by
  induction cs with
  | nil => simp
  | cons c cs ih =>
    rw [List.map_cons, List.cons.injEq, ih, Compared.shifted_eq_self_iff, List.forall_mem_cons]

end Broadband.Sql
