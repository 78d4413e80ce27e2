import Broadband.Proofs.Sql.Conditions

/-!
# Reading and evaluating tests of membership

A test of membership asks whether a key is in a subquery. How a reader of SQL takes its text: the key,
`IN` or `NOT IN`, and in parentheses one arm after the other with `INTERSECT` between them, each of which
selects a column of the rows that meet a condition. Where a condition ends is not marked by anything, so
an arm is read up to the first symbol that its condition cannot go on with (`armsFrom`); conditions are
read with the usual precedence, as before.

Such a test has a truth value for a row once it is known which rows the tables have. Inside an arm two rows
are in view, the one that the arm looks at and the one around it. A name with a short name in front
belongs to that row only; a bare name belongs to the innermost row that has such a column.
-/

namespace Broadband.Sql

open Grammar (Rank)

/-! ## What is read -/

/-- A column of those rows of a table that meet a condition. -/
structure Arm where
  column : String
  table : String
  short : String
  condition : Formula
  deriving DecidableEq, Repr

/-- A test whether a key is, or is not, among what all arms select. -/
structure MembershipTest where
  key : String
  negated : Bool
  arms : List Arm
  deriving DecidableEq, Repr

/-- The arms of a subquery up to the parenthesis that closes it. The condition of the first of them has
been read so far, and nothing of the others. -/
def armsFrom (arm : Formula → Arm) (r : Reader) : List Symbol → Option (List Arm)
  | [] => none
  | s :: ss =>
    match r.next? s with
    | some r' => armsFrom arm r' ss
    | none =>
      match r.formula?, s, ss with
      | some f, .closeParen, [] => some [arm f]
      | some f, .term (.name "INTERSECT"), .term (.name "SELECT") :: .term (.name column) ::
          .term (.name "FROM") :: .term (.name table) :: .term (.name short) ::
          .term (.name "WHERE") :: rest =>
        (armsFrom (⟨column, table, short, ·⟩) (.operand {} []) rest).map (arm f :: ·)
      | _, _, _ => none

/-- The arms of a subquery behind the parenthesis that opens it. -/
def arms? : List Symbol → Option (List Arm)
  | .term (.name "SELECT") :: .term (.name column) :: .term (.name "FROM") ::
      .term (.name table) :: .term (.name short) :: .term (.name "WHERE") :: rest =>
    armsFrom (⟨column, table, short, ·⟩) (.operand {} []) rest
  | _ => none

/-- The test of membership that symbols are. -/
def membershipTestOf? : List Symbol → Option MembershipTest
  | .term (.name key) :: .term (.name "IN") :: .openParen :: rest =>
    (arms? rest).map (⟨key, false, ·⟩)
  | .term (.name key) :: .not :: .term (.name "IN") :: .openParen :: rest =>
    (arms? rest).map (⟨key, true, ·⟩)
  | _ => none

/-- The test of membership of a text, all of which is read. -/
def membershipTest? (s : String) : Option MembershipTest :=
  (symbolsFrom [] (read s)).bind membershipTestOf?

-- a condition ends where the next arm begins, and words inside a text are no words
example : membershipTest? ("k NOT IN (SELECT d.k FROM t d WHERE d.n = 1 OR m != 'IN (' " ++
      "INTERSECT SELECT e.k FROM u e WHERE e.n = 2)") = some
    ⟨"k", true,
      [⟨"d.k", "t", "d", .join .or (.atom ⟨"d.n", .eq, .number 1⟩) (.atom ⟨"m", .ne, .text "IN ("⟩)⟩,
       ⟨"e.k", "u", "e", .atom ⟨"e.n", .eq, .number 2⟩⟩]⟩ := by
  decide +kernel

/-! ## The reader follows what is written -/

/-- What stands in front of the condition of an arm. -/
def Arm.head (a : Arm) : List Symbol :=
  ["SELECT", a.column, "FROM", a.table, a.short, "WHERE"].map (.term <| .name ·)

/-- The symbols are those of the arm. -/
def Arm.SpelledBy (a : Arm) (ss : List Symbol) : Prop :=
  ∃ ts, Spelled .choice ts a.condition ∧ ss = a.head ++ ts

theorem armsFrom_cons {arm : Formula → Arm} {r u : Reader} {s : Symbol} (h : r.next? s = some u)
    (ss : List Symbol) : armsFrom arm r (s :: ss) = armsFrom arm u ss := by
  rw [armsFrom.eq_def]
  simp only [h]

theorem armsFrom_append {arm : Formula → Arm} {r u : Reader} {ts : List Symbol}
    (h : r.after? ts = some u) (rest : List Symbol) :
    armsFrom arm r (ts ++ rest) = armsFrom arm u rest := by
  induction ts generalizing r with
  | nil =>
    obtain rfl := Option.some.inj h
    rfl
  | cons s ss ih =>
    rw [Reader.after?, List.foldlM_cons] at h
    obtain ⟨v, hv, hu⟩ := Option.bind_eq_some_iff.1 h
    rw [List.cons_append, armsFrom_cons hv]
    exact ih hu

/-- The last arm ends at the parenthesis. -/
theorem arms?_last {a : Arm} {ss : List Symbol} (h : a.SpelledBy ss) :
    arms? (ss ++ [.closeParen]) = some [a] := by
  obtain ⟨ts, hspelled, rfl⟩ := h
  obtain ⟨choice, last, hreads, hlast⟩ := Reader.leads_of_spelled hspelled []
  calc arms? (a.head ++ ts ++ [.closeParen])
      = armsFrom (⟨a.column, a.table, a.short, ·⟩) (.operand {} []) (ts ++ [.closeParen]) := rfl
    _ = some [⟨a.column, a.table, a.short, last.after .or choice⟩] := armsFrom_append hreads _
    _ = some [a] := by rw [hlast]

/-- An arm ends at the `INTERSECT` in front of the next one. -/
theorem arms?_intersect {a b : Arm} {ss ts : List Symbol} (h : a.SpelledBy ss) (hb : b.SpelledBy ts)
    (rest : List Symbol) :
    arms? (ss ++ .term (.name "INTERSECT") :: (ts ++ rest)) = (arms? (ts ++ rest)).map (a :: ·) := by
  obtain ⟨ss, hspelled, rfl⟩ := h
  obtain ⟨ts, -, rfl⟩ := hb
  obtain ⟨choice, last, hreads, hlast⟩ := Reader.leads_of_spelled hspelled []
  calc arms? (a.head ++ ss ++ .term (.name "INTERSECT") :: (b.head ++ ts ++ rest))
      = armsFrom (⟨a.column, a.table, a.short, ·⟩) (.operand {} [])
          (ss ++ .term (.name "INTERSECT") :: (b.head ++ ts ++ rest)) := rfl
    _ = (arms? (b.head ++ ts ++ rest)).map (⟨a.column, a.table, a.short, last.after .or choice⟩ :: ·) :=
        armsFrom_append hreads _
    _ = (arms? (b.head ++ ts ++ rest)).map (a :: ·) := by rw [hlast]

theorem arms?_of_spelled {a : Arm} {ss : List Symbol} {arms : List Arm} {sss : List (List Symbol)}
    (h : a.SpelledBy ss) (hs : List.Forall₂ Arm.SpelledBy arms sss) :
    arms? ([.term (.name "INTERSECT")].intercalate (ss :: sss) ++ [.closeParen]) = some (a :: arms) := by
  induction hs generalizing a ss with
  | nil => simpa using arms?_last h
  | @cons b ts arms sss hb _ ih =>
    -- what follows the first arm starts with the second
    obtain ⟨rest, hrest⟩ : ∃ rest,
        [.term (.name "INTERSECT")].intercalate (ts :: sss) ++ [.closeParen] = ts ++ rest := by
      cases sss with
      | nil => exact ⟨[.closeParen], by simp⟩
      | cons us sss => exact ⟨_, by rw [List.intercalate_cons_cons, List.append_assoc, List.append_assoc]⟩
    rw [List.intercalate_cons_cons, List.append_assoc, List.append_assoc, hrest, List.singleton_append,
      arms?_intersect h hb, ← hrest, ih hb, Option.map_some]

/-! ## Subqueries are read as arms -/

/-- A reader takes the subquery for the arm. -/
def Subquery.Reads (s : Subquery) (a : Arm) : Prop := ∃ ss, Cut s.marks ss ∧ a.SpelledBy ss

theorem Condition.marks_foldl_join (op : Connective) (c : Condition) (cs : List Condition) :
    (cs.foldl (.join op) c).marks
      = joined (" " ++ op.keyword ++ " ") (c.marks :: cs.map Condition.marks) := by
  induction cs generalizing c with
  | nil => simp [joined]
  | cons d ds ih =>
    rw [List.foldl_cons, ih]
    cases ds with
    | nil => simp [joined, marks]
    | cons e es => simp [joined, marks]

/-- The conditions of a subquery are read as their conjunction. -/
theorem Subquery.reads {column : Column} (hcolumn : Named column.text) {table short : String}
    (htable : Named table) (hshort : Named short) {c : Condition} {cs : List Condition} {f : Formula}
    {fs : List Formula} (hc : Sql.Reads .operand c f) (hcs : List.Forall₂ (Sql.Reads .operand) cs fs) :
    (Subquery.mk column ⟨table, some short⟩ (c :: cs)).Reads
      ⟨column.text, table, short, fs.foldl (.join .and) f⟩ := by
  obtain ⟨ss, hcut, hspelled⟩ := (hc.first .and).foldl hcs
  have hselect := (cut_name (show Named "SELECT" by decide)).blank (cut_name hcolumn)
  have hfrom := (hselect.blank (cut_name (show Named "FROM" by decide))).blank (cut_name htable)
  have hwhere := (hfrom.blank (cut_name hshort)).blank (cut_name (show Named "WHERE" by decide))
  have hmarks : (Subquery.mk column ⟨table, some short⟩ (c :: cs)).marks
      = plain "SELECT" ++ plain " " ++ plain column.text ++ plain " " ++ plain "FROM" ++ plain " " ++
        plain table ++ plain " " ++ plain short ++ plain " " ++ plain "WHERE" ++ plain " " ++
        (cs.foldl (.join .and) c).marks := by
    rw [Condition.marks_foldl_join, Subquery.marks, List.map_cons, Table.text]
    simp only [← plain_append, String.append_assoc]
    rfl
  refine ⟨_, ?_, ss, hspelled.choice, rfl⟩
  rw [hmarks]
  exact hwhere.blank hcut

/-- A predicate whose marks are cut into symbols is read as the test that they are. -/
theorem membershipTest?_of_cut {p : Predicate} (hp : p.readable = true) {ss : List Symbol}
    (h : Cut p.marks ss) : membershipTest? p.text = membershipTestOf? ss := by
  have hread : read p.text = p.marks := read_of_spell (Predicate.sound hp).tidy p.spell_marks.symm
  rw [membershipTest?, hread, symbolsFrom_of_cut h, Option.bind_some]

/-- Marks cut one after the other, with `INTERSECT` on a line of its own between them. -/
theorem cut_intersect {mss : List (List Mark)} {sss : List (List Symbol)}
    (h : List.Forall₂ Cut mss sss) :
    Cut (joined "\n  INTERSECT\n  " mss) ([.term (.name "INTERSECT")].intercalate sss) := by
  induction h with
  | nil => exact cut_nil
  | @cons ms ss mss sss hcut hcuts ih =>
    cases hcuts with
    | nil => simpa [joined] using hcut
    | @cons ns ts mss sss _ _ =>
      have hword := hcut.gap (show Gap "\n  " by decide) (cut_name (show Named "INTERSECT" by decide))
      have hmarks : joined "\n  INTERSECT\n  " (ms :: ns :: mss) = ms ++ plain "\n  " ++
          plain "INTERSECT" ++ plain "\n  " ++ joined "\n  INTERSECT\n  " (ns :: mss) := by
        have hline : plain "\n  INTERSECT\n  " = plain "\n  " ++ plain "INTERSECT" ++ plain "\n  " := by
          rw [← plain_append, ← plain_append]
          rfl
        rw [joined, List.intercalate_cons_cons, hline, joined, hline]
        simp only [List.append_assoc]
      rw [hmarks, List.intercalate_cons_cons]
      exact hword.gap (by decide) ih

section

variable {key : Column} {s : Subquery} {a : Arm}

/-- The words between a key and the subquery that it is looked for in. -/
def membershipWords (negated : Bool) : String := if negated then "NOT IN" else "IN"

/-- A key, `IN` or `NOT IN`, and arms in parentheses are read as a test of membership. -/
theorem membershipTest?_of_marks (hkey : Named key.text) (negated : Bool) {p : Predicate}
    (hp : p.readable = true) {ms : List Mark} {ss : List Symbol} {arms : List Arm}
    (hmarks : p.marks = plain (key.text ++ " " ++ membershipWords negated ++ " (") ++ ms ++ plain ")")
    (hcut : Cut ms ss) (harms : arms? (ss ++ [.closeParen]) = some arms) :
    membershipTest? p.text = some ⟨key.text, negated, arms⟩ := by
  have hgroup : p.marks = plain key.text ++ plain " " ++ plain (membershipWords negated) ++ plain " " ++
      (plain "(" ++ ms ++ plain ")") := by
    rw [hmarks, ← List.append_assoc, ← List.append_assoc]
    simp only [← plain_append, String.append_assoc]
    rfl
  have hin : Cut (plain "IN") [.term (.name "IN")] := cut_name (by decide)
  cases negated with
  | false =>
    have htest : Cut p.marks _ := hgroup ▸ ((cut_name hkey).blank hin).blank hcut.group
    rw [membershipTest?_of_cut hp htest]
    exact congrArg (Option.map _) harms
  | true =>
    have hwords : Cut (plain "NOT IN") _ := cut_not.blank hin
    have htest : Cut p.marks _ := hgroup ▸ ((cut_name hkey).blank hwords).blank hcut.group
    rw [membershipTest?_of_cut hp htest]
    exact congrArg (Option.map _) harms

theorem membershipTest?_within (hkey : Named key.text) (h : s.Reads a)
    (hp : (Predicate.within key s).readable = true) :
    membershipTest? (Predicate.within key s).text = some ⟨key.text, false, [a]⟩ := by
  obtain ⟨ss, hcut, hspelled⟩ := h
  refine membershipTest?_of_marks hkey false hp ?_ hcut (arms?_last hspelled)
  rw [Predicate.marks, String.append_assoc, String.append_assoc]
  rfl

theorem membershipTest?_outside (hkey : Named key.text) (h : s.Reads a)
    (hp : (Predicate.outside key s).readable = true) :
    membershipTest? (Predicate.outside key s).text = some ⟨key.text, true, [a]⟩ := by
  obtain ⟨ss, hcut, hspelled⟩ := h
  refine membershipTest?_of_marks hkey true hp ?_ hcut (arms?_last hspelled)
  rw [Predicate.marks, String.append_assoc, String.append_assoc]
  rfl

/-- The symbols of several subqueries. -/
theorem exists_symbols {subs : List Subquery} {arms : List Arm}
    (h : List.Forall₂ Subquery.Reads subs arms) :
    ∃ sss, List.Forall₂ Cut (subs.map Subquery.marks) sss ∧ List.Forall₂ Arm.SpelledBy arms sss := by
  induction h with
  | nil => exact ⟨[], .nil, .nil⟩
  | cons hs _ ih =>
    obtain ⟨ss, hcut, hspelled⟩ := hs
    obtain ⟨sss, hcuts, hspelleds⟩ := ih
    exact ⟨ss :: sss, .cons hcut hcuts, .cons hspelled hspelleds⟩

theorem membershipTest?_withinEach (hkey : Named key.text) {subs : List Subquery} {arms : List Arm}
    (hne : subs ≠ []) (h : List.Forall₂ Subquery.Reads subs arms)
    (hp : (Predicate.withinEach key subs).readable = true) :
    membershipTest? (Predicate.withinEach key subs).text = some ⟨key.text, false, arms⟩ := by
  obtain ⟨sss, hcuts, hspelled⟩ := exists_symbols h
  have hlines := (cut_nil.gap (show Gap "\n  " by decide) (cut_intersect hcuts)).gap
    (show Gap "\n" by decide) cut_nil
  rw [List.nil_append, List.nil_append, List.append_nil, List.append_nil] at hlines
  refine membershipTest?_of_marks hkey false hp ?_ hlines ?_
  · have hopen : plain (key.text ++ " IN (\n  ") = plain (key.text ++ " IN (") ++ plain "\n  " := by
      rw [← plain_append, String.append_assoc]
      rfl
    have hclose : plain "\n)" = plain "\n" ++ plain ")" := by
      rw [← plain_append]
      rfl
    rw [Predicate.marks, hopen, hclose, String.append_assoc, String.append_assoc]
    simp only [List.append_assoc]
    rfl
  · cases hspelled with
    | nil =>
      cases h
      exact absurd rfl hne
    | cons hfirst hrest => exact arms?_of_spelled hfirst hrest

end

/-! ## Evaluating a test -/

/-- A row has a value in every column that is asked for, and no nulls. -/
abbrev Row := String → Literal

/-- How values compare. Two values are equal if they are the same; beyond that nothing is said. -/
structure Collation where
  compares : Comparison → Literal → Literal → Bool
  eq_iff : ∀ x y, compares .eq x y = true ↔ x = y

/-- The rows of a table, and the columns that they have. -/
structure DataTable where
  has : String → Bool
  rows : List Row

/-- A row in view, by the short name of its table. -/
structure Binding where
  short : String
  has : String → Bool
  row : Row

/-- The short name in front of a name, if there is one, and the column. -/
def nameParts (name : String) : Option String × String :=
  match name.toList.span (· != '.') with
  | (cs, '.' :: column) => (some (String.ofList cs), String.ofList column)
  | _ => (none, name)

/-- The value of a name in a row. -/
def Binding.value? (b : Binding) (name : String) : Option Literal :=
  match nameParts name with
  | (some short, column) => if short = b.short then some (b.row column) else none
  | (none, column) => if b.has column then some (b.row column) else none

/-- The value of a name in the rows in view, of which the innermost is the first. -/
def value? (view : List Binding) (name : String) : Option Literal := view.findSome? (·.value? name)

/-- The value of a term. -/
def Term.value? (view : List Binding) : Term → Option Literal
  | .number n => some (.number n)
  | .text s => some (.text s)
  | .name "true" => some (.truth true)
  | .name "false" => some (.truth false)
  | .name s => Sql.value? view s

section

variable (collation : Collation)

/-- A comparison is true of the rows in view. One that speaks of what is not there is not. -/
def Atom.holds (view : List Binding) (a : Atom) : Bool :=
  match Sql.value? view a.column, a.value.value? view with
  | some x, some y => collation.compares a.op x y
  | _, _ => false

variable (tables : String → DataTable) (outer : Binding)

/-- What is in view inside an arm at a row. -/
def Arm.view (a : Arm) (row : Row) : List Binding := [⟨a.short, (tables a.table).has, row⟩, outer]

/-- What an arm selects. -/
def Arm.keys (a : Arm) : List Literal :=
  ((tables a.table).rows.filter fun row =>
    a.condition.holds (Atom.holds collation (a.view tables outer row))).filterMap fun row =>
      value? (a.view tables outer row) a.column

/-- What several arms all select. -/
def common : List (List Literal) → List Literal
  | [] => []
  | keys :: rest => keys.filter fun k => rest.all (·.contains k)

/-- The truth value of a test at a row. -/
def MembershipTest.holds (t : MembershipTest) : Bool :=
  match value? [outer] t.key with
  | none => false
  | some key =>
    t.negated ^^ (common (t.arms.map (Arm.keys collation tables outer))).any
      (collation.compares .eq key)

variable {collation tables outer}

theorem Arm.mem_keys {a : Arm} {key : Literal} :
    key ∈ a.keys collation tables outer ↔ ∃ row ∈ (tables a.table).rows,
      a.condition.holds (Atom.holds collation (a.view tables outer row)) = true ∧
        value? (a.view tables outer row) a.column = some key := by
  simp only [Arm.keys, List.mem_filterMap, List.mem_filter, and_assoc]

theorem mem_common {key : Literal} {keys : List Literal} {rest : List (List Literal)} :
    key ∈ common (keys :: rest) ↔ ∀ ks ∈ keys :: rest, key ∈ ks := by
  rw [common, List.mem_filter, List.all_eq_true, List.forall_mem_cons]
  simp only [List.contains_iff_mem]

/-- A test asks whether every one of its arms selects the key. -/
theorem MembershipTest.holds_eq {t : MembershipTest} {key : Literal}
    (hkey : value? [outer] t.key = some key) (hne : t.arms ≠ []) :
    t.holds collation tables outer
      = (t.negated ^^ decide (∀ a ∈ t.arms, key ∈ a.keys collation tables outer)) := by
  have hany : (common (t.arms.map (Arm.keys collation tables outer))).any (collation.compares .eq key)
      = decide (∀ a ∈ t.arms, key ∈ a.keys collation tables outer) := by
    rw [Bool.eq_iff_iff, decide_eq_true_iff, List.any_eq_true]
    cases harms : t.arms with
    | nil => exact absurd harms hne
    | cons a arms =>
      simp only [collation.eq_iff, exists_eq_right']
      rw [List.map_cons, mem_common, ← List.map_cons, List.forall_mem_map]
  simp only [MembershipTest.holds, hkey, hany]

end

end Broadband.Sql
