import Broadband.Proofs.Sql.Selections
import Mathlib.Algebra.Order.BigOperators.Group.List

/-!
# Sums by key, side by side

Two kinds of selections that build on each other. One puts the rows of a table together that agree in a key
and adds up a value over each of these groups (`Select.groups_eq`); its answer has the key in front of the sum.
The other takes two such answers and puts the row of the second with the same key beside each row of the first,
and nulls where there is none (`Join.beside_eq`). A key is a list of values, and what is in front of a row is
read off by the names of the key's columns (`map_cell_append`).
-/

namespace Broadband.Sql

/-! ## Sums -/

/-- The sum of the numbers among some values; if there are none, it is zero and not null. -/
def Datum.total (xs : List Datum) : Rat := (xs.filterMap Datum.number?).sum

theorem Datum.sum_eq_total {xs : List Datum} (hne : xs ≠ []) (h : ∀ x ∈ xs, ∃ n, x = .number n) :
    Datum.sum xs = .number (Datum.total xs) := by
  obtain ⟨x, rest, rfl⟩ := List.exists_cons_of_ne_nil hne
  obtain ⟨n, rfl⟩ := h x List.mem_cons_self
  have hnumbers : (Datum.number n :: rest).filterMap Datum.number? = n :: rest.filterMap Datum.number? := rfl
  rw [Datum.sum, Datum.total, hnumbers]

section

variable {α : Type} {value : α → Datum} {xs : List α}

theorem Datum.nonneg_of_mem_filterMap (h : ∀ x ∈ xs, ∃ n, value x = .number n ∧ 0 ≤ n) :
    ∀ n ∈ (xs.map value).filterMap Datum.number?, 0 ≤ n := by
  intro n hn
  obtain ⟨y, hy, hnumber⟩ := List.mem_filterMap.1 hn
  obtain ⟨x, hx, rfl⟩ := List.mem_map.1 hy
  obtain ⟨m, hm, hnonneg⟩ := h x hx
  rw [hm, Datum.number?, Option.some_inj] at hnumber
  exact hnumber ▸ hnonneg

theorem Datum.total_nonneg (h : ∀ x ∈ xs, ∃ n, value x = .number n ∧ 0 ≤ n) :
    0 ≤ Datum.total (xs.map value) :=
  List.sum_nonneg (Datum.nonneg_of_mem_filterMap h)

/-- A part adds up to no more than the whole. -/
theorem Datum.total_filter_le (p : α → Bool) (h : ∀ x ∈ xs, ∃ n, value x = .number n ∧ 0 ≤ n) :
    Datum.total ((xs.filter p).map value) ≤ Datum.total (xs.map value) := by
  have hpart : ((xs.filter p).map value).Sublist (xs.map value) := List.filter_sublist.map value
  exact (hpart.filterMap Datum.number?).sum_le_sum (Datum.nonneg_of_mem_filterMap h)

end

/-! ## Keys in front of rows -/

section

variable {columns others : List String} {key rest : List Datum} {name : String}

/-- Behind the key, the names of its columns do not matter. -/
theorem cell_append_of_notMem (hlength : columns.length = key.length) (hname : name ∉ columns) :
    cell (columns ++ others) (key ++ rest) name = cell others rest name := by
  have hnone : (columns.zip key).lookup name = none := by
    rw [List.lookup_eq_none_iff]
    intro p hp
    rw [bne_iff_ne]
    rintro rfl
    exact hname (List.of_mem_zip hp).1
  rw [cell, cell, List.zip_append hlength, List.lookup_append, hnone, Option.none_or]

/-- The key is read off a row by the names of its columns. -/
theorem map_cell_append (hlength : columns.length = key.length) (hnodup : columns.Nodup) :
    columns.map (cell (columns ++ others) (key ++ rest)) = key := by
  induction columns generalizing key with
  | nil => exact (List.eq_nil_of_length_eq_zero hlength.symm).symm
  | cons c columns ih =>
    cases key with
    | nil => cases hlength
    | cons x key =>
      obtain ⟨hfirst, hnodup⟩ := List.nodup_cons.1 hnodup
      have hself : cell (c :: columns ++ others) (x :: key ++ rest) c = x := by
        rw [cell, List.cons_append, List.cons_append, List.zip_cons_cons, List.lookup_cons_self]
        rfl
      have hother : ∀ name ∈ columns,
          cell (c :: columns ++ others) (x :: key ++ rest) name
            = cell (columns ++ others) (key ++ rest) name := by
        intro name hname
        have hne : name ∉ [c] := by
          rw [List.mem_singleton]
          exact fun heq => hfirst (heq ▸ hname)
        have hskip : cell ([c] ++ (columns ++ others)) ([x] ++ (key ++ rest)) name = _ :=
          cell_append_of_notMem rfl hne
        exact hskip
      rw [List.map_cons, hself, List.map_congr_left hother, ih (Nat.succ.inj hlength) hnodup]

end

/-- The different keys of rows. -/
def keysOf (key : List Datum → List Datum) (rows : List (List Datum)) : List (List Datum) :=
  (rows.map key).dedup

/-- The rows with a key. -/
def withKey (key : List Datum → List Datum) (k : List Datum) (rows : List (List Datum)) : List (List Datum) :=
  rows.filter (key · = k)

section

variable {key : List Datum → List Datum} {k : List Datum} {rows : List (List Datum)}

theorem nodup_keysOf : (keysOf key rows).Nodup := List.nodup_dedup _

theorem mem_keysOf : k ∈ keysOf key rows ↔ withKey key k rows ≠ [] := by
  rw [keysOf, List.mem_dedup, List.mem_map, withKey, Ne, List.filter_eq_nil_iff]
  simp

/-- Keys of some of the rows are keys of which there are such rows. -/
theorem keysOf_filter (p : List Datum → Bool) :
    (keysOf key (rows.filter p)).Perm
      ((keysOf key rows).filter fun k => !((withKey key k rows).filter p).isEmpty) := by
  refine (List.perm_ext_iff_of_nodup nodup_keysOf (nodup_keysOf.filter _)).2 fun k => ?_
  have hswap : withKey key k (rows.filter p) = (withKey key k rows).filter p := List.filter_comm _ _ _
  rw [List.mem_filter, mem_keysOf, mem_keysOf, hswap, Bool.not_eq_true', List.isEmpty_eq_false_iff]
  refine (and_iff_right_of_imp fun hsome hnone => hsome ?_).symm
  rw [hnone, List.filter_nil]

end

/-! ## Reading rows under their short names -/

section

variable {e : Engine} {short other name : String} {columns columns' : List String} {row row' : List Datum}

theorem value_left (hne : short ≠ other) :
    (rowFrame short columns row ++ rowFrame other columns' row').value ⟨some short, name⟩
      = cell columns row name := by
  simp only [rowFrame, cell, Frame.value, List.cons_append, List.nil_append, List.findSome?_cons,
    List.findSome?_nil, Option.all_some, decide_true, if_true, decide_eq_false hne, Bool.false_eq_true,
    if_false]
  cases (columns.zip row).lookup name <;> rfl

theorem value_right (hne : short ≠ other) :
    (rowFrame short columns row ++ rowFrame other columns' row').value ⟨some other, name⟩
      = cell columns' row' name := by
  simp only [rowFrame, cell, Frame.value, List.cons_append, List.nil_append, List.findSome?_cons,
    List.findSome?_nil, Option.all_some, decide_true, if_true, decide_eq_false hne.symm, Bool.false_eq_true,
    if_false]
  cases (columns'.zip row').lookup name <;> rfl

/-- Two columns are equal if they have the same value and it is not null. -/
theorem met_columns_iff {f : Frame} {c d : Column} :
    Condition.met e f (.compare c .eq (.column d)) = true ↔ f.value c ≠ .null ∧ f.value c = f.value d := by
  rw [Condition.met, decide_eq_true_eq, Condition.truth?, Engine.compare, Operand.value]
  by_cases hnull : f.value c = .null ∨ f.value d = .null
  · rw [if_pos hnull]
    refine iff_of_false (Option.some_ne_none _).symm ?_
    rintro ⟨hne, heq⟩
    exact hne (hnull.elim id (heq ▸ ·))
  · rw [if_neg hnull, Option.some_inj, decide_eq_true_eq]
    exact (and_iff_right (not_or.1 hnull).1).symm

theorem met_truth_iff {f : Frame} {c : Column} :
    Condition.met e f (.truth c) = true ↔ f.value c = .truth true := by
  rw [Condition.met, decide_eq_true_eq, Condition.truth?]
  cases f.value c <;> simp

end

/-! ## Rows put together -/

namespace Select

variable {e : Engine} {db : Database} {S : Type} {s : Select S} {source : String × Content} {short : String}
  {c out : Content}

/-- Without sort keys and limit the answer is the groups in any order. -/
theorem yields_iff_perm (horderBy : s.orderBy = []) (hlimit : s.limit = none) :
    s.Yields e db source out ↔
      out.columns = s.labels db source ∧
        out.rows.Perm ((s.groups e (s.frames e db source)).map
          (s.output e (s.groups e (s.frames e db source)))) := by
  rw [Yields, sortKeys, horderBy, hlimit]
  refine and_congr_right fun _ => ⟨?_, fun hperm => ?_⟩
  · rintro ⟨picked, hperm, -, hrows⟩
    rw [hrows]
    exact hperm.map _
  · obtain ⟨picked, hpicked, hrows⟩ := exists_perm_map hperm
    exact ⟨picked, hpicked, List.pairwise_of_forall fun _ _ => rfl, hrows⟩

/-- The groups are the rows with the same key, as far as they are not filtered out. -/
theorem groups_eq (hjoins : s.joins = []) (hgroupBy : s.groupBy ≠ []) {keep : List Datum → Bool}
    (hkeep : ∀ row, s.filters.all (·.met e db (rowFrame short c.columns row)) = keep row)
    {key : List Datum → List Datum}
    (hkey : ∀ row, s.groupBy.map (·.value e [] [rowFrame short c.columns row]) = key row) :
    s.groups e (s.frames e db (short, c)) =
      (keysOf key (c.rows.filter keep)).map fun k =>
        (withKey key k (c.rows.filter keep)).map (rowFrame short c.columns) := by
  have hframes : s.frames e db (short, c) = (c.rows.filter keep).map (rowFrame short c.columns) := by
    rw [frames, hjoins, List.foldl_nil, Content.frames, List.filter_map]
    exact congrArg _ (List.filter_congr fun row _ => hkeep row)
  have hsome : s.groupBy.isEmpty = false := List.isEmpty_eq_false_iff.2 hgroupBy
  simp only [groups, hsome, Bool.false_eq_true, if_false, hframes, List.map_map, Function.comp_def, hkey,
    keysOf, withKey]
  refine List.map_congr_left fun k _ => ?_
  rw [List.filter_map]
  simp only [Function.comp_def, hkey]

end Select

/-! ## Tables put side by side -/

/-- The rows that are put beside a row: a row of nulls if there are none. -/
def orNulls (columns : List String) (rows : List (List Datum)) : List (List Datum) :=
  if rows.isEmpty then [columns.map fun _ => .null] else rows

theorem cell_nulls (columns : List String) (name : String) :
    cell columns (columns.map fun _ => .null) name = .null := by
  rw [cell]
  cases hlookup : (columns.zip (columns.map fun _ => Datum.null)).lookup name with
  | none => rfl
  | some x => exact lookup_zip_map hlookup

/-- Rows are put beside those with the same key, if it has no nulls. -/
theorem Join.beside_eq {e : Engine} {db : Database} {j : Join} {c : Content}
    (hc : db.content j.table.name = c) (houter : j.outer = true) {left right : String}
    (hshort : j.table.short.getD j.table.name = right) (hne : left ≠ right) {names : List String}
    (hconditions : j.conditions =
      names.map fun name => .compare ⟨some left, name⟩ .eq (.column ⟨some right, name⟩))
    {columns : List String} {row : List Datum} (hrow : ∀ name ∈ names, cell columns row name ≠ .null) :
    j.beside e db (rowFrame left columns row) =
      (orNulls c.columns (c.rows.filter fun other =>
        names.map (cell c.columns other) = names.map (cell columns row))).map
          fun other => rowFrame left columns row ++ rowFrame right c.columns other := by
  have hmet : ∀ other, j.conditions.all
      (·.met e (rowFrame left columns row ++ rowFrame right c.columns other))
        = decide (names.map (cell c.columns other) = names.map (cell columns row)) := by
    intro other
    rw [hconditions, List.all_map, Bool.eq_iff_iff, List.all_eq_true, decide_eq_true_eq, List.map_inj_left]
    refine forall₂_congr fun name hname => ?_
    rw [Function.comp_apply, met_columns_iff, value_left hne, value_right hne]
    exact ⟨fun h => h.2.symm, fun h => ⟨hrow name hname, h.symm⟩⟩
  have hpartners : ((c.frames right).map (rowFrame left columns row ++ ·)).filter
      (fun g => j.conditions.all (·.met e g))
        = (c.rows.filter fun other => names.map (cell c.columns other) = names.map (cell columns row)).map
          fun other => rowFrame left columns row ++ rowFrame right c.columns other := by
    rw [Content.frames, List.map_map, List.filter_map]
    refine congrArg _ (List.filter_congr fun other _ => ?_)
    exact hmet other
  have hnulls : c.columns.map (·, Datum.null) = c.columns.zip (c.columns.map fun _ => Datum.null) := by
    have hzip := List.zip_map' (f := id) (g := fun _ => Datum.null) (l := c.columns)
    rw [List.map_id] at hzip
    exact hzip.symm
  simp only [Join.beside, hc, hshort, hpartners, houter, Bool.and_true, List.isEmpty_map, orNulls, hnulls]
  split
  · rfl
  · rfl

end Broadband.Sql
