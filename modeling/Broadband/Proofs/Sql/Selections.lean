import Broadband.Proofs.Sql.Evaluation
import Mathlib.Data.List.Perm.Basic

/-!
# What selections yield

The answers of a selection are said in terms of frames and groups of them. For the selections that a
statement ends with it is simpler: nothing is joined or filtered, and the rows of one table are passed on
(`Select.PassesOn`), summed up as a whole, or summed up by one of its columns. Each of these kinds has its own
description here, which speaks of the rows of the table and the values of the column only.

What a selection is sorted by may be one of its own columns before it is one of the table. So a selection
could change the meaning of its sort keys by the names that it gives; the descriptions hold where a name
means the same on both sides.
-/

namespace Broadband.Sql

/-! ## Sorting -/

namespace Engine

variable {α β : Type} (e : Engine)

theorem precedes_cons_iff {d : Direction} {value : α → Datum} {keys : List (Direction × (α → Datum))}
    {a b : α} :
    e.precedes ((d, value) :: keys) a b = true ↔
      e.le d (value a) (value b) = true ∧
        (e.le d (value b) (value a) = true → e.precedes keys a b = true) := by
  rw [precedes, Bool.and_eq_true, Bool.or_eq_true, Bool.not_eq_true']
  cases e.le d (value b) (value a) <;> simp

theorem precedes_singleton {d : Direction} {value : α → Datum} {a b : α} :
    e.precedes [(d, value)] a b = e.le d (value a) (value b) := by
  rw [precedes, precedes, Bool.or_true, Bool.and_true]

theorem precedes_total (keys : List (Direction × (α → Datum))) (a b : α) :
    e.precedes keys a b = true ∨ e.precedes keys b a = true := by
  induction keys with
  | nil => exact .inl rfl
  | cons k keys ih =>
    obtain ⟨d, value⟩ := k
    rw [precedes_cons_iff, precedes_cons_iff]
    by_cases hab : e.le d (value a) (value b) = true
    · by_cases hba : e.le d (value b) (value a) = true
      · exact ih.imp (fun h => ⟨hab, fun _ => h⟩) (fun h => ⟨hba, fun _ => h⟩)
      · exact .inl ⟨hab, fun h => absurd h hba⟩
    · have hba := (e.le_total d (value a) (value b)).resolve_left hab
      exact .inr ⟨hba, fun h => absurd h hab⟩

theorem precedes_trans (keys : List (Direction × (α → Datum))) (a b c : α)
    (hab : e.precedes keys a b = true) (hbc : e.precedes keys b c = true) :
    e.precedes keys a c = true := by
  induction keys with
  | nil => rfl
  | cons k keys ih =>
    obtain ⟨d, value⟩ := k
    obtain ⟨hle, hkeys⟩ := e.precedes_cons_iff.1 hab
    obtain ⟨hle', hkeys'⟩ := e.precedes_cons_iff.1 hbc
    rw [precedes_cons_iff]
    refine ⟨e.le_trans _ _ _ _ hle hle', fun hback => ?_⟩
    -- what ties at the ends of a chain ties all along it
    have hba := e.le_trans _ _ _ _ hle' hback
    have hcb := e.le_trans _ _ _ _ hback hle
    exact ih (hkeys hba) (hkeys' hcb)

/-- Everything can be sorted. -/
theorem exists_sorted (keys : List (Direction × (α → Datum))) (xs : List α) :
    ∃ ys : List α, ys.Perm xs ∧ ys.Pairwise fun a b => e.precedes keys a b = true := by
  refine ⟨xs.mergeSort (e.precedes keys), List.mergeSort_perm _ _, ?_⟩
  refine List.pairwise_mergeSort (e.precedes_trans keys) (fun a b => ?_) xs
  rw [Bool.or_eq_true]
  exact e.precedes_total keys a b

theorem precedes_map (f : β → α) (keys : List (Direction × (α → Datum))) (a b : β) :
    e.precedes keys (f a) (f b) = e.precedes (keys.map fun k => (k.1, k.2 ∘ f)) a b := by
  induction keys with
  | nil => rfl
  | cons k keys ih =>
    obtain ⟨d, value⟩ := k
    rw [List.map_cons, precedes, precedes, ih]
    rfl

/-- Only what keys make of the two things matters. -/
theorem precedes_congr {ι : Type} {ks : List ι} {d : ι → Direction} {v w : ι → α → Datum} {a b : α}
    (ha : ∀ k ∈ ks, v k a = w k a) (hb : ∀ k ∈ ks, v k b = w k b) :
    e.precedes (ks.map fun k => (d k, v k)) a b = e.precedes (ks.map fun k => (d k, w k)) a b := by
  induction ks with
  | nil => rfl
  | cons k ks ih =>
    obtain ⟨hka, hksa⟩ := List.forall_mem_cons.1 ha
    obtain ⟨hkb, hksb⟩ := List.forall_mem_cons.1 hb
    rw [List.map_cons, List.map_cons, precedes, precedes, hka, hkb, ih hksa hksb]

end Engine

/-- Rearranging what is made of a list is rearranging the list. -/
theorem exists_perm_map {α β : Type} {f : α → β} {xs : List α} {ys : List β} (h : ys.Perm (xs.map f)) :
    ∃ zs : List α, zs.Perm xs ∧ ys = zs.map f := by
  have hsame : List.Forall₂ (fun y x => y = f x) (xs.map f) xs := by
    rw [← List.forall₂_map_right_iff, List.forall₂_eq_eq_eq]
  obtain ⟨zs, hzs, hperm⟩ := List.perm_comp_forall₂ h hsame
  rw [← List.forall₂_map_right_iff, List.forall₂_eq_eq_eq] at hzs
  exact ⟨zs, hperm, hzs⟩

/-- What sorts first by a mark comes first. -/
theorem eq_filter_append_filter {α : Type} (p : α → Bool) {xs : List α}
    (h : xs.Pairwise fun a b => p b = true → p a = true) :
    xs = xs.filter p ++ xs.filter (! p ·) := by
  induction xs with
  | nil => rfl
  | cons x xs ih =>
    obtain ⟨hx, hxs⟩ := List.pairwise_cons.1 h
    by_cases hp : p x = true
    · rw [List.filter_cons_of_pos hp, List.filter_cons_of_neg (by simp [hp]), List.cons_append, ← ih hxs]
    · have hrest : xs.filter p = [] := List.filter_eq_nil_iff.2 fun y hy hpy => hp (hx y hy hpy)
      have hall : xs.filter (! p ·) = xs := List.filter_eq_self.2 fun y hy => by
        rw [Bool.not_eq_true', ← Bool.not_eq_true]
        exact fun hpy => hp (hx y hy hpy)
      rw [List.filter_cons_of_neg hp, List.filter_cons_of_pos (by simpa using hp), hrest, hall,
        List.nil_append]

/-- The first of a sorted list, sorted again, are the first of a sorted list: what comes behind them may
stay there. -/
theorem exists_cut_eq {α : Type} {r : α → α → Prop} {limit : Option Nat} {xs ys zs : List α}
    (hys : ys.Perm xs) (hsorted : ys.Pairwise r) (hzs : zs.Perm (cut limit ys)) (hagain : zs.Pairwise r) :
    ∃ ys' : List α, ys'.Perm xs ∧ ys'.Pairwise r ∧ zs = cut limit ys' := by
  cases limit with
  | none => exact ⟨zs, hzs.trans hys, hagain, rfl⟩
  | some n =>
    have hsplit : ys.take n ++ ys.drop n = ys := List.take_append_drop n ys
    rw [← hsplit, List.pairwise_append] at hsorted
    -- all of the dropped rows sort behind all of the kept ones, however these are arranged
    refine ⟨zs ++ ys.drop n, ?_, ?_, ?_⟩
    · have hall := hzs.append_right (ys.drop n)
      rw [cut, hsplit] at hall
      exact hall.trans hys
    · refine List.pairwise_append.2 ⟨hagain, hsorted.2.1, fun a ha b hb => ?_⟩
      exact hsorted.2.2 a (hzs.mem_iff.1 ha) b hb
    · have hlength : zs.length = min n ys.length := by
        rw [hzs.length_eq, cut, List.length_take]
      rw [cut]
      by_cases hn : n ≤ ys.length
      · rw [List.take_append_of_le_length (by omega), List.take_of_length_le (by omega)]
      · rw [List.drop_eq_nil_of_le (by omega), List.append_nil, List.take_of_length_le (by omega)]

/-! ## Reading rows -/

section

variable {e : Engine} {gs : List (List Frame)} {columns : List String} {row : List Datum}
  {rows : List (List Datum)} {short name : String}

/-- A table in view is read by the names of its columns, with or without its own name in front. -/
theorem value_qualified {qualifier : Option String} (h : qualifier.all (· = short) = true) :
    (rowFrame short columns row).value ⟨qualifier, name⟩ = cell columns row name := by
  rw [rowFrame, cell, Frame.value, List.findSome?_cons]
  simp only [h, if_true, List.findSome?_nil]
  cases (columns.zip row).lookup name <;> rfl

theorem value_rowFrame : (rowFrame short columns row).value ⟨none, name⟩ = cell columns row name :=
  value_qualified rfl

/-- More values in view do not matter if they are the same. -/
theorem Frame.value_cons {f : Frame} {cells : List (String × Datum)}
    (h : ∀ x ∈ cells.lookup name, x = f.value ⟨none, name⟩) :
    Frame.value (("", cells) :: f) ⟨none, name⟩ = f.value ⟨none, name⟩ := by
  rw [Frame.value, List.findSome?_cons]
  simp only [Option.all_none, if_true]
  cases hcell : cells.lookup name with
  | none => rfl
  | some x => exact h x hcell

theorem value_column {fs : List Frame} :
    Scalar.value e gs (rowFrame short columns row :: fs) (.column ⟨none, name⟩)
      = cell columns row name :=
  value_rowFrame

/-- Rows that have a value have it as a group, too: the first of them stands for all. -/
theorem value_having {x : Datum} (h : x ∈ valuesOf columns name rows) :
    Scalar.value e gs ((having columns name x rows).map (rowFrame short columns)) (.column ⟨none, name⟩)
      = x := by
  obtain ⟨row, rest, hlist, hcell⟩ := exists_having_eq_cons h
  rw [hlist, List.map_cons, value_column, hcell]

theorem Literal.datum_ne_null (l : Literal) : l.datum ≠ .null := by
  cases l <;> exact Datum.noConfusion

/-- A column is equal to a constant if it has its value. -/
theorem met_eq_iff {f : Frame} {c : Column} {l : Literal} :
    Condition.met e f (.compare c .eq (.literal l)) = true ↔ f.value c = l.datum := by
  rw [Condition.met, decide_eq_true_eq, Condition.truth?, Engine.compare, Operand.value]
  by_cases hnull : f.value c = .null
  · -- null is equal to nothing, and no constant is null
    rw [if_pos (.inl hnull), hnull]
    exact iff_of_false nofun (Ne.symm l.datum_ne_null)
  · rw [if_neg (not_or.2 ⟨hnull, l.datum_ne_null⟩), Option.some_inj, decide_eq_true_eq]

/-- A sum over rows is the sum of a column. -/
theorem value_sum :
    Scalar.value e gs (rows.map (rowFrame short columns)) (.sum (.column ⟨none, name⟩))
      = Datum.sum (rows.map (cell columns · name)) := by
  rw [Scalar.value, List.map_map]
  congr 1
  exact List.map_congr_left fun row _ => value_rowFrame

/-- Values that are null for some do not count in a sum. -/
theorem Datum.sum_map_ite {α : Type} (p : α → Bool) (v : α → Datum) (xs : List α) :
    Datum.sum (xs.map fun x => if p x then v x else .null) = Datum.sum ((xs.filter p).map v) := by
  have hnumbers : (xs.map fun x => if p x then v x else .null).filterMap Datum.number?
      = ((xs.filter p).map v).filterMap Datum.number? := by
    induction xs with
    | nil => rfl
    | cons x xs ih =>
      by_cases hp : p x = true
      · rw [List.map_cons, if_pos hp, List.filter_cons_of_pos hp, List.map_cons, List.filterMap_cons,
          List.filterMap_cons, ih]
      · rw [List.map_cons, if_neg hp, List.filter_cons_of_neg hp, List.filterMap_cons_none rfl, ih]
  rw [Datum.sum, Datum.sum, hnumbers]

/-- A sum over the rows that have a value under another name. -/
theorem value_sum_onlyIf {other : String} {l : Literal} :
    Scalar.value e gs (rows.map (rowFrame short columns))
        (.sum (.onlyIf (.compare ⟨none, other⟩ .eq (.literal l)) (.column ⟨none, name⟩)))
      = Datum.sum ((having columns other l.datum rows).map (cell columns · name)) := by
  have hrow : ∀ row, Scalar.value e gs [rowFrame short columns row]
      (.onlyIf (.compare ⟨none, other⟩ .eq (.literal l)) (.column ⟨none, name⟩))
        = if decide (cell columns row other = l.datum) then cell columns row name else .null := by
    intro row
    rw [Scalar.value, List.headD_cons, value_column]
    simp only [met_eq_iff, value_rowFrame, decide_eq_true_eq]
  rw [Scalar.value, List.map_map, having, ← Datum.sum_map_ite]
  exact congrArg Datum.sum (List.map_congr_left fun row _ => hrow row)

end

/-! ## What selections yield -/

theorem cut_map {α β : Type} (limit : Option Nat) (f : α → β) (xs : List α) :
    cut limit (xs.map f) = (cut limit xs).map f := by
  cases limit with
  | none => rfl
  | some n => exact List.map_take.symm

theorem mem_of_mem_cut {α : Type} {limit : Option Nat} {xs : List α} {x : α} (h : x ∈ cut limit xs) :
    x ∈ xs := by
  cases limit with
  | none => exact h
  | some n => exact List.mem_of_mem_take h

namespace Select

variable {e : Engine} {db : Database} {S : Type} {s : Select S} {source : String × Content}
  {out : Content}

/-- The answers of a selection whose groups are made of other things: these are sorted. -/
theorem yields_iff_of_groups {α : Type} {f : α → List Frame} {items : List α}
    (h : s.groups e (s.frames e db source) = items.map f) :
    s.Yields e db source out ↔
      out.columns = s.labels db source ∧
        ∃ picked : List α, picked.Perm items ∧
          picked.Pairwise (fun a b => e.precedes
            ((s.sortKeys e db source (items.map f)).map fun k => (k.1, k.2 ∘ f)) a b = true) ∧
          out.rows = (cut s.limit picked).map (s.output e (items.map f) ∘ f) := by
  rw [Yields, h]
  refine and_congr_right fun _ => ⟨?_, ?_⟩
  · rintro ⟨picked, hperm, hsorted, hrows⟩
    obtain ⟨zs, hzs, rfl⟩ := exists_perm_map hperm
    rw [List.pairwise_map] at hsorted
    refine ⟨zs, hzs, ?_, ?_⟩
    · simpa only [Engine.precedes_map] using hsorted
    · rw [hrows, cut_map, List.map_map]
  · rintro ⟨picked, hperm, hsorted, hrows⟩
    refine ⟨picked.map f, hperm.map f, ?_, ?_⟩
    · rw [List.pairwise_map]
      simpa only [Engine.precedes_map] using hsorted
    · rw [hrows, cut_map, List.map_map]

theorem output_of_cons {gs : List (List Frame)} {g : List Frame} {i : Item} {is : List Item}
    (h : s.columns = i :: is) : s.output e gs g = (i :: is).map (·.value.value e gs g) := by
  rw [output, h, List.isEmpty_cons, if_neg Bool.false_ne_true]

/-- A row of the answer has a value for each column. -/
theorem length_output (hcolumns : s.columns ≠ []) (gs : List (List Frame)) (g : List Frame) :
    (s.output e gs g).length = (s.labels db source).length := by
  have hsome : s.columns.isEmpty = false := List.isEmpty_eq_false_iff.2 hcolumns
  rw [output, labels, hsome, if_neg Bool.false_ne_true, if_neg Bool.false_ne_true, List.length_map,
    List.length_map]

/-- The answer for groups in an order. -/
def answer (hcolumns : s.columns ≠ []) (picked : List (List Frame)) : Content where
  columns := s.labels db source
  rows := (cut s.limit picked).map (s.output e (s.groups e (s.frames e db source)))
  width := by
    rw [List.forall_mem_map]
    exact fun g _ => length_output hcolumns _ g

/-- A selection has an answer. -/
theorem exists_yields (hcolumns : s.columns ≠ []) : ∃ out, s.Yields e db source out := by
  obtain ⟨picked, hperm, hsorted⟩ := e.exists_sorted
    (s.sortKeys e db source (s.groups e (s.frames e db source))) (s.groups e (s.frames e db source))
  exact ⟨answer hcolumns picked, rfl, picked, hperm, hsorted, rfl⟩

/-- The limit cuts what the selection would yield without it. -/
theorem yields_iff_cut (hcolumns : s.columns ≠ []) :
    s.Yields e db source out ↔
      ∃ all, ({ s with limit := none } : Select S).Yields e db source all ∧
        out.columns = all.columns ∧ out.rows = cut s.limit all.rows := by
  constructor
  · rintro ⟨hlabels, picked, hperm, hsorted, hrows⟩
    refine ⟨answer (s := { s with limit := none }) hcolumns picked, ⟨rfl, picked, hperm, hsorted, rfl⟩,
      hlabels, ?_⟩
    rw [hrows]
    exact (cut_map _ _ _).symm
  · rintro ⟨all, ⟨hlabels, picked, hperm, hsorted, hrows⟩, hcolumns', hcut⟩
    refine ⟨hcolumns'.trans hlabels, picked, hperm, hsorted, ?_⟩
    rw [hcut, hrows]
    exact cut_map _ _ _

theorem frames_eq (hjoins : s.joins = []) (hfilters : s.filters = []) :
    s.frames e db source = source.2.frames source.1 := by
  rw [frames, hjoins, hfilters]
  exact List.filter_eq_self.2 fun _ _ => rfl

section

variable {short : String} {columns : List String} {rows : List (List Datum)}

/-- Where nothing is summed up, every row stands for itself. -/
theorem groups_rows (hgroupBy : s.groupBy = []) (hplain : s.columns.any (·.value.aggregates) = false) :
    s.groups e (rows.map (rowFrame short columns)) = rows.map ([rowFrame short columns ·]) := by
  rw [groups, hgroupBy, hplain, List.map_map]
  rfl

/-- Sums without grouping are sums over all rows. -/
theorem groups_total (hgroupBy : s.groupBy = []) (hsums : s.columns.any (·.value.aggregates) = true) :
    s.groups e (rows.map (rowFrame short columns)) = [rows.map (rowFrame short columns)] := by
  rw [groups, hgroupBy, hsums]
  rfl

/-- Grouping by a column goes through its different values. -/
theorem groups_column {name : String} (hgroupBy : s.groupBy = [.column ⟨none, name⟩]) :
    s.groups e (rows.map (rowFrame short columns)) =
      (valuesOf columns name rows).map fun x =>
        (having columns name x rows).map (rowFrame short columns) := by
  -- groups are told apart by lists of values, which here have one value each
  have hkeys : rows.map (fun row => [cell columns row name])
      = (rows.map (cell columns · name)).map fun x => [x] := by
    rw [List.map_map]
    rfl
  have hinjective : Function.Injective fun x : Datum => [x] := fun x y h => (List.cons.inj h).1
  simp only [groups, hgroupBy, List.isEmpty_cons, Bool.false_eq_true, if_false, List.map_cons,
    List.map_nil, List.map_map, Function.comp_def, value_column]
  rw [hkeys, List.dedup_map_of_injective hinjective, List.map_map, valuesOf]
  refine List.map_congr_left fun x _ => ?_
  rw [Function.comp_apply, List.filter_map, having]
  congr 1
  refine List.filter_congr fun row _ => ?_
  rw [Function.comp_apply, value_column]
  exact decide_eq_decide.2 hinjective.eq_iff

end

end Select

/-- Tables of data files, and of selections that list their columns, can be run. -/
theorem exists_runs {e : Engine} {ds : List Definition} (db : Database)
    (h : ∀ d ∈ ds, (∃ fs, d.body = .files fs) ∨ ∃ s, d.body = .select s ∧ s.columns ≠ []) :
    ∃ after, Runs e db ds after := by
  induction ds generalizing db with
  | nil => exact ⟨db, .nil db⟩
  | cons d ds ih =>
    obtain ⟨hd, hds⟩ := List.forall_mem_cons.1 h
    obtain ⟨c, hc⟩ : ∃ c, d.body.Yields e db c := by
      rcases hd with ⟨fs, hbody⟩ | ⟨s, hbody, hcolumns⟩
      · rw [hbody]
        exact ⟨_, rfl⟩
      · rw [hbody]
        exact Select.exists_yields hcolumns
    obtain ⟨after, hafter⟩ := ih ((d.name, c) :: db) hds
    exact ⟨after, .cons hc hafter⟩

/-! ## Rows passed on -/

/-- The expression uses the columns in view by their names alone. -/
def Scalar.Local (x : Scalar) : Prop :=
  ∀ (e : Engine) (gs gs' : List (List Frame)) (f f' : Frame),
    (∀ name, f.value ⟨none, name⟩ = f'.value ⟨none, name⟩) → x.value e gs [f] = x.value e gs' [f']

theorem Scalar.local_column (name : String) : (Scalar.column ⟨none, name⟩).Local :=
  fun _ _ _ _ _ h => h name

/-- What a sort key makes of a row. -/
def OrderKey.on (e : Engine) (columns : List String) (k : OrderKey) : Direction × (List Datum → Datum) :=
  (k.direction, fun row => k.value.value e [] [rowFrame "" columns row])

/-- Cutting the values of a row off where its columns end does not change what it has under its names. -/
theorem zip_map_snd_zip (columns : List String) (row : List Datum) :
    columns.zip ((columns.zip row).map Prod.snd) = columns.zip row := by
  induction columns generalizing row with
  | nil => rfl
  | cons name columns ih =>
    cases row with
    | nil => rfl
    | cons x row => rw [List.zip_cons_cons, List.map_cons, List.zip_cons_cons, ih]

theorem lookup_zip_map {names : List String} {value : String → Datum} {name : String} {x : Datum}
    (h : (names.zip (names.map value)).lookup name = some x) : x = value name := by
  induction names with
  | nil => exact absurd h (by simp)
  | cons other names ih =>
    rw [List.map_cons, List.zip_cons_cons, List.lookup_cons] at h
    by_cases hname : name = other
    · rw [beq_iff_eq.2 hname] at h
      rw [hname]
      exact (Option.some.inj h).symm
    · rw [beq_eq_false_iff_ne.2 hname] at h
      exact ih h

namespace Select

variable {e : Engine} {db : Database} {S : Type} {s : Select S} {short : String} {c out : Content}

/-- The selection takes rows from a table and sums nothing up. -/
structure PassesOn (s : Select S) : Prop where
  joins : s.joins = []
  filters : s.filters = []
  groupBy : s.groupBy = []
  plain : s.columns.any (·.value.aggregates) = false
  sorted : ∀ k ∈ s.orderBy, k.value.Local

/-- Rows are passed on sorted, if what is listed does not stand in the way of the sort keys: a name means
the same in the answer as in the table. -/
theorem PassesOn.yields_iff (h : s.PassesOn) {shown : List Datum → List Datum}
    (hshown : ∀ gs row, s.output e gs [rowFrame short c.columns row] = shown row)
    (hnames : ∀ row name, ∀ x ∈ ((s.labels db (short, c)).zip (shown row)).lookup name,
      x = cell c.columns row name) :
    s.Yields e db (short, c) out ↔
      out.columns = s.labels db (short, c) ∧
        ∃ rows : List (List Datum), rows.Perm c.rows ∧
          rows.Pairwise (fun a b => e.precedes (s.orderBy.map (·.on e c.columns)) a b = true) ∧
          out.rows = (cut s.limit rows).map shown := by
  have hgroups : s.groups e (s.frames e db (short, c)) = c.rows.map ([rowFrame short c.columns ·]) := by
    rw [frames_eq h.joins h.filters]
    exact groups_rows h.groupBy h.plain
  have hkeys : ∀ gs, (s.sortKeys e db (short, c) gs).map
      (fun k => (k.1, k.2 ∘ ([rowFrame short c.columns ·]))) = s.orderBy.map (·.on e c.columns) := by
    intro gs
    rw [sortKeys, List.map_map]
    refine List.map_congr_left fun k hk => Prod.ext rfl (funext fun row => ?_)
    refine h.sorted k hk e gs [] _ _ fun name => ?_
    rw [hshown, value_rowFrame, Frame.value_cons, value_rowFrame]
    intro x hx
    rw [value_rowFrame]
    exact hnames row name x hx
  rw [yields_iff_of_groups hgroups]
  refine and_congr_right fun _ => exists_congr fun rows => ?_
  rw [hkeys]
  simp only [Function.comp_def, hshown]

/-- A selection of all columns passes rows on as they are. -/
theorem PassesOn.yields_all_iff (h : s.PassesOn) (hcolumns : s.columns = []) :
    s.Yields e db (short, c) out ↔
      out.columns = c.columns ∧
        ∃ rows : List (List Datum), rows.Perm c.rows ∧
          rows.Pairwise (fun a b => e.precedes (s.orderBy.map (·.on e c.columns)) a b = true) ∧
          out.rows = cut s.limit rows := by
  have hlabels : s.labels db (short, c) = c.columns := by
    rw [labels, hcolumns, h.joins]
    exact List.append_nil _
  have hshown : ∀ gs row, s.output e gs [rowFrame short c.columns row]
      = (c.columns.zip row).map Prod.snd := by
    intro gs row
    rw [output, hcolumns]
    exact List.append_nil _
  rw [h.yields_iff hshown, hlabels]
  · refine and_congr_right fun _ => exists_congr fun rows => and_congr_right fun hperm => ?_
    refine and_congr_right fun _ => ?_
    -- no row is longer than the table is wide
    have hrows : ∀ row ∈ cut s.limit rows, (c.columns.zip row).map Prod.snd = row := by
      intro row hrow
      have hwidth := c.width row (hperm.mem_iff.1 (mem_of_mem_cut hrow))
      exact List.map_snd_zip (by omega)
    rw [List.map_congr_left hrows, List.map_id']
  · intro row name x hx
    rw [hlabels, zip_map_snd_zip] at hx
    rw [cell, Option.mem_def.1 hx]
    rfl

/-- A selection of some columns passes on what rows have under these names. -/
theorem PassesOn.yields_same_iff (h : s.PassesOn) {names : List String} (hne : names ≠ [])
    (hcolumns : s.columns = names.map fun name => .same ⟨none, name⟩) :
    s.Yields e db (short, c) out ↔
      out.columns = names ∧
        ∃ rows : List (List Datum), rows.Perm c.rows ∧
          rows.Pairwise (fun a b => e.precedes (s.orderBy.map (·.on e c.columns)) a b = true) ∧
          out.rows = (cut s.limit rows).map fun row => names.map (cell c.columns row) := by
  have hsome : s.columns.isEmpty = false := by
    rw [hcolumns, List.isEmpty_map, List.isEmpty_eq_false_iff]
    exact hne
  have hlabels : s.labels db (short, c) = names := by
    rw [labels, hsome, hcolumns, List.map_map]
    exact List.map_id names
  have hshown : ∀ gs row, s.output e gs [rowFrame short c.columns row] = names.map (cell c.columns row) := by
    intro gs row
    rw [output, hsome, hcolumns, List.map_map]
    exact List.map_congr_left fun name _ => value_rowFrame
  rw [h.yields_iff hshown, hlabels]
  intro row name x hx
  rw [hlabels] at hx
  exact lookup_zip_map hx

/-! ## Rows summed up -/

/-- Sums without grouping make one row, of all rows. -/
theorem yields_total_iff (hjoins : s.joins = []) (hfilters : s.filters = []) (hgroupBy : s.groupBy = [])
    (hsums : s.columns.any (·.value.aggregates) = true) (horderBy : s.orderBy = []) (hlimit : s.limit = none)
    {row : List Datum}
    (hshown : ∀ gs, s.output e gs (c.rows.map (rowFrame short c.columns)) = row) :
    s.Yields e db (short, c) out ↔ out.columns = s.labels db (short, c) ∧ out.rows = [row] := by
  have hgroups : s.groups e (s.frames e db (short, c))
      = [()].map fun _ => c.rows.map (rowFrame short c.columns) := by
    rw [frames_eq hjoins hfilters]
    exact groups_total hgroupBy hsums
  rw [yields_iff_of_groups hgroups, sortKeys, horderBy, hlimit]
  refine and_congr_right fun _ => ⟨?_, fun hrows => ?_⟩
  · rintro ⟨picked, hperm, -, hrows⟩
    rw [hrows, List.perm_singleton.1 hperm]
    exact congrArg (fun r => [r]) (hshown _)
  · refine ⟨[()], .refl _, List.pairwise_singleton _ _, ?_⟩
    rw [hrows]
    exact congrArg (fun r => [r]) (hshown _).symm

/-- Grouping by a column makes one row for each of its values, and they are sorted by it if at all. -/
theorem yields_groups_iff (hjoins : s.joins = []) (hfilters : s.filters = []) {name : String}
    (hgroupBy : s.groupBy = [.column ⟨none, name⟩])
    (horderBy : ∀ k ∈ s.orderBy, k.value = .column ⟨none, name⟩) {shown : Datum → List Datum}
    (hshown : ∀ gs, ∀ x ∈ valuesOf c.columns name c.rows,
      s.output e gs ((having c.columns name x c.rows).map (rowFrame short c.columns)) = shown x)
    (hnames : ∀ x, ∀ y ∈ ((s.labels db (short, c)).zip (shown x)).lookup name, y = x) :
    s.Yields e db (short, c) out ↔
      out.columns = s.labels db (short, c) ∧
        ∃ xs : List Datum, xs.Perm (valuesOf c.columns name c.rows) ∧
          xs.Pairwise (fun a b => e.precedes (s.orderBy.map fun k => (k.direction, id)) a b = true) ∧
          out.rows = (cut s.limit xs).map shown := by
  have hgroups : s.groups e (s.frames e db (short, c)) = (valuesOf c.columns name c.rows).map fun x =>
      (having c.columns name x c.rows).map (rowFrame short c.columns) := by
    rw [frames_eq hjoins hfilters]
    exact groups_column hgroupBy
  have hkey : ∀ gs, ∀ x ∈ valuesOf c.columns name c.rows, ∀ k ∈ s.orderBy,
      k.value.value e gs (((having c.columns name x c.rows).map (rowFrame short c.columns)).map
        (("", (s.labels db (short, c)).zip (s.output e gs
          ((having c.columns name x c.rows).map (rowFrame short c.columns)))) :: ·)) = x := by
    intro gs x hx k hk
    -- the first row of the group stands for all of them
    obtain ⟨row, rest, hlist, hcell⟩ := exists_having_eq_cons hx
    have hvalue : Frame.value
        (("", (s.labels db (short, c)).zip (shown x)) :: rowFrame short c.columns row) ⟨none, name⟩ = x := by
      rw [Frame.value_cons, value_rowFrame, hcell]
      rw [value_rowFrame, hcell]
      exact hnames x
    rw [hshown gs x hx, horderBy k hk, hlist]
    exact hvalue
  rw [yields_iff_of_groups hgroups]
  refine and_congr_right fun _ => exists_congr fun xs => and_congr_right fun hperm => and_congr ?_ ?_
  · refine List.Pairwise.iff_of_mem fun {a b} ha hb => ?_
    rw [sortKeys, List.map_map]
    refine Eq.to_iff (congrArg (· = true) (e.precedes_congr (w := fun _ => id) ?_ ?_))
    · exact hkey _ a (hperm.mem_iff.1 ha)
    · exact hkey _ b (hperm.mem_iff.1 hb)
  · refine Eq.to_iff (congrArg (out.rows = ·) (List.map_congr_left fun x hx => ?_))
    exact hshown _ x (hperm.mem_iff.1 (mem_of_mem_cut hx))

end Select

end Broadband.Sql
