import Broadband.Proofs.Numeral
import Broadband.Proofs.Sql.Pieces
import Broadband.Sql.Layout
import Mathlib.Data.List.Infix

/-!
# Clauses are read back

The text of a `SELECT` is a line for each clause, and a clause is a list. A reader who knows nothing
but this cuts the text into lines, tells the clauses by the words that open them, and cuts each of
them into its items (`readClauses?`). Texts of items may hold commas, blanks and line feeds of their
own, as long as those stand in literals or parentheses, and a condition may not be joined by `AND`
outside of them (`Clauses.Legible`). Of such clauses nothing is lost:
`Clauses.Legible.readClauses?_text`.
-/

namespace Broadband.Sql

/-! ## Reading -/

/-- What follows an opening in a line that has it. -/
def after? (opening line : String) : Option String :=
  (line.toList.dropPrefix? opening.toList).map String.ofList

/-- The line is a join. -/
def isJoin (line : String) : Bool :=
  (after? "JOIN " line).isSome || (after? "LEFT JOIN " line).isSome

/-- The items of a clause, if it is on the next line, and the lines behind it. -/
def readClause (opening : String) (read : String → List String) :
    List String → List String × List String
  | [] => ([], [])
  | line :: lines =>
    match after? opening line with
    | some items => (read items, lines)
    | none => ([], line :: lines)

/-- Reads a `SELECT`: the texts of its clauses. -/
def readClauses? (s : String) : Option Clauses :=
  match cutAt '\n' s with
  | select :: source :: lines => do
    let columns ← after? "SELECT " select
    let source ← after? "FROM " source
    let (filters, rest) := readClause "WHERE " conjuncts (lines.dropWhile isJoin)
    let (groupBy, rest) := readClause "GROUP BY " cutList rest
    let (orderBy, rest) := readClause "ORDER BY " cutList rest
    let (limit, rest) := readClause "LIMIT " ([·]) rest
    if rest.isEmpty then
      some {
        columns := if columns = "*" then [] else cutList columns
        source
        joins := lines.takeWhile isJoin
        filters
        groupBy
        orderBy
        limit := limit.head?.bind Text.natural? }
    else none
  | _ => none

/-! ## Openings -/

theorem after?_append (opening s : String) : after? opening (opening ++ s) = some s := by
  have hdrop : (opening ++ s).toList.dropPrefix? opening.toList = some s.toList :=
    List.dropPrefix?_eq_some_iff.2 ⟨opening.toList, by simp, by simp⟩
  rw [after?, hdrop, Option.map_some, String.ofList_toList]

/-- Neither of two openings is the start of the other. -/
def Differ (opening other : String) : Prop :=
  ¬ opening.toList <+: other.toList ∧ ¬ other.toList <+: opening.toList

instance (opening other : String) : Decidable (Differ opening other) :=
  inferInstanceAs (Decidable (_ ∧ _))

theorem after?_of_differ {opening other : String} (h : Differ opening other) (s : String) :
    after? opening (other ++ s) = none := by
  cases hafter : after? opening (other ++ s) with
  | none => rfl
  | some t =>
    obtain ⟨cs, hcs, -⟩ := Option.map_eq_some_iff.1 hafter
    obtain ⟨start, hstart, hbeq⟩ := List.dropPrefix?_eq_some_iff.1 hcs
    -- both openings would start the line
    have hopening : opening.toList <+: other.toList ++ s.toList := by
      rw [← String.toList_append, hstart, eq_of_beq hbeq]
      exact List.prefix_append _ _
    rcases List.prefix_or_prefix_of_prefix hopening (List.prefix_append other.toList s.toList) with
      hstarts | hstarts
    · exact absurd hstarts h.1
    · exact absurd hstarts h.2

theorem isJoin_join (s : String) : isJoin ("JOIN " ++ s) = true := by
  rw [isJoin, after?_append]
  rfl

theorem isJoin_leftJoin (s : String) : isJoin ("LEFT JOIN " ++ s) = true := by
  rw [isJoin, after?_append "LEFT JOIN "]
  exact Bool.or_true _

/-! ## A clause to a line -/

/-- The text has no line feed outside of literals and parentheses, and closes those. -/
structure OneLine (s : String) : Prop where
  balanced : Balanced s
  noFeed : ['\n'] ∉ pieces s

section

variable {s t : String}

theorem oneLine_of_isFree (h : s.toList.all isFree = true)
    (hfeed : s.toList.contains '\n' = false) :
    OneLine s :=
  ⟨balanced_of_isFree h, notMem_pieces_of_isFree h (by simpa using hfeed)⟩

theorem OneLine.append (hs : OneLine s) (ht : OneLine t) : OneLine (s ++ t) := by
  refine ⟨hs.balanced.append ht.balanced, ?_⟩
  rw [pieces_append hs.balanced, List.mem_append, not_or]
  exact ⟨hs.noFeed, ht.noFeed⟩

theorem oneLine_intercalate (hs : OneLine s) {items : List String} (h : ∀ t ∈ items, OneLine t) :
    OneLine (s.intercalate items) := by
  cases items with
  | nil => exact oneLine_of_isFree rfl rfl
  | cons t items =>
    have hstep : ∀ a b, OneLine a → OneLine b → OneLine (a ++ s ++ b) :=
      fun _ _ ha hb => (ha.append hs).append hb
    exact intercalate_of_append hstep (List.cons_ne_nil t items) h

end

/-- The text ends, and not in a line feed. -/
def EndsInLine (s : String) : Prop := ∃ c, s.toList.getLast? = some c ∧ c ≠ '\n'

section

variable {s t : String}

theorem OneLine.endsInLine (h : OneLine s) (hne : s ≠ "") : EndsInLine s := by
  cases hlast : s.toList.getLast? with
  | none =>
    have hempty : s = "" := by simpa using hlast
    exact absurd hempty hne
  | some c =>
    refine ⟨c, hlast, ?_⟩
    rintro rfl
    exact h.noFeed (Closes.getLast?_mem h.balanced hlast rfl)

theorem EndsInLine.append (ht : EndsInLine t) (s : String) : EndsInLine (s ++ t) := by
  obtain ⟨c, hc, hne⟩ := ht
  exact ⟨c, by rw [String.toList_append, List.getLast?_append, hc, Option.some_or], hne⟩

theorem endsInLine_intercalate {items : List String} (hne : items ≠ [])
    (h : ∀ t ∈ items, EndsInLine t) :
    EndsInLine (s.intercalate items) :=
  intercalate_of_append (fun _ _ _ hb => hb.append _) hne h

theorem append_ne_empty (hs : s ≠ "") (t : String) : s ++ t ≠ "" := by
  intro h
  exact hs (String.append_eq_empty_iff.1 h).1

end

/-- Part of a line in which no comma stands outside of literals and parentheses, nor any of some
words. -/
structure Phrase (ban : List String) (s : String) : Prop extends OneLine s where
  noComma : [','] ∉ pieces s
  noWord : ∀ w ∈ ban, w ∉ words s

/-- A clause that is left out when it has no items: the words that open it, what stands between its
items, and those. -/
structure Optional where
  opening : String
  separator : String
  items : List String

/-- The line of a clause, if it has one. -/
def Optional.lines (o : Optional) : List String :=
  if o.items.isEmpty then [] else [o.opening ++ o.separator.intercalate o.items]

/-- The clauses behind the joins. -/
def Clauses.optional (c : Clauses) : List Optional :=
  [⟨"WHERE ", " AND ", c.filters⟩, ⟨"GROUP BY ", ", ", c.groupBy⟩, ⟨"ORDER BY ", ", ", c.orderBy⟩,
    ⟨"LIMIT ", "", c.limit.toList.map toString⟩]

/-- The lines of a `SELECT`. -/
def Clauses.lines (c : Clauses) : List String :=
  ("SELECT " ++ if c.columns.isEmpty then "*" else ", ".intercalate c.columns) ::
    ("FROM " ++ c.source) :: (c.joins ++ c.optional.flatMap Optional.lines)

theorem intercalate_eq_join (s : String) (ls : List String) :
    "\n".intercalate (s :: ls) = s ++ String.join (ls.map ("\n" ++ ·)) := by
  induction ls generalizing s with
  | nil => rw [String.intercalate_singleton, List.map_nil, String.join_nil, String.append_empty]
  | cons l ls ih =>
    rw [String.intercalate_cons_cons, ih, List.map_cons, String.join_cons, String.append_assoc,
      String.append_assoc]

theorem clauseLine_eq_join {keyword opening : String} (h : keyword ++ " " = opening)
    (separator : String) (items : List String) :
    clauseLine keyword separator items
      = String.join ((Optional.lines ⟨opening, separator, items⟩).map ("\n" ++ ·)) := by
  rw [clauseLine, Optional.lines]
  split
  · rfl
  · rw [← h, List.map_singleton, String.join_cons, String.join_nil, String.append_empty]
    simp only [String.append_assoc]

/-- **One clause to a line.** -/
theorem Clauses.text_eq_lines (c : Clauses) : c.text = "\n".intercalate c.lines := by
  have hselect : (if c.columns.isEmpty then "SELECT *" else "SELECT " ++ ", ".intercalate c.columns)
      = "SELECT " ++ if c.columns.isEmpty then "*" else ", ".intercalate c.columns := by
    split <;> rfl
  have hfrom : "\nFROM " = "\n" ++ "FROM " := rfl
  have hoptional : String.join ((c.optional.flatMap Optional.lines).map ("\n" ++ ·))
      = clauseLine "WHERE" " AND " c.filters ++ (clauseLine "GROUP BY" ", " c.groupBy ++
        (clauseLine "ORDER BY" ", " c.orderBy ++ clauseLine "LIMIT" ""
          (c.limit.toList.map toString))) := by
    rw [clauseLine_eq_join (show _ = "WHERE " from rfl),
      clauseLine_eq_join (show _ = "GROUP BY " from rfl),
      clauseLine_eq_join (show _ = "ORDER BY " from rfl),
      clauseLine_eq_join (show _ = "LIMIT " from rfl)]
    simp only [Clauses.optional, List.flatMap_cons, List.flatMap_nil, List.append_nil,
      List.map_append, String.join_append]
  rw [Clauses.text, Clauses.lines, intercalate_eq_join, List.map_cons, String.join_cons,
    List.map_append, String.join_append, hoptional, hselect, hfrom]
  simp only [String.append_assoc]

/-! ## Clauses that can be read -/

/-- The texts of the clauses can be told from what is between them. -/
structure Clauses.Legible (c : Clauses) : Prop where
  columns : ∀ s ∈ c.columns, Phrase [] s
  /-- A single column of this text would stand for all columns. -/
  columns_ne : c.columns ≠ ["*"]
  source : OneLine c.source
  joins : ∀ s ∈ c.joins, OneLine s ∧ isJoin s = true
  filters : ∀ s ∈ c.filters, Phrase ["AND"] s
  groupBy : ∀ s ∈ c.groupBy, Phrase [] s
  orderBy : ∀ s ∈ c.orderBy, Phrase [] s

section

variable {opening : String} {read : String → List String}

/-- A line of one of the clauses is not taken for one that is opened differently. -/
theorem after?_head_lines {rest : List Optional}
    (h : ∀ o ∈ rest.map Optional.opening, Differ opening o) :
    ∀ line ∈ (rest.flatMap Optional.lines).head?, after? opening line = none := by
  intro line hline
  obtain ⟨o, ho, hmem⟩ := List.mem_flatMap.1 (List.mem_of_mem_head? hline)
  rw [Optional.lines] at hmem
  split at hmem
  · exact absurd hmem List.not_mem_nil
  · rw [List.mem_singleton.1 hmem]
    exact after?_of_differ (List.forall_mem_map.1 h o ho) _

/-- The items of a clause are read, and what follows it is left; a clause that is left out is passed
over, as what follows is not taken for it. -/
theorem readClause_lines {o : Optional} {rest : List Optional} (hopening : o.opening = opening)
    (hread : o.items ≠ [] → read (o.separator.intercalate o.items) = o.items)
    (hrest : ∀ o' ∈ rest.map Optional.opening, Differ opening o') :
    readClause opening read ((o :: rest).flatMap Optional.lines)
      = (o.items, rest.flatMap Optional.lines) := by
  have hhead := after?_head_lines hrest
  rw [List.flatMap_cons, Optional.lines]
  cases hitems : o.items with
  | nil =>
    rw [List.isEmpty_nil, if_pos rfl, List.nil_append]
    generalize rest.flatMap Optional.lines = lines at hhead
    cases lines with
    | nil => rfl
    | cons line lines => rw [readClause, hhead line rfl]
  | cons s items =>
    rw [hitems] at hread
    rw [List.isEmpty_cons, if_neg Bool.false_ne_true, List.singleton_append, readClause, hopening,
      after?_append]
    dsimp only
    rw [hread (List.cons_ne_nil s items)]

end

namespace Clauses

variable {c : Clauses}

theorem Legible.oneLine_lines (h : c.Legible) : ∀ line ∈ c.lines, OneLine line := by
  have hoptional : ∀ o ∈ c.optional,
      OneLine o.opening ∧ OneLine o.separator ∧ ∀ s ∈ o.items, OneLine s := by
    have hlimit : ∀ s ∈ c.limit.toList.map toString, OneLine s := by
      intro s hs
      obtain ⟨n, -, rfl⟩ := List.mem_map.1 hs
      have htight := isTight_toString (n : Int)
      exact ⟨balanced_of_isFree (isFree_of_isTight htight), notMem_pieces_of_isTight htight rfl⟩
    have hfilters : ∀ s ∈ c.filters, OneLine s := fun s hs => (h.filters s hs).toOneLine
    have hgroupBy : ∀ s ∈ c.groupBy, OneLine s := fun s hs => (h.groupBy s hs).toOneLine
    have horderBy : ∀ s ∈ c.orderBy, OneLine s := fun s hs => (h.orderBy s hs).toOneLine
    simp only [Clauses.optional, List.forall_mem_cons]
    exact ⟨⟨oneLine_of_isFree rfl rfl, oneLine_of_isFree rfl rfl, hfilters⟩,
      ⟨oneLine_of_isFree rfl rfl, oneLine_of_isFree rfl rfl, hgroupBy⟩,
      ⟨oneLine_of_isFree rfl rfl, oneLine_of_isFree rfl rfl, horderBy⟩,
      ⟨oneLine_of_isFree rfl rfl, oneLine_of_isFree rfl rfl, hlimit⟩, nofun⟩
  rw [Clauses.lines, List.forall_mem_cons, List.forall_mem_cons, List.forall_mem_append]
  refine ⟨(oneLine_of_isFree rfl rfl).append ?_, (oneLine_of_isFree rfl rfl).append h.source,
    fun s hs => (h.joins s hs).1, ?_⟩
  · split
    · exact oneLine_of_isFree rfl rfl
    · exact oneLine_intercalate (oneLine_of_isFree rfl rfl) fun s hs => (h.columns s hs).toOneLine
  · intro line hline
    obtain ⟨o, ho, hmem⟩ := List.mem_flatMap.1 hline
    obtain ⟨hopening, hseparator, hitems⟩ := hoptional o ho
    rw [Optional.lines] at hmem
    split at hmem
    · exact absurd hmem List.not_mem_nil
    · rw [List.mem_singleton.1 hmem]
      exact hopening.append (oneLine_intercalate hseparator hitems)

/-- No line is empty. -/
theorem Legible.line_ne_empty (h : c.Legible) : ∀ line ∈ c.lines, line ≠ "" := by
  have hoptional : ∀ o ∈ c.optional.map Optional.opening, o ≠ "" :=
    show ∀ o ∈ ["WHERE ", "GROUP BY ", "ORDER BY ", "LIMIT "], o ≠ "" by decide
  rw [Clauses.lines, List.forall_mem_cons, List.forall_mem_cons, List.forall_mem_append]
  refine ⟨append_ne_empty (by decide) _, append_ne_empty (by decide) _, fun s hs => ?_,
    fun line hline => ?_⟩
  · rintro rfl
    exact absurd (h.joins _ hs).2 (by decide)
  · obtain ⟨o, ho, hmem⟩ := List.mem_flatMap.1 hline
    rw [Optional.lines] at hmem
    split at hmem
    · exact absurd hmem List.not_mem_nil
    · rw [List.mem_singleton.1 hmem]
      exact append_ne_empty (List.forall_mem_map.1 hoptional o ho) _

theorem Legible.endsInLine_text (h : c.Legible) : EndsInLine c.text := by
  rw [text_eq_lines]
  exact endsInLine_intercalate (List.cons_ne_nil _ _) fun line hline =>
    (h.oneLine_lines line hline).endsInLine (h.line_ne_empty line hline)

/-- Joins are told from the clauses behind them. -/
theorem Legible.isJoin_lines (h : c.Legible) :
    (c.joins ++ c.optional.flatMap Optional.lines).takeWhile isJoin = c.joins ∧
      (c.joins ++ c.optional.flatMap Optional.lines).dropWhile isJoin
        = c.optional.flatMap Optional.lines := by
  have hjoins : ∀ s ∈ c.joins, isJoin s = true := fun s hs => (h.joins s hs).2
  have hother : ∀ o ∈ c.optional.map Optional.opening, Differ "JOIN " o ∧ Differ "LEFT JOIN " o :=
    show ∀ o ∈ ["WHERE ", "GROUP BY ", "ORDER BY ", "LIMIT "],
        Differ "JOIN " o ∧ Differ "LEFT JOIN " o by
      decide
  have hstop : ∀ line ∈ (c.optional.flatMap Optional.lines).head?, isJoin line = false := by
    intro line hline
    rw [isJoin, after?_head_lines (fun o ho => (hother o ho).1) line hline,
      after?_head_lines (fun o ho => (hother o ho).2) line hline]
    rfl
  rw [List.takeWhile_append_of_pos hjoins, List.dropWhile_append_of_pos hjoins]
  generalize c.optional.flatMap Optional.lines = lines at hstop
  cases lines with
  | nil => simp
  | cons line lines => simp [hstop line rfl]

/-- The columns are read, or that there are none. -/
theorem Legible.readColumns (h : c.Legible) {shown : String}
    (hshown : shown = if c.columns.isEmpty then "*" else ", ".intercalate c.columns) :
    (if shown = "*" then [] else cutList shown) = c.columns := by
  cases hcolumns : c.columns with
  | nil =>
    rw [hcolumns] at hshown
    exact if_pos hshown
  | cons s rest =>
    rw [hcolumns, List.isEmpty_cons, if_neg Bool.false_ne_true] at hshown
    have hlist : cutList shown = s :: rest := by
      rw [hshown]
      exact cutList_intercalate (List.cons_ne_nil s rest) fun t ht =>
        have hphrase := h.columns t (hcolumns ▸ ht)
        ⟨hphrase.balanced, hphrase.noComma⟩
    have hne : shown ≠ "*" := by
      rintro rfl
      exact h.columns_ne (hcolumns.trans hlist.symm)
    rw [if_neg hne, hlist]

/-- The clauses behind the joins are read one after the other. -/
theorem Legible.readOptional (h : c.Legible) :
    readClause "WHERE " conjuncts (c.optional.flatMap Optional.lines)
        = (c.filters, (c.optional.drop 1).flatMap Optional.lines) ∧
      readClause "GROUP BY " cutList ((c.optional.drop 1).flatMap Optional.lines)
        = (c.groupBy, (c.optional.drop 2).flatMap Optional.lines) ∧
      readClause "ORDER BY " cutList ((c.optional.drop 2).flatMap Optional.lines)
        = (c.orderBy, (c.optional.drop 3).flatMap Optional.lines) ∧
      readClause "LIMIT " ([·]) ((c.optional.drop 3).flatMap Optional.lines)
        = (c.limit.toList.map toString, []) := by
  -- a clause that is left out is not mistaken for one of those behind it
  have hwhere : ∀ o ∈ ["GROUP BY ", "ORDER BY ", "LIMIT "], Differ "WHERE " o := by decide
  have hgroup : ∀ o ∈ ["ORDER BY ", "LIMIT "], Differ "GROUP BY " o := by decide
  have horder : ∀ o ∈ ["LIMIT "], Differ "ORDER BY " o := by decide
  refine ⟨readClause_lines rfl ?_ hwhere, readClause_lines rfl ?_ hgroup,
    readClause_lines rfl ?_ horder, readClause_lines rfl ?_ (List.forall_mem_nil _)⟩
  · intro hne
    exact conjuncts_intercalate hne fun s hs =>
      ⟨(h.filters s hs).balanced, (h.filters s hs).noWord _ List.mem_cons_self⟩
  · intro hne
    exact cutList_intercalate hne fun s hs => ⟨(h.groupBy s hs).balanced, (h.groupBy s hs).noComma⟩
  · intro hne
    exact cutList_intercalate hne fun s hs => ⟨(h.orderBy s hs).balanced, (h.orderBy s hs).noComma⟩
  · cases c.limit with
    | none => exact fun hne => absurd rfl hne
    | some n => exact fun _ => rfl

theorem readLimit (limit : Option Nat) :
    (limit.toList.map toString).head?.bind Text.natural? = limit := by
  cases limit with
  | none => rfl
  | some n =>
    have hdigits : ∀ d ∈ (toString n).toList, Text.isDigit d = true :=
      fun _ hd => Text.isDigit_of_mem_toString hd
    exact (Text.natural?_of_isDigit hdigits).trans (Text.digits?_toString n)

/-- **Clauses are read back** from the text of a `SELECT`. -/
theorem Legible.readClauses?_text (h : c.Legible) : readClauses? c.text = some c := by
  have hlines : cutAt '\n' c.text = c.lines := by
    rw [text_eq_lines]
    exact cutAt_intercalate rfl rfl (List.cons_ne_nil _ _) fun s hs =>
      ⟨(h.oneLine_lines s hs).balanced, (h.oneLine_lines s hs).noFeed⟩
  obtain ⟨htake, hdrop⟩ := h.isJoin_lines
  obtain ⟨hfilters, hgroupBy, horderBy, hlimit⟩ := h.readOptional
  rw [readClauses?, hlines, Clauses.lines]
  simp only [after?_append, Option.bind_eq_bind, Option.bind_some, hdrop, htake, hfilters, hgroupBy,
    horderBy, hlimit, h.readColumns rfl, readLimit, List.isEmpty_nil, if_true]

end Clauses

end Broadband.Sql
