import Broadband.Proofs.Spelling
import Broadband.Query

/-!
# Writing queries

`Query.print` writes a query with the canonical words of the vocabulary and with as few parentheses
as reading it back allows. What else a writer may choose is in two records: a `Style` for blanks and
quotes, and a `Manner` for what may be left out. A clause that has its default may be written or
not; the metric has none and is always written.

Parentheses follow from how tightly things bind: `NOT` before `AND` before `OR`, and `AND` and `OR`
join to the left. So an `OR` under an `AND` needs them, so does anything joined under a `NOT`, and so
does a right operand that is joined by the same word; a left operand joined by the same word and an
`AND` under an `OR` do not.
-/

namespace Broadband

open Vocabulary (name)

/-! ## Pieces of a criterion -/

/-- The piece that is a keyword. -/
def Piece.keyword (k : Keyword) : Piece := .word k.text

/-- The piece that is a value; a technology as a value is written as a string. -/
def Value.piece : Value → Piece
  | .number n => .number n.toNat
  | .text s => .string s

/-- A comparison with a value. -/
def comparisonPieces (field : Field) (op : Comparison) (value : Value) : List Piece :=
  [.word (name field), .symbol op, value.piece]

/-- Pieces in parentheses, if they are needed. -/
def enclose (needed : Bool) (ps : List Piece) : List Piece :=
  if needed then .openParen :: (ps ++ [.closeParen]) else ps

namespace Criterion

/-- The criterion is two criteria joined. -/
def isJoin : Criterion → Bool
  | .join _ _ _ => true
  | _ => false

/-- The criterion is two criteria joined by `OR`. -/
def isOr : Criterion → Bool
  | .join .or _ _ => true
  | _ => false

/-- The pieces of a criterion. Whether a leaf carries its negation itself is not written: no text
says so. -/
def pieces : Criterion → List Piece
  | .technology t _ => [.word (name t)]
  | .compare field op value _ => comparisonPieces field op value
  | .join .and l r =>
    enclose l.isOr l.pieces ++ .keyword .and :: enclose r.isJoin r.pieces
  | .join .or l r => l.pieces ++ .keyword .or :: enclose r.isOr r.pieces
  | .not c => .keyword .not :: enclose c.isJoin c.pieces

end Criterion

/-! ## Pieces of the clauses -/

/-- Several groups of pieces with a separator between any two of them. -/
def separated (separator : List Piece) : List (List Piece) → List Piece
  | [] => []
  | x :: xs => x ++ xs.flatMap (separator ++ ·)

/-- The keyword of a quantifier. -/
def Quantifier.keyword : Quantifier → Keyword
  | .any => .any
  | .all => .all
  | .none => .none

/-- The pieces of a requirement. -/
def Requirement.pieces : Requirement → List Piece
  | .single c => c.pieces
  | .quantified q cs =>
    .keyword q.keyword :: .openParen ::
      (separated [.comma] (cs.map Criterion.pieces) ++ [.closeParen])

/-- The pieces of a filter. -/
def Filter.pieces : Filter → List Piece
  | .segment s => [.word (name s)]
  | .compare field op value => comparisonPieces field op value

/-- What a writer may put down or leave out without changing the query. -/
structure Manner where
  /-- Filters are divided by commas. -/
  commas : Bool := true
  /-- The grouping is written even if it is the default. -/
  grouping : Bool := false
  /-- The figures are written even if they are the default. -/
  figures : Bool := false
  /-- The order is written even if it is the default. -/
  sorting : Bool := false
  /-- The direction of a sort is written even if it is the default. -/
  direction : Bool := true
  /-- A year alone is written in parentheses, like several. -/
  enclosedYear : Bool := false
  deriving DecidableEq, Repr

/-- The pieces of a period. -/
def Period.pieces (m : Manner) : Period → List Piece
  | .years ys =>
    enclose (m.enclosedYear || ys.length != 1)
      (separated [.comma] (ys.map fun y => [.number y.toNat]))
  | .compare op year => [.word "aar", .symbol op, .number year.toNat]

/-- A clause: its keyword and what follows it. -/
def clausePieces (written : Bool) (k : Keyword) (ps : List Piece) : List Piece :=
  if written then .keyword k :: ps else []

namespace Query

/-- The clauses up to `COUNT`. -/
def populationPieces (m : Manner) (q : Query) (r : Requirement) : List Piece :=
  .keyword .has :: r.pieces ++
    clausePieces (!q.filters.isEmpty) .inside
      (separated (if m.commas then [.comma] else []) (q.filters.map Filter.pieces)) ++
    [.keyword .count, .word (name q.metric)]

/-- The `SORT` clause. -/
def sortingPieces (m : Manner) (q : Query) : List Piece :=
  clausePieces (m.sorting || q.sorting != {}) .sort
    (.word (name q.sorting.key) ::
      if m.direction || q.sorting.direction != .asc then [.word q.sorting.direction.keyword] else [])

/-- The clauses after `COUNT`. -/
def answerPieces (m : Manner) (q : Query) : List Piece :=
  clausePieces (m.grouping || q.grouping != .national) .groupBy [.word (name q.grouping)] ++
    clausePieces (m.figures || q.figures != .both) .display [.word (name q.figures)] ++
    q.sortingPieces m ++
    q.limit.toList.flatMap (fun n => [.keyword .top, .number n]) ++
    q.period.toList.flatMap (fun p => .keyword .period :: p.pieces m)

/-- The pieces of a query. A query without a requirement has none. -/
def pieces (m : Manner) (q : Query) : List Piece :=
  match q.requirement with
  | none => []
  | some r => q.populationPieces m r ++ q.answerPieces m

/-- The text of a query. -/
def print (st : Style) (m : Manner) (q : Query) : String := st.write (q.pieces m)

end Query

/-! ## Every piece is legible -/

/-- A property of all of several groups and of the separator is one of all that is written. -/
theorem forall_mem_separated {P : Piece → Prop} {separator : List Piece}
    (hsep : ∀ p ∈ separator, P p) {groups : List (List Piece)} (h : ∀ g ∈ groups, ∀ p ∈ g, P p) :
    ∀ p ∈ separated separator groups, P p := by
  intro p hp
  cases groups with
  | nil => simp [separated] at hp
  | cons g groups =>
    simp only [separated, List.mem_append, List.mem_flatMap] at hp
    rcases hp with hp | ⟨g', hg', hp | hp⟩
    · exact h g (by simp) p hp
    · exact hsep p hp
    · exact h g' (by simp [hg']) p hp

/-- Parentheses around pieces add nothing that could not be legible. -/
theorem legible_enclose {needed : Bool} {ps : List Piece} (h : ∀ p ∈ ps, p.Legible) :
    ∀ p ∈ enclose needed ps, p.Legible := by
  cases needed with
  | false => exact h
  | true =>
    simp only [enclose, if_true, List.forall_mem_cons, List.forall_mem_append]
    exact ⟨trivial, h, trivial, by simp⟩

/-- Keywords are runs of letters. -/
theorem legible_keyword (k : Keyword) : (Piece.keyword k).Legible := by
  cases k <;> decide

theorem legible_comparisonPieces (field : Field) (op : Comparison) (value : Value) :
    ∀ p ∈ comparisonPieces field op value, p.Legible := by
  have hfield : (Piece.word (name field)).Legible := by cases field <;> decide
  have hvalue : value.piece.Legible := by cases value <;> trivial
  simp only [comparisonPieces, List.forall_mem_cons]
  exact ⟨hfield, trivial, hvalue, by simp⟩

theorem Criterion.legible_pieces (c : Criterion) : ∀ p ∈ c.pieces, p.Legible := by
  induction c with
  | technology t negated =>
    have ht : (Piece.word (name t)).Legible := by cases t <;> decide
    simpa [pieces] using ht
  | compare field op value negated => exact legible_comparisonPieces field op value
  | join op l r ihl ihr =>
    cases op <;>
      simp only [pieces, List.forall_mem_append, List.forall_mem_cons, legible_keyword, true_and]
    · exact ⟨legible_enclose ihl, legible_enclose ihr⟩
    · exact ⟨ihl, legible_enclose ihr⟩
  | not c ih =>
    rw [pieces, List.forall_mem_cons]
    exact ⟨legible_keyword .not, legible_enclose ih⟩

theorem Requirement.legible_pieces (r : Requirement) : ∀ p ∈ r.pieces, p.Legible := by
  cases r with
  | single c => exact c.legible_pieces
  | quantified q cs =>
    have hcs : ∀ g ∈ cs.map Criterion.pieces, ∀ p ∈ g, p.Legible := by
      intro g hg
      obtain ⟨c, -, rfl⟩ := List.mem_map.1 hg
      exact c.legible_pieces
    simp only [pieces, List.forall_mem_cons, List.forall_mem_append]
    exact ⟨legible_keyword _, trivial, forall_mem_separated (by simp [Piece.Legible]) hcs, trivial,
      by simp⟩

theorem Filter.legible_pieces (f : Filter) : ∀ p ∈ f.pieces, p.Legible := by
  cases f with
  | segment s =>
    have hs : (Piece.word (name s)).Legible := by cases s <;> decide
    simpa only [pieces, List.forall_mem_singleton] using hs
  | compare field op value => exact legible_comparisonPieces field op value

theorem legible_clausePieces {written : Bool} {k : Keyword} {ps : List Piece}
    (h : ∀ p ∈ ps, p.Legible) : ∀ p ∈ clausePieces written k ps, p.Legible := by
  cases written with
  | false => simp [clausePieces]
  | true =>
    simp only [clausePieces, if_true, List.forall_mem_cons]
    exact ⟨legible_keyword k, h⟩

theorem Period.legible_pieces (m : Manner) (p : Period) : ∀ x ∈ p.pieces m, x.Legible := by
  cases p with
  | years ys =>
    have hys : ∀ g ∈ ys.map fun y => [Piece.number y.toNat], ∀ x ∈ g, x.Legible := by
      intro g hg
      obtain ⟨y, -, rfl⟩ := List.mem_map.1 hg
      simp [Piece.Legible]
    exact legible_enclose (forall_mem_separated (by simp [Piece.Legible]) hys)
  | compare op year =>
    simp only [pieces, List.forall_mem_cons]
    exact ⟨by decide, trivial, trivial, by simp⟩

namespace Query

theorem legible_populationPieces (m : Manner) (q : Query) (r : Requirement) :
    ∀ p ∈ q.populationPieces m r, p.Legible := by
  have hfilters : ∀ g ∈ q.filters.map Filter.pieces, ∀ p ∈ g, p.Legible := by
    intro g hg
    obtain ⟨f, -, rfl⟩ := List.mem_map.1 hg
    exact f.legible_pieces
  have hcommas : ∀ p ∈ if m.commas then [Piece.comma] else [], p.Legible := by
    split <;> simp [Piece.Legible]
  have hmetric : (Piece.word (name q.metric)).Legible := by cases q.metric <;> decide
  simp only [populationPieces, List.cons_append, List.forall_mem_cons, List.forall_mem_append]
  refine ⟨legible_keyword .has, ⟨r.legible_pieces, ?_⟩, legible_keyword .count, hmetric, by simp⟩
  exact legible_clausePieces (forall_mem_separated hcommas hfilters)

theorem legible_sortingPieces (m : Manner) (q : Query) : ∀ p ∈ q.sortingPieces m, p.Legible := by
  have hkey : (Piece.word (name q.sorting.key)).Legible := by cases q.sorting.key <;> decide
  have hdirection : (Piece.word q.sorting.direction.keyword).Legible := by
    cases q.sorting.direction <;> decide
  apply legible_clausePieces
  rw [List.forall_mem_cons]
  refine ⟨hkey, ?_⟩
  split
  · simpa only [List.forall_mem_singleton] using hdirection
  · simp

theorem legible_answerPieces (m : Manner) (q : Query) : ∀ p ∈ q.answerPieces m, p.Legible := by
  have hgrouping : ∀ p ∈ [Piece.word (name q.grouping)], p.Legible := by
    rw [List.forall_mem_singleton]
    cases q.grouping <;> decide
  have hfigures : ∀ p ∈ [Piece.word (name q.figures)], p.Legible := by
    rw [List.forall_mem_singleton]
    cases q.figures <;> decide
  have hlimit : ∀ p ∈ q.limit.toList.flatMap (fun n => [Piece.keyword .top, .number n]),
      p.Legible := by
    intro p hp
    obtain ⟨n, -, hp⟩ := List.mem_flatMap.1 hp
    rcases List.mem_cons.1 hp with rfl | hp
    · exact legible_keyword .top
    · rw [List.mem_singleton.1 hp]
      trivial
  have hperiod : ∀ p ∈ q.period.toList.flatMap (fun p => Piece.keyword .period :: p.pieces m),
      p.Legible := by
    intro p hp
    obtain ⟨period, -, hp⟩ := List.mem_flatMap.1 hp
    rcases List.mem_cons.1 hp with rfl | hp
    · exact legible_keyword .period
    · exact period.legible_pieces m p hp
  simp only [answerPieces, List.forall_mem_append]
  exact ⟨⟨⟨⟨legible_clausePieces hgrouping, legible_clausePieces hfigures⟩,
    q.legible_sortingPieces m⟩, hlimit⟩, hperiod⟩

/-- Every piece of a query can be put on paper. -/
theorem legible_pieces (m : Manner) (q : Query) : ∀ p ∈ q.pieces m, p.Legible := by
  unfold pieces
  split
  · simp
  · rename_i r _
    rw [List.forall_mem_append]
    exact ⟨q.legible_populationPieces m r, q.legible_answerPieces m⟩

end Query

end Broadband
