import Broadband.Proofs.Query.Printer
import Broadband.Proofs.Query.WellFormed

/-!
# Reading a written query

What `Query.print` writes, `Query.parse` reads back, and nothing but well-formed queries is ever read:
the queries that texts spell are exactly the well-formed ones.

The parser is followed piece by piece. `Reads` says that it goes from one state to another over some
pieces, and each part of a query has a lemma that says where reading the part leads, from whatever
state it may start in. Criteria carry the argument: a criterion is read in a context of open frames,
and what it does to them depends on how tightly it binds, so the induction proves three statements at
once (`ReadsWell`), one for each level of binding.
-/

namespace Broadband.Parser

open Vocabulary (name)

/-! ## Following the parser over pieces -/

/-- The criterion reader goes from one state to another over the pieces. -/
inductive CriterionState.Reads : CriterionState → List Piece → CriterionState → Prop
  | nil (s : CriterionState) : Reads s [] s
  | cons {s u v : CriterionState} {p : Piece} {ps : List Piece}
      (step : s.next? p.token = some (.more u)) (rest : Reads u ps v) : Reads s (p :: ps) v

/-- The parser goes from one state to another over the pieces. -/
inductive State.Reads : State → List Piece → State → Prop
  | nil (s : State) : Reads s [] s
  | cons {s u v : State} {p : Piece} {ps : List Piece}
      (step : s.next? p.token = some u) (rest : Reads u ps v) : Reads s (p :: ps) v

theorem CriterionState.Reads.append {s u v : CriterionState} {ps qs : List Piece}
    (h₁ : s.Reads ps u) (h₂ : u.Reads qs v) : s.Reads (ps ++ qs) v := by
  induction h₁ with
  | nil => exact h₂
  | cons step _ ih => exact .cons step (ih h₂)

theorem State.Reads.append {s u v : State} {ps qs : List Piece}
    (h₁ : s.Reads ps u) (h₂ : u.Reads qs v) : s.Reads (ps ++ qs) v := by
  induction h₁ with
  | nil => exact h₂
  | cons step _ ih => exact .cons step (ih h₂)

/-- Inside a criterion the parser does what the criterion reader does. -/
theorem State.Reads.criterion {s s' : CriterionState} {ps : List Piece} (h : s.Reads ps s')
    (form : Form) : (State.criterion form s).Reads ps (.criterion form s') := by
  induction h with
  | nil => exact .nil _
  | cons step _ ih =>
    refine .cons ?_ ih
    simp [State.next?, criterion?, step]

/-! ## Criteria -/

/-- A token that a value was written as stands for the value. -/
theorem value?_piece {v : Value} (h : v.WellFormed) : value? v.piece.token = some v := by
  cases v with
  | number n =>
    change (Text.int64? (toString n.toNat)).map Value.number = some (.number n)
    rw [Text.int64?_toString h.1 h.2]
    rfl
  | text s => rfl

/-- A symbol stands for its comparison. -/
theorem comparison?_symbol (op : Comparison) : comparison? (Piece.symbol op).token = some op := by
  cases op <;> rfl

/-- An operand in these frames completes nothing but itself. -/
def Loose : List Frame → Prop
  | .not :: _ | .and _ :: _ => False
  | _ => True

/-- An operand in these frames stands at the start of a criterion or of a parenthesis. -/
def Fresh : List Frame → Prop
  | [] | .paren :: _ => True
  | _ => False

theorem Fresh.loose {frames : List Frame} (h : Fresh frames) : Loose frames := by
  cases frames with
  | nil => trivial
  | cons f frames => cases f <;> simp_all [Fresh, Loose]

theorem settle_of_loose {frames : List Frame} (h : Loose frames) (c : Criterion) :
    settle frames c = .complete frames c := by
  cases frames with
  | nil => rfl
  | cons f frames => cases f <;> first | rfl | exact h.elim

theorem closeOr_of_fresh {frames : List Frame} (h : Fresh frames) (c : Criterion) :
    closeOr frames c = (frames, c) := by
  cases frames with
  | nil => rfl
  | cons f frames => cases f <;> first | rfl | exact h.elim

/-- What reading a criterion does, by how tightly it binds. A leaf or a `NOT` fills every hole that
an operand can fill; an `AND` does too where no `NOT` or `AND` waits for it; an `OR` is read where a
criterion starts, and its right operand stays open until something else follows. -/
structure ReadsWell (c : Criterion) : Prop where
  unary : c.isJoin = false → ∀ frames,
    (CriterionState.operand frames).Reads c.pieces (settle frames c)
  term : c.isOr = false → ∀ frames, Loose frames →
    (CriterionState.operand frames).Reads c.pieces (.complete frames c)
  whole : ∀ frames, Fresh frames → ∃ inner operand,
    (CriterionState.operand frames).Reads c.pieces (.complete inner operand) ∧
      closeOr inner operand = (frames, c)

/-- For a criterion that binds like an operand, the other two statements follow. -/
theorem ReadsWell.of_unary {c : Criterion}
    (h : ∀ frames, (CriterionState.operand frames).Reads c.pieces (settle frames c)) :
    ReadsWell c where
  unary _ := h
  term _ frames hl := by
    rw [← settle_of_loose hl]
    exact h frames
  whole frames hf := by
    refine ⟨frames, c, ?_, closeOr_of_fresh hf c⟩
    rw [← settle_of_loose hf.loose]
    exact h frames

/-- In parentheses every criterion binds like an operand. -/
theorem ReadsWell.enclosed {c : Criterion} (h : ReadsWell c) (frames : List Frame) :
    (CriterionState.operand frames).Reads (enclose true c.pieces) (settle frames c) := by
  obtain ⟨inner, operand, hreads, hclose⟩ := h.whole (.paren :: frames) trivial
  refine .cons (u := .operand (.paren :: frames)) rfl (hreads.append (.cons ?_ (.nil _)))
  -- the closing parenthesis also closes an `OR` that is still open inside
  have hand : Piece.closeParen.token.keyword? ≠ some .and := by decide
  have hor : Piece.closeParen.token.keyword? ≠ some .or := by decide
  simp only [CriterionState.next?, afterOperand?, hand, hor, hclose, if_false]
  rfl

/-- With parentheses where it needs them, every criterion binds like an operand. -/
theorem ReadsWell.operand {c : Criterion} (h : ReadsWell c) (frames : List Frame) :
    (CriterionState.operand frames).Reads (enclose c.isJoin c.pieces) (settle frames c) := by
  cases hc : c.isJoin with
  | true => exact h.enclosed frames
  | false => exact h.unary hc frames

/-- With parentheses around an `OR`, every criterion can stand between `OR`s. -/
theorem ReadsWell.between {c : Criterion} (h : ReadsWell c) {frames : List Frame}
    (hl : Loose frames) :
    (CriterionState.operand frames).Reads (enclose c.isOr c.pieces) (.complete frames c) := by
  cases hc : c.isOr with
  | true =>
    rw [← settle_of_loose hl]
    exact h.enclosed frames
  | false => exact h.term hc frames hl

/-- **Criteria are read back.** The induction is on the criterion; each case reads the operands in the
frames that the word between them leaves. -/
theorem readsWell {c : Criterion} (h : c.WellFormed) : ReadsWell c := by
  induction c with
  | technology t negated =>
    obtain rfl : negated = false := h
    refine .of_unary fun frames => .cons ?_ (.nil _)
    cases t <;> rfl
  | compare field op value negated =>
    obtain ⟨hv, rfl⟩ := h
    refine .of_unary fun frames => ?_
    refine .cons (u := .operator frames field) (by cases field <;> rfl) ?_
    refine .cons (u := .value frames field op) ?_ (.cons ?_ (.nil _))
    · simp [CriterionState.next?, comparison?_symbol]
    · simp [CriterionState.next?, value?_piece hv]
  | not c ih =>
    refine .of_unary fun frames => ?_
    exact .cons (u := .operand (.not :: frames)) rfl ((ih h).operand (.not :: frames))
  | join op l r ihl ihr =>
    have hl := ihl h.1
    have hr := ihr h.2
    cases op with
    | and =>
      have hterm : ∀ frames, Loose frames → (CriterionState.operand frames).Reads
          (Criterion.join .and l r).pieces (.complete frames (.join .and l r)) := by
        intro frames hloose
        -- the left operand waits in a frame, which the right one completes at once
        refine (hl.between hloose).append (.cons (u := .operand (.and l :: frames)) rfl ?_)
        rw [← settle_of_loose hloose]
        exact hr.operand (.and l :: frames)
      exact ⟨by simp [Criterion.isJoin], fun _ => hterm,
        fun frames hf => ⟨frames, _, hterm frames hf.loose, closeOr_of_fresh hf _⟩⟩
    | or =>
      refine ⟨by simp [Criterion.isJoin], by simp [Criterion.isOr], fun frames hf => ?_⟩
      -- the left operand may itself end in an open `OR`, which this one closes
      obtain ⟨inner, operand, hreads, hclose⟩ := hl.whole frames hf
      refine ⟨.or l :: frames, r, ?_, rfl⟩
      refine hreads.append (.cons (u := .operand (.or l :: frames)) ?_ (hr.between trivial))
      have hor : (Piece.keyword .or).token.keyword? = some .or := rfl
      simp [CriterionState.next?, afterOperand?, hor, hclose]

/-! ## The clauses up to COUNT -/

/-- Where a criterion may start, no quantifier can stand. -/
theorem next?_has_of_operand? {t : Token} {s : CriterionState} (h : operand? [] t = some s) :
    State.has.next? t = some (.criterion .single s) := by
  have hq : quantifier? t = none := by
    unfold quantifier?
    split <;> first | rfl | simp_all [operand?, Token.identifier?, Token.keyword?]
  simp [State.next?, hq, criterion?, CriterionState.next?, h]

/-- A criterion alone is read after `HAS` as it is anywhere else. -/
theorem State.Reads.has {ps : List Piece} {fs : List Frame} {c : Criterion}
    (h : (CriterionState.operand []).Reads ps (.complete fs c)) :
    State.has.Reads ps (.criterion .single (.complete fs c)) := by
  -- only the first piece could be taken for something else, namely a quantifier
  cases h with
  | cons step rest =>
    obtain ⟨s, hs, hmore⟩ := Option.map_eq_some_iff.1 step
    obtain rfl := CriterionStep.more.inj hmore
    exact .cons (next?_has_of_operand? hs) (.criterion rest .single)

/-- A criterion that has been read ends where a token cannot go on with it. -/
theorem next?_of_closeOr {fs : List Frame} {x c : Criterion} (h : closeOr fs x = ([], c))
    (form : Form) {t : Token} (hand : t.keyword? ≠ some .and) (hor : t.keyword? ≠ some .or) :
    (State.criterion form (.complete fs x)).next? t = afterCriterion? form c t := by
  simp [State.next?, criterion?, CriterionState.next?, afterOperand?, h, hand, hor]

/-- The criteria of a list are read up to its end; those before them have been read already. -/
theorem reads_list (q : Quantifier) {c : Criterion} {cs : List Criterion} (hc : c.WellFormed)
    (hcs : ∀ d ∈ cs, d.WellFormed) (done : List Criterion) :
    (State.criterion (.listed q done) (.operand [])).Reads
      (separated [.comma] ((c :: cs).map Criterion.pieces) ++ [.closeParen])
      (.required (.quantified q (done ++ c :: cs))) := by
  -- the comma after a criterion moves it to those that have been read
  induction cs generalizing c done with
  | nil =>
    obtain ⟨fs, x, hreads, hclose⟩ := (readsWell hc).whole [] trivial
    have hstep := next?_of_closeOr hclose (.listed q done) (t := Piece.closeParen.token)
      (by decide) (by decide)
    simp only [separated, List.map_cons, List.map_nil, List.flatMap_nil, List.append_nil]
    exact (State.Reads.criterion hreads _).append (.cons hstep (.nil _))
  | cons d ds ih =>
    obtain ⟨fs, x, hreads, hclose⟩ := (readsWell hc).whole [] trivial
    have hstep := next?_of_closeOr hclose (.listed q done) (t := Piece.comma.token)
      (by decide) (by decide)
    have hrest := ih (hcs d (by simp)) (fun e he => hcs e (by simp [he])) (done ++ [c])
    simp only [separated, List.map_cons, List.flatMap_cons, List.append_assoc,
      List.cons_append] at hrest ⊢
    exact (State.Reads.criterion hreads _).append (.cons hstep hrest)

/-- The parser has just read the requirement: it can go on with filters or with the metric. -/
structure State.HasRead (s : State) (r : Requirement) : Prop where
  inside : s.next? (Piece.keyword .inside).token = some (.filter r)
  count : s.next? (Piece.keyword .count).token = some (.metric r [])

/-- The `HAS` clause is read back. -/
theorem reads_requirement {r : Requirement} (h : r.WellFormed) :
    ∃ s : State, State.has.Reads r.pieces s ∧ s.HasRead r := by
  cases r with
  | single c =>
    obtain ⟨fs, x, hreads, hclose⟩ := (readsWell (c := c) h).whole [] trivial
    refine ⟨_, .has hreads, ?_, ?_⟩
    · exact next?_of_closeOr hclose .single (by decide) (by decide)
    · exact next?_of_closeOr hclose .single (by decide) (by decide)
  | quantified q cs =>
    obtain ⟨hne, hcs⟩ := h
    obtain ⟨c, cs, rfl⟩ := List.exists_cons_of_ne_nil hne
    rw [List.forall_mem_cons] at hcs
    refine ⟨.required (.quantified q (c :: cs)), ?_, rfl, rfl⟩
    refine .cons (u := .listOpen q) (by cases q <;> rfl) (.cons rfl ?_)
    exact reads_list q hcs.1 hcs.2 []

/-- A filter is read wherever one may start. -/
theorem reads_filter {s : State} {r : Requirement} {fs : List Filter} {f : Filter}
    (hs : ∀ t s', filter? r fs t = some s' → s.next? t = some s') (h : f.WellFormed) :
    s.Reads f.pieces (.filtered r (fs ++ [f])) := by
  cases f with
  | segment seg => exact .cons (hs _ _ (by cases seg <;> rfl)) (.nil _)
  | compare field op value =>
    refine .cons (u := .filterOperator r fs field) (hs _ _ (by cases field <;> rfl)) ?_
    refine .cons (u := .filterValue r fs field op) ?_ (.cons ?_ (.nil _))
    · simp [State.next?, comparison?_symbol]
    · simp [State.next?, value?_piece (v := value) h]

/-- Further filters are read one by one, divided by commas or not. -/
theorem reads_filters (commas : Bool) (r : Requirement) {gs : List Filter}
    (h : ∀ f ∈ gs, f.WellFormed) (fs : List Filter) :
    (State.filtered r fs).Reads
      ((gs.map Filter.pieces).flatMap ((if commas then [.comma] else []) ++ ·))
      (.filtered r (fs ++ gs)) := by
  induction gs generalizing fs with
  | nil => simpa using State.Reads.nil _
  | cons g gs ih =>
    rw [List.forall_mem_cons] at h
    have hrest := ih h.2 (fs ++ [g])
    rw [List.append_assoc, List.singleton_append] at hrest
    rw [List.map_cons, List.flatMap_cons]
    refine State.Reads.append ?_ hrest
    cases commas with
    | true =>
      refine .cons (u := .filterComma r fs) rfl (reads_filter (fun t s' ht => ?_) h.1)
      simp [State.next?, ht]
    | false =>
      refine reads_filter (fun t s' ht => ?_) h.1
      -- a token that starts a filter is a word, so it is no comma
      have hkind : t.kind ≠ .comma := by
        intro hcomma
        simp [filter?, Token.identifier?, hcomma] at ht
      simp [State.next?, ht, hkind]

/-- The clauses up to `COUNT` are read back. -/
theorem reads_population (m : Manner) {q : Query} {r : Requirement} (hr : r.WellFormed)
    (hf : ∀ f ∈ q.filters, f.WellFormed) :
    State.start.Reads (q.populationPieces m r)
      (.clause .metric { requirement := some r, filters := q.filters, metric := q.metric }) := by
  obtain ⟨s, hreads, hs⟩ := reads_requirement hr
  have hmetric : ∀ fs, (State.metric r fs).Reads [.word (name q.metric)]
      (.clause .metric { requirement := some r, filters := fs, metric := q.metric }) :=
    fun fs => .cons (by cases q.metric <;> rfl) (.nil _)
  have hstart : State.start.Reads (.keyword .has :: r.pieces) s := .cons rfl hreads
  rw [Query.populationPieces, List.append_assoc]
  refine hstart.append ?_
  cases hfilters : q.filters with
  | nil => exact .cons hs.count (hmetric [])
  | cons f fs =>
    rw [hfilters, List.forall_mem_cons] at hf
    have hstep : ∀ t s, filter? r [] t = some s → (State.filter r).next? t = some s :=
      fun _ _ ht => ht
    have hfirst := reads_filter hstep hf.1
    have hrest := reads_filters m.commas r hf.2 [f]
    refine State.Reads.append (u := .filtered r (f :: fs)) ?_ (.cons rfl (hmetric _))
    exact .cons hs.inside (hfirst.append hrest)

/-! ## The clauses after COUNT -/

/-- The parser has read the query and no clause after the stage: it may end here, and each later
clause may follow. -/
structure State.Ready (s : State) (stage : Stage) (q : Query) : Prop where
  query : s.query? = some q
  next : ∃ last : Stage, last.rank ≤ stage.rank ∧
    ∀ k : Keyword, s.next? (Piece.keyword k).token = clause? last q (Piece.keyword k).token

theorem State.ready_clause (stage : Stage) (q : Query) : (State.clause stage q).Ready stage q :=
  ⟨rfl, stage, Nat.le_refl _, fun _ => rfl⟩

theorem State.ready_direction (q : Query) : (State.direction q).Ready .sorting q :=
  ⟨rfl, .sorting, Nat.le_refl _, fun k => by cases k <;> rfl⟩

/-- Clauses may be left out. -/
theorem State.Ready.mono {s : State} {a b : Stage} {q : Query} (h : s.Ready a q)
    (hab : a.rank ≤ b.rank) : s.Ready b q := by
  obtain ⟨last, hlast, hnext⟩ := h.next
  exact ⟨h.query, last, Nat.le_trans hlast hab, hnext⟩

/-- One clause after `COUNT`: it is written and read, or it is left out and changes nothing. -/
theorem State.Ready.clause {s u : State} {a b : Stage} {q q' : Query} {k : Keyword}
    {ps : List Piece} (h : s.Ready a q) (written : Bool) (hab : a.rank ≤ b.rank)
    (hopen : ∀ last : Stage, last.rank ≤ a.rank → clause? last q (Piece.keyword k).token = some u)
    (hread : ∃ v : State, u.Reads ps v ∧ v.Ready b q') (hskip : written = false → q = q') :
    ∃ v : State, s.Reads (clausePieces written k ps) v ∧ v.Ready b q' := by
  cases written with
  | true =>
    -- the clause in front may be any earlier one, and this one may follow all of them
    obtain ⟨last, hlast, hnext⟩ := h.next
    obtain ⟨v, hv, hready⟩ := hread
    exact ⟨v, .cons ((hnext k).trans (hopen last hlast)) hv, hready⟩
  | false => exact ⟨s, .nil s, hskip rfl ▸ h.mono hab⟩

variable {s : State} {q : Query}

/-- The `BY` clause is read back. -/
theorem reads_grouping (written : Bool) (h : s.Ready .metric q) (hq : q.grouping = .national)
    (g : Grouping) :
    ∃ v : State,
      s.Reads (clausePieces (written || g != .national) .groupBy [.word (name g)]) v ∧
        v.Ready .grouping { q with grouping := g } := by
  refine h.clause _ (by decide) (fun last hlast => if_pos (Nat.lt_succ_of_le hlast)) ?_ ?_
  · exact ⟨_, .cons (by cases g <;> rfl) (.nil _), State.ready_clause _ _⟩
  · intro hw
    obtain ⟨-, rfl⟩ : written = false ∧ g = .national := by simpa using hw
    rw [← hq]

/-- The `SHOW` clause is read back. -/
theorem reads_figures (written : Bool) (h : s.Ready .grouping q) (hq : q.figures = .both)
    (f : Figures) :
    ∃ v : State,
      s.Reads (clausePieces (written || f != .both) .display [.word (name f)]) v ∧
        v.Ready .figures { q with figures := f } := by
  refine h.clause _ (by decide) (fun last hlast => if_pos (Nat.lt_succ_of_le hlast)) ?_ ?_
  · exact ⟨_, .cons (by cases f <;> rfl) (.nil _), State.ready_clause _ _⟩
  · intro hw
    obtain ⟨-, rfl⟩ : written = false ∧ f = .both := by simpa using hw
    rw [← hq]

/-- The word for a direction stands for it. -/
theorem identifier?_direction (d : Direction) :
    (Piece.word d.keyword).token.identifier? Direction.ofWord? = some d := by
  cases d <;> decide

/-- The `SORT` clause is read back, with its direction or without. -/
theorem reads_sorting (m : Manner) (h : s.Ready .figures q) (hq : q.sorting = {}) (q' : Query) :
    ∃ v : State, s.Reads (q'.sortingPieces m) v ∧
      v.Ready .sorting { q with sorting := q'.sorting } := by
  rcases hsorting : q'.sorting with ⟨key, direction⟩
  rw [Query.sortingPieces, hsorting]
  refine h.clause _ (by decide) (fun last hlast => if_pos (Nat.lt_succ_of_le hlast)) ?_ ?_
  · have hkey : (State.sortKey q).next? (Piece.word (name key)).token
        = some (.direction { q with sorting := { key } }) := by cases key <;> rfl
    split
    · refine ⟨_, .cons hkey (.cons ?_ (.nil _)), State.ready_clause _ _⟩
      simp [State.next?, identifier?_direction]
    · -- a direction that is not written is the default one, and may still be written later
      rename_i hdirection
      obtain ⟨-, rfl⟩ : m.direction = false ∧ direction = .asc := by simpa using hdirection
      exact ⟨_, .cons hkey (.nil _), State.ready_direction _⟩
  · intro hw
    obtain ⟨-, hdefault⟩ : m.sorting = false ∧ Sorting.mk key direction = {} := by simpa using hw
    rw [hdefault, ← hq]

/-- The `TOP` clause is read back. -/
theorem reads_limit (h : s.Ready .sorting q) (hq : q.limit = none) {limit : Option Nat}
    (hlimit : ∀ n ∈ limit, n ≤ 18446744073709551615) :
    ∃ v : State, s.Reads (limit.toList.flatMap fun n => [.keyword .top, .number n]) v ∧
      v.Ready .limit { q with limit } := by
  cases limit with
  | none => exact ⟨s, .nil s, hq ▸ h.mono (by decide)⟩
  | some n =>
    have hstep : (State.limit q).next? (Piece.number n).token
        = some (.clause .limit { q with limit := some n }) := by
      change (Text.nat64? (toString n)).map _ = _
      rw [Text.nat64?_toString (hlimit n rfl)]
      rfl
    refine h.clause true (by decide)
      (fun last hlast => if_pos (Nat.lt_succ_of_le hlast)) ?_ (by simp)
    exact ⟨_, .cons hstep (.nil _), State.ready_clause _ _⟩

/-- A year is read back. -/
theorem year?_number {y : Int} (h : Year.Spellable y) : year? (Piece.number y.toNat).token = some y :=
  Text.int32?_toString h.1 h.2

/-- The years of a list are read up to its end; those before them have been read already. -/
theorem reads_years (q : Query) {y : Int} {ys : List Int} (hy : Year.Spellable y)
    (hys : ∀ z ∈ ys, Year.Spellable z) (done : List Int) :
    (State.listedYear q done).Reads
      (separated [.comma] ((y :: ys).map fun y => [.number y.toNat]) ++ [.closeParen])
      (.clause .period { q with period := some (.years (done ++ y :: ys)) }) := by
  have hyear : (State.listedYear q done).next? (Piece.number y.toNat).token
      = some (.listedYears q (done ++ [y])) := by
    simp [State.next?, year?_number hy]
  induction ys generalizing y done with
  | nil => exact .cons hyear (.cons rfl (.nil _))
  | cons z zs ih =>
    rw [List.forall_mem_cons] at hys
    have hrest := ih hys.1 hys.2 (done ++ [y]) (by simp [State.next?, year?_number hys.1])
    rw [List.append_assoc, List.singleton_append] at hrest
    exact .cons hyear (.cons rfl hrest)

/-- A period is read after `FOR`. -/
theorem reads_periodBody (m : Manner) (q : Query) {p : Period} (h : p.WellFormed) :
    (State.period q).Reads (p.pieces m) (.clause .period { q with period := some p }) := by
  cases p with
  | years ys =>
    obtain ⟨hne, hys⟩ := h
    obtain ⟨y, ys, rfl⟩ := List.exists_cons_of_ne_nil hne
    rw [List.forall_mem_cons] at hys
    rw [Period.pieces]
    cases henclosed : m.enclosedYear || (y :: ys).length != 1 with
    | true => exact .cons (u := .listedYear q []) rfl (reads_years q hys.1 hys.2 [])
    | false =>
      obtain ⟨-, rfl⟩ : m.enclosedYear = false ∧ ys = [] := by simpa using henclosed
      refine .cons ?_ (.nil _)
      change (year? (Piece.number y.toNat).token).map _ = _
      rw [year?_number hys.1]
      rfl
  | compare op year =>
    refine .cons (u := .yearOperator q) rfl (.cons (u := .yearValue q op) ?_ (.cons ?_ (.nil _)))
    · simp [State.next?, comparison?_symbol]
    · simp [State.next?, year?_number (y := year) h]

/-- The `FOR` clause is read back. -/
theorem reads_period (m : Manner) (h : s.Ready .limit q) (hq : q.period = none)
    {period : Option Period} (hperiod : ∀ p ∈ period, p.WellFormed) :
    ∃ v : State, s.Reads (period.toList.flatMap fun p => .keyword .period :: p.pieces m) v ∧
      v.Ready .period { q with period } := by
  cases period with
  | none => exact ⟨s, .nil s, hq ▸ h.mono (by decide)⟩
  | some p =>
    simp only [Option.toList_some, List.flatMap_singleton]
    refine h.clause true (by decide) (fun last hlast => if_pos (Nat.lt_succ_of_le hlast)) ?_ (by simp)
    exact ⟨_, reads_periodBody m q (hperiod p rfl), State.ready_clause _ _⟩

/-- **A whole query is read back**, clause by clause. -/
theorem reads_query (m : Manner) (h : q.WellFormed) :
    ∃ v : State, State.start.Reads (q.pieces m) v ∧ v.query? = some q := by
  obtain ⟨r, hr, hwf⟩ := h.requirement
  -- every clause starts where the one before it has ended, with the defaults of those after it
  have hstart := State.ready_clause .metric
    { requirement := some r, filters := q.filters, metric := q.metric }
  obtain ⟨s₁, hreads₁, hs₁⟩ := reads_grouping m.grouping hstart rfl q.grouping
  obtain ⟨s₂, hreads₂, hs₂⟩ := reads_figures m.figures hs₁ rfl q.figures
  obtain ⟨s₃, hreads₃, hs₃⟩ := reads_sorting m hs₂ rfl q
  obtain ⟨s₄, hreads₄, hs₄⟩ := reads_limit hs₃ rfl h.limit
  obtain ⟨s₅, hreads₅, hs₅⟩ := reads_period m hs₄ rfl h.period
  refine ⟨s₅, ?_, ?_⟩
  · rw [Query.pieces, hr]
    refine (reads_population m hwf h.filters).append ?_
    exact (((hreads₁.append hreads₂).append hreads₃).append hreads₄).append hreads₅
  · rw [hs₅.query, ← hr]

/-! ## Tokens of a text -/

/-- Where a token stands does not matter to the parser. -/
theorem State.next?_unplaced (s : State) (t : Token) : s.next? t.unplaced = s.next? t := by
  cases s <;> rfl

/-- Tokens that stand for pieces lead where the pieces lead. -/
theorem State.Reads.run {s v : State} {ps : List Piece} (h : s.Reads ps v) {ts : List Token}
    {e stop : Token} {q : Query} (hts : ts.map Token.unplaced = ps.map Piece.token)
    (he : e.kind = .endOfText) (hv : v.query? = some q) :
    State.run stop s (ts ++ [e]) = .ok q := by
  induction h generalizing ts with
  | nil s =>
    obtain rfl : ts = [] := by simpa using hts
    simp [State.run, State.finish, he, hv]
  | @cons s u v p ps step _ ih =>
    obtain ⟨t, ts, rfl⟩ : ∃ t us, ts = t :: us := by
      cases ts with
      | nil => simp at hts
      | cons t us => exact ⟨t, us, rfl⟩
    obtain ⟨ht, hts⟩ := List.cons.inj hts
    -- no piece is the end of the text, so the run goes on
    have hkind : t.kind ≠ .endOfText := by
      have hp := p.token_kind_ne_endOfText
      rwa [← ht] at hp
    have hstep : s.next? t = some u := by rw [← State.next?_unplaced, ht, step]
    rw [List.cons_append, State.run, if_neg hkind, hstep]
    exact ih hts hv

end Broadband.Parser

namespace Broadband

/-- Reading undoes writing, whatever the style and the manner. -/
theorem Query.parse_print (st : Style) (m : Manner) {q : Query} (h : q.WellFormed) :
    Query.parse (q.print st m) = .ok q := by
  obtain ⟨ts, e, htokens, hts, he⟩ := st.tokens_write (q.legible_pieces m)
  obtain ⟨v, hreads, hv⟩ := Parser.reads_query m h
  simp only [Query.parse, Query.print, htokens, Query.ofTokens, hreads.run hts he hv]

/-- **Texts and well-formed queries.** Every well-formed query, in every style and manner of writing,
is read back as it was; and only well-formed queries are ever read. -/
theorem Query.parse_print_and_wellFormed :
    (∀ (st : Style) (m : Manner) (q : Query), q.WellFormed → Query.parse (q.print st m) = .ok q) ∧
      ∀ (t : String) (q : Query), Query.parse t = .ok q → q.WellFormed :=
  ⟨fun st m _ h => Query.parse_print st m h, fun _ _ h => Query.wellFormed_of_parse h⟩

/-- A query that needs most of what writing one has: parentheses on both sides of an `AND`, both
quotes and a backslash in a string, a line break in another, and the word `count` as figures and as a
sort key. -/
def Query.intricate : Query where
  requirement := some (.single (.join .and
    (.join .or (.technology .fiber false) (.compare .provider .ne (.text "a\\b'c\"") false))
    (.not (.join .and (.technology .fourG false) (.compare .download .ge (.number 100) false)))))
  filters := [.segment .urban, .compare .municipality .eq (.text "Ås\n")]
  metric := .homes
  figures := .count
  sorting := { key := .count }
  limit := some 5
  period := some (.years [2023, 2024])

/-- Double quotes, but for the piece in seventh place. -/
def Style.mixed : Style := { quote := fun i => if i = 6 then .single else .double }

theorem Query.parse_print_intricate :
    Query.intricate.print .mixed ⟨true, false, false, false, false, false⟩
        = "HAS ( fiber OR tilb != 'a\\\\b\\'c\"' ) AND NOT ( 4g AND nedhast >= 100 ) " ++
          "IN tett , kom = \"Ås\n\" COUNT hus SHOW count SORT count TOP 5 FOR ( 2023 , 2024 )" ∧
      Query.intricate.WellFormed ∧
      Query.parse (Query.intricate.print .mixed ⟨true, false, false, false, false, false⟩)
        = .ok Query.intricate := by
  have hwf : Query.intricate.WellFormed := ⟨⟨_, rfl, by decide⟩, by decide, by decide, by decide⟩
  exact ⟨by decide +kernel, hwf, Query.parse_print_and_wellFormed.1 _ _ _ hwf⟩

end Broadband
