import Broadband.Query.Parser
import Broadband.Proofs.Numeral

/-!
# Queries that can be read from text

A query built by a caller may lack a requirement, quantify over nothing, hold negated leaves or
negative numbers; no text spells such a query. `Query.WellFormed` says which queries are left, and
the main statement here is `Query.wellFormed_of_parse`: whatever is read from a text is one of them.

The parser is a machine, so the statement is an invariant of it. `State.WellFormed` says that all
that a state has stored so far is well formed; `State.wellFormed_next?` is the step, shown for one
part of a query after the other, and `State.wellFormed_run` the run. Of the tokens the step needs
only that numbers are runs of digits, which is what the lexer makes of them.
-/

namespace Broadband

/-! ## Well-formed queries -/

/-- A number that a text can spell and 64 bits with a sign can hold. -/
def Value.WellFormed : Value → Prop
  | .number n => 0 ≤ n ∧ n ≤ 9223372036854775807
  | .text _ => True

instance : DecidablePred Value.WellFormed
  | .number n => inferInstanceAs (Decidable (0 ≤ n ∧ n ≤ 9223372036854775807))
  | .text _ => isTrue trivial

/-- No leaf carries its negation itself, and every number can be spelled. -/
def Criterion.WellFormed : Criterion → Prop
  | .technology _ negated => negated = false
  | .compare _ _ value negated => value.WellFormed ∧ negated = false
  | .join _ left right => left.WellFormed ∧ right.WellFormed
  | .not inner => inner.WellFormed

instance Criterion.decidableWellFormed : (c : Criterion) → Decidable c.WellFormed
  | .technology _ negated => inferInstanceAs (Decidable (negated = false))
  | .compare _ _ value negated => inferInstanceAs (Decidable (value.WellFormed ∧ negated = false))
  | .join _ left right =>
    have := decidableWellFormed left
    have := decidableWellFormed right
    inferInstanceAs (Decidable (left.WellFormed ∧ right.WellFormed))
  | .not inner => decidableWellFormed inner

/-- A quantifier ranges over something, and all criteria are well formed. -/
def Requirement.WellFormed : Requirement → Prop
  | .single c => c.WellFormed
  | .quantified _ cs => cs ≠ [] ∧ ∀ c ∈ cs, c.WellFormed

instance : DecidablePred Requirement.WellFormed
  | .single c => inferInstanceAs (Decidable c.WellFormed)
  | .quantified _ cs => inferInstanceAs (Decidable (cs ≠ [] ∧ ∀ c ∈ cs, c.WellFormed))

/-- The number that a filter compares with can be spelled. -/
def Filter.WellFormed : Filter → Prop
  | .segment _ => True
  | .compare _ _ value => value.WellFormed

instance : DecidablePred Filter.WellFormed
  | .segment _ => isTrue trivial
  | .compare _ _ value => inferInstanceAs (Decidable value.WellFormed)

/-- A year that a text can spell and 32 bits with a sign can hold. -/
def Year.Spellable (year : Int) : Prop := 0 ≤ year ∧ year ≤ 2147483647

instance (year : Int) : Decidable (Year.Spellable year) :=
  inferInstanceAs (Decidable (0 ≤ year ∧ year ≤ 2147483647))

/-- There is a year in the list, and every year can be spelled. -/
def Period.WellFormed : Period → Prop
  | .years ys => ys ≠ [] ∧ ∀ y ∈ ys, Year.Spellable y
  | .compare _ year => Year.Spellable year

instance : DecidablePred Period.WellFormed
  | .years ys => inferInstanceAs (Decidable (ys ≠ [] ∧ ∀ y ∈ ys, Year.Spellable y))
  | .compare _ year => inferInstanceAs (Decidable (Year.Spellable year))

/-- A query that a text can spell: it has a requirement, and every clause is well formed. The limit
is a word of 64 bits without a sign. -/
structure Query.WellFormed (q : Query) : Prop where
  requirement : ∃ r, q.requirement = some r ∧ r.WellFormed
  filters : ∀ f ∈ q.filters, f.WellFormed
  limit : ∀ n ∈ q.limit, n ≤ 18446744073709551615
  period : ∀ p ∈ q.period, p.WellFormed

/-! ## What tokens stand for -/

/-- If the token is a number, it is a run of digits: it carries no sign. -/
def Token.Unsigned (t : Token) : Prop :=
  t.kind = .number → ∀ c ∈ t.text.toList, Text.isDigit c = true

namespace Parser

variable {t : Token}

/-- A value that a token stands for is well formed. -/
theorem wellFormed_of_value? (ht : t.Unsigned) {v : Value} (h : value? t = some v) :
    v.WellFormed := by
  unfold value? at h
  split at h
  · rename_i hkind
    obtain ⟨n, hn, rfl⟩ := Option.map_eq_some_iff.1 h
    exact Text.int64?_bounds (ht hkind) hn
  · obtain rfl := Option.some.inj h
    trivial
  · obtain ⟨tech, -, rfl⟩ := Option.map_eq_some_iff.1 h
    trivial
  · simp at h

/-- A year that a token stands for can be spelled. -/
theorem spellable_of_year? (ht : t.Unsigned) {y : Int} (h : year? t = some y) :
    Year.Spellable y := by
  unfold year? at h
  split at h
  · rename_i hkind
    exact Text.int32?_bounds (ht hkind) h
  · simp at h

/-- A limit that a token stands for fits its word. -/
theorem le_of_limit? {n : Nat} (h : limit? t = some n) : n ≤ 18446744073709551615 := by
  unfold limit? at h
  split at h
  · exact Text.nat64?_le h
  · simp at h

/-! ## The invariant of the criterion reader -/

/-- What a frame has stored is well formed. -/
def Frame.WellFormed : Frame → Prop
  | .not | .paren => True
  | .and left | .or left => left.WellFormed

/-- What the reader of a criterion has stored is well formed. -/
def CriterionState.WellFormed : CriterionState → Prop
  | .operand frames | .operator frames _ | .value frames _ _ => ∀ f ∈ frames, f.WellFormed
  | .complete frames c => (∀ f ∈ frames, f.WellFormed) ∧ c.WellFormed

/-- What a step of the reader leaves is well formed. -/
def CriterionStep.WellFormed : CriterionStep → Prop
  | .more s => s.WellFormed
  | .ended c => c.WellFormed

/-- Filling the holes of `NOT` and `AND` keeps everything well formed. The induction is on the
frames, each of which is filled with what those inside it have become. -/
theorem wellFormed_settle {frames : List Frame} (hf : ∀ f ∈ frames, f.WellFormed) {c : Criterion}
    (hc : c.WellFormed) : (settle frames c).WellFormed := by
  fun_induction settle frames c with
  | case1 frames c ih => exact ih (fun f h => hf f (by simp [h])) hc
  | case2 left frames c ih =>
    exact ih (fun f h => hf f (by simp [h])) ⟨hf (.and left) (by simp), hc⟩
  | case3 frames c => exact ⟨hf, hc⟩

/-- Filling the hole of an `OR` keeps everything well formed. -/
theorem wellFormed_closeOr {frames : List Frame} (hf : ∀ f ∈ frames, f.WellFormed) {c : Criterion}
    (hc : c.WellFormed) :
    (∀ f ∈ (closeOr frames c).1, f.WellFormed) ∧ (closeOr frames c).2.WellFormed := by
  unfold closeOr
  split
  · rename_i left frames
    exact ⟨fun f h => hf f (by simp [h]), hf (.or left) (by simp), hc⟩
  · exact ⟨hf, hc⟩

/-- Where an operand is due, a token keeps everything well formed. -/
theorem wellFormed_operand? {frames : List Frame} (hf : ∀ f ∈ frames, f.WellFormed)
    {s : CriterionState} (h : operand? frames t = some s) : s.WellFormed := by
  unfold operand? at h
  split at h
  · obtain rfl := Option.some.inj h
    simpa [CriterionState.WellFormed, Frame.WellFormed] using hf
  · split at h
    · obtain rfl := Option.some.inj h
      simpa [CriterionState.WellFormed, Frame.WellFormed] using hf
    · split at h
      · obtain rfl := Option.some.inj h
        exact wellFormed_settle hf rfl
      · obtain ⟨field, -, rfl⟩ := Option.map_eq_some_iff.1 h
        exact hf

/-- After a complete operand, a token keeps everything well formed. -/
theorem wellFormed_afterOperand? {frames : List Frame} (hf : ∀ f ∈ frames, f.WellFormed)
    {c : Criterion} (hc : c.WellFormed) {step : CriterionStep}
    (h : afterOperand? frames c t = some step) : step.WellFormed := by
  obtain ⟨hframes, hjoined⟩ := wellFormed_closeOr hf hc
  unfold afterOperand? at h
  split at h
  · obtain rfl := Option.some.inj h
    rw [CriterionStep.WellFormed, CriterionState.WellFormed, List.forall_mem_cons]
    exact ⟨hc, hf⟩
  · -- not an `AND`, so an open `OR` is closed before anything else
    generalize closeOr frames c = closed at h hframes hjoined
    obtain ⟨outer, joined⟩ := closed
    simp only at h hframes hjoined
    split at h
    · obtain rfl := Option.some.inj h
      rw [CriterionStep.WellFormed, CriterionState.WellFormed, List.forall_mem_cons]
      exact ⟨hjoined, hframes⟩
    · split at h
      · split at h
        · obtain rfl := Option.some.inj h
          exact wellFormed_settle (fun f hf => hframes f (by simp [hf])) hjoined
        · simp at h
      · obtain rfl := Option.some.inj h
        exact hjoined

/-- **One step of the criterion reader.** What it has stored stays well formed. -/
theorem CriterionState.wellFormed_next? (ht : t.Unsigned) {s : CriterionState} (hs : s.WellFormed)
    {step : CriterionStep} (h : s.next? t = some step) : step.WellFormed := by
  cases s with
  | operand frames =>
    obtain ⟨s, hs', rfl⟩ := Option.map_eq_some_iff.1 h
    exact wellFormed_operand? hs hs'
  | operator frames field =>
    obtain ⟨op, -, rfl⟩ := Option.map_eq_some_iff.1 h
    exact hs
  | value frames field op =>
    obtain ⟨v, hv, rfl⟩ := Option.map_eq_some_iff.1 h
    exact wellFormed_settle hs ⟨wellFormed_of_value? ht hv, rfl⟩
  | complete frames c => exact wellFormed_afterOperand? hs.1 hs.2 h

/-! ## The parts of a query -/

/-- The parts of a query: what is required, which addresses are asked about, what is to be told
about them, and for which years. -/
inductive State.Part
  | requirement
  | filters
  | clauses
  | period
  deriving DecidableEq, Repr

/-- The part that the next token is read in. A complete query waits for another clause. -/
def State.part : State → State.Part
  | .start | .has | .listOpen _ | .criterion _ _ | .required _ => .requirement
  | .filter _ | .filterOperator _ _ _ | .filterValue _ _ _ _ | .filtered _ _ | .filterComma _ _ =>
    .filters
  | .metric _ _ | .clause _ _ | .grouping _ | .figures _ | .sortKey _ | .direction _ | .limit _ =>
    .clauses
  | .period _ | .listedYear _ _ | .listedYears _ _ | .yearOperator _ | .yearValue _ _ => .period

/-! ## The invariant of the parser -/

/-- The criteria of a list that have been read are well formed. -/
def Form.WellFormed : Form → Prop
  | .single => True
  | .listed _ done => ∀ c ∈ done, c.WellFormed

/-- What the parser has stored is well formed. -/
def State.WellFormed : State → Prop
  | .start | .has | .listOpen _ => True
  | .criterion form s => form.WellFormed ∧ s.WellFormed
  | .required r | .filter r => r.WellFormed
  | .filterOperator r fs _ | .filterValue r fs _ _ | .filtered r fs | .filterComma r fs
  | .metric r fs => r.WellFormed ∧ ∀ f ∈ fs, f.WellFormed
  | .clause _ q | .grouping q | .figures q | .sortKey q | .direction q | .limit q | .period q
  | .yearOperator q | .yearValue q _ => q.WellFormed
  | .listedYear q ys => q.WellFormed ∧ ∀ y ∈ ys, Year.Spellable y
  | .listedYears q ys => q.WellFormed ∧ ys ≠ [] ∧ ∀ y ∈ ys, Year.Spellable y

variable {r : Requirement} {fs : List Filter} {s s' : State}

/-- One more well-formed member keeps a list well formed. -/
theorem forall_mem_concat {α : Type} {p : α → Prop} {xs : List α} (hxs : ∀ x ∈ xs, p x) {y : α}
    (hy : p y) : ∀ x ∈ xs ++ [y], p x := by
  intro x hx
  rcases List.mem_append.1 hx with h | h
  · exact hxs x h
  · rw [List.mem_singleton.1 h]
    exact hy

theorem wellFormed_count? (hr : r.WellFormed) (hfs : ∀ f ∈ fs, f.WellFormed)
    (h : count? r fs t = some s) : s.WellFormed := by
  unfold count? at h
  split at h
  · obtain rfl := Option.some.inj h
    exact ⟨hr, hfs⟩
  · simp at h

theorem wellFormed_afterRequirement? (hr : r.WellFormed) (h : afterRequirement? r t = some s) :
    s.WellFormed := by
  unfold afterRequirement? at h
  split at h
  · obtain rfl := Option.some.inj h
    exact hr
  · exact wellFormed_count? hr (by simp) h

theorem wellFormed_filter? (hr : r.WellFormed) (hfs : ∀ f ∈ fs, f.WellFormed)
    (h : filter? r fs t = some s) : s.WellFormed := by
  unfold filter? at h
  split at h
  · obtain rfl := Option.some.inj h
    exact ⟨hr, forall_mem_concat hfs trivial⟩
  · obtain ⟨field, -, rfl⟩ := Option.map_eq_some_iff.1 h
    exact ⟨hr, hfs⟩

/-- After a filter or the comma behind it, another filter or `COUNT` follows. -/
theorem wellFormed_filter?_or_count? (hr : r.WellFormed) (hfs : ∀ f ∈ fs, f.WellFormed)
    (h : (filter? r fs t <|> count? r fs t) = some s) : s.WellFormed := by
  cases hfilter : filter? r fs t with
  | some s' =>
    rw [hfilter] at h
    obtain rfl := Option.some.inj h
    exact wellFormed_filter? hr hfs hfilter
  | none =>
    rw [hfilter] at h
    exact wellFormed_count? hr hfs h

theorem wellFormed_afterCriterion? {form : Form} (hform : form.WellFormed) {c : Criterion}
    (hc : c.WellFormed) (h : afterCriterion? form c t = some s) : s.WellFormed := by
  cases form with
  | single => exact wellFormed_afterRequirement? (r := .single c) hc h
  | listed q done =>
    simp only [afterCriterion?] at h
    split at h
    · obtain rfl := Option.some.inj h
      exact ⟨forall_mem_concat hform hc, by simp [CriterionState.WellFormed]⟩
    · split at h
      · obtain rfl := Option.some.inj h
        exact ⟨by simp, forall_mem_concat hform hc⟩
      · simp at h

theorem wellFormed_criterion? {form : Form} (hform : form.WellFormed) {cs : CriterionState}
    (hcs : cs.WellFormed) (ht : t.Unsigned) (h : criterion? form cs t = some s) :
    s.WellFormed := by
  unfold criterion? at h
  split at h
  · simp at h
  · rename_i cs' hnext
    obtain rfl := Option.some.inj h
    exact ⟨hform, cs.wellFormed_next? ht hcs hnext⟩
  · rename_i c hnext
    exact wellFormed_afterCriterion? hform (cs.wellFormed_next? ht hcs hnext) h

/-- A clause that starts stores nothing new. -/
theorem wellFormed_clause? {stage : Stage} {q : Query} (hq : q.WellFormed)
    (h : clause? stage q t = some s) : s.WellFormed := by
  unfold clause? at h
  repeat' split at h
  all_goals
    first
    | (obtain rfl := Option.some.inj h; exact hq)
    | simp at h

theorem wellFormed_period? {q : Query} (hq : q.WellFormed) (ht : t.Unsigned)
    (h : period? q t = some s) : s.WellFormed := by
  unfold period? at h
  split at h
  · obtain rfl := Option.some.inj h
    exact ⟨hq, by simp⟩
  · split at h
    · split at h
      · obtain rfl := Option.some.inj h
        exact hq
      · simp at h
    · obtain ⟨y, hy, rfl⟩ := Option.map_eq_some_iff.1 h
      have hyear := spellable_of_year? ht hy
      exact { hq with period := by simp [Period.WellFormed, hyear] }

/-- Up to the end of the `HAS` clause, a token keeps everything well formed. -/
theorem State.wellFormed_next?_requirement (hpart : s.part = .requirement) (ht : t.Unsigned)
    (hs : s.WellFormed) (h : s.next? t = some s') : s'.WellFormed := by
  cases s with
  | start =>
    simp only [State.next?] at h
    split at h
    · obtain rfl := Option.some.inj h
      trivial
    · simp at h
  | has =>
    simp only [State.next?] at h
    split at h
    · obtain rfl := Option.some.inj h
      trivial
    · have hform : Form.single.WellFormed := trivial
      exact wellFormed_criterion? hform (by simp [CriterionState.WellFormed]) ht h
  | listOpen q =>
    simp only [State.next?] at h
    split at h
    · obtain rfl := Option.some.inj h
      exact ⟨by simp [Form.WellFormed], by simp [CriterionState.WellFormed]⟩
    · simp at h
  | criterion form cs => exact wellFormed_criterion? hs.1 hs.2 ht h
  | required r => exact wellFormed_afterRequirement? hs h
  | _ => cases hpart

/-- The same among the filters. -/
theorem State.wellFormed_next?_filters (hpart : s.part = .filters) (ht : t.Unsigned)
    (hs : s.WellFormed) (h : s.next? t = some s') : s'.WellFormed := by
  cases s with
  | filter r => exact wellFormed_filter? hs (by simp) h
  | filterOperator r fs field =>
    obtain ⟨op, -, rfl⟩ := Option.map_eq_some_iff.1 h
    exact hs
  | filterValue r fs field op =>
    obtain ⟨v, hv, rfl⟩ := Option.map_eq_some_iff.1 h
    exact ⟨hs.1, forall_mem_concat hs.2 (wellFormed_of_value? ht hv)⟩
  | filtered r fs =>
    simp only [State.next?] at h
    split at h
    · obtain rfl := Option.some.inj h
      exact hs
    · exact wellFormed_filter?_or_count? hs.1 hs.2 h
  | filterComma r fs => exact wellFormed_filter?_or_count? hs.1 hs.2 h
  | _ => cases hpart

/-- The same from `COUNT` to the limit. -/
theorem State.wellFormed_next?_clauses (hpart : s.part = .clauses) (hs : s.WellFormed)
    (h : s.next? t = some s') : s'.WellFormed := by
  cases s with
  | metric r fs =>
    obtain ⟨m, -, rfl⟩ := Option.map_eq_some_iff.1 h
    exact ⟨⟨r, rfl, hs.1⟩, hs.2, by simp, by simp⟩
  | clause stage q => exact wellFormed_clause? hs h
  | grouping q =>
    obtain ⟨g, -, rfl⟩ := Option.map_eq_some_iff.1 h
    exact ⟨hs.requirement, hs.filters, hs.limit, hs.period⟩
  | figures q =>
    obtain ⟨f, -, rfl⟩ := Option.map_eq_some_iff.1 h
    exact ⟨hs.requirement, hs.filters, hs.limit, hs.period⟩
  | sortKey q =>
    obtain ⟨k, -, rfl⟩ := Option.map_eq_some_iff.1 h
    exact ⟨hs.requirement, hs.filters, hs.limit, hs.period⟩
  | direction q =>
    simp only [State.next?] at h
    split at h
    · obtain rfl := Option.some.inj h
      exact ⟨hs.requirement, hs.filters, hs.limit, hs.period⟩
    · exact wellFormed_clause? hs h
  | limit q =>
    obtain ⟨n, hn, rfl⟩ := Option.map_eq_some_iff.1 h
    exact ⟨hs.requirement, hs.filters, by simpa using le_of_limit? hn, hs.period⟩
  | _ => cases hpart

/-- The same among the years. -/
theorem State.wellFormed_next?_period (hpart : s.part = .period) (ht : t.Unsigned)
    (hs : s.WellFormed) (h : s.next? t = some s') : s'.WellFormed := by
  cases s with
  | period q => exact wellFormed_period? hs ht h
  | listedYear q ys =>
    obtain ⟨y, hy, rfl⟩ := Option.map_eq_some_iff.1 h
    exact ⟨hs.1, by simp, forall_mem_concat hs.2 (spellable_of_year? ht hy)⟩
  | listedYears q ys =>
    simp only [State.next?] at h
    split at h
    · obtain rfl := Option.some.inj h
      exact ⟨hs.1, hs.2.2⟩
    · split at h
      · obtain rfl := Option.some.inj h
        exact ⟨hs.1.requirement, hs.1.filters, hs.1.limit, by simpa [Period.WellFormed] using hs.2⟩
      · simp at h
  | yearOperator q =>
    obtain ⟨op, -, rfl⟩ := Option.map_eq_some_iff.1 h
    exact hs
  | yearValue q op =>
    obtain ⟨y, hy, rfl⟩ := Option.map_eq_some_iff.1 h
    exact ⟨hs.requirement, hs.filters, hs.limit,
      by simpa [Period.WellFormed] using spellable_of_year? ht hy⟩
  | _ => cases hpart

/-- **One step of the parser.** A token that the lexer can have cut keeps everything that is stored
well formed. -/
theorem State.wellFormed_next? (ht : t.Unsigned) (hs : s.WellFormed) (h : s.next? t = some s') :
    s'.WellFormed := by
  cases hpart : s.part with
  | requirement => exact wellFormed_next?_requirement hpart ht hs h
  | filters => exact wellFormed_next?_filters hpart ht hs h
  | clauses => exact wellFormed_next?_clauses hpart hs h
  | period => exact wellFormed_next?_period hpart ht hs h

/-- **A run of the parser.** The query that the tokens complete is well formed. -/
theorem State.wellFormed_run {stop : Token} {ts : List Token} (hts : ∀ t ∈ ts, t.Unsigned)
    (hs : s.WellFormed) {q : Query} (h : s.run stop ts = .ok q) : q.WellFormed := by
  have hfinish : ∀ {s : State} {e : Token}, s.WellFormed → s.finish e = .ok q → q.WellFormed := by
    intro s e hs h
    unfold State.finish at h
    cases s <;> simp_all [State.query?, State.WellFormed]
  induction ts generalizing s with
  | nil => exact hfinish hs h
  | cons t ts ih =>
    rw [State.run] at h
    split at h
    · exact hfinish hs h
    · split at h
      · rename_i s' hnext
        exact ih (fun u hu => hts u (by simp [hu]))
          (s.wellFormed_next? (hts t (by simp)) hs hnext) h
      · simp at h

end Parser

/-! ## Tokens of texts -/

/-- A number that the lexer reads is a run of digits. -/
theorem Lexeme.isDigit_of_read {cs : List Char} {text : String} {n : Nat}
    (h : Lexeme.read cs = .lexeme .number text n) : ∀ c ∈ text.toList, Text.isDigit c = true := by
  cases cs with
  | nil => simp [read] at h
  | cons c cs =>
    by_cases hc : Text.isDigit c = true
    · have htext : text = String.ofList (c :: cs.takeWhile Text.isDigit) := by
        simp only [read, ofWord] at h
        grind
      rw [htext, String.toList_ofList]
      intro d hd
      rcases List.mem_cons.1 hd with rfl | hd
      · exact hc
      · exact List.all_eq_true.1 List.all_takeWhile d hd
    · simp only [read, ofWord] at h
      grind

/-- A token that the cursor reads is unsigned. -/
theorem Cursor.unsigned_of_next {cur after : Cursor} {t : Token} (h : cur.next = (.ok t, after)) :
    t.Unsigned := by
  simp only [next] at h
  split at h
  · obtain ⟨rfl, -⟩ := by simpa using h
    simp [Token.Unsigned]
  · rename_i kind text n hread
    obtain ⟨rfl, -⟩ := by simpa using h
    rintro rfl
    exact Lexeme.isDigit_of_read hread
  · simp at h
  · simp at h

/-- Every token of a text is unsigned. The induction is on the tokens, each of which leaves a
shorter text behind. -/
theorem Cursor.unsigned_of_tokens {cur : Cursor} {ts : List Token} (h : cur.tokens = .ok ts) :
    ∀ t ∈ ts, t.Unsigned := by
  fun_induction Cursor.tokens cur generalizing ts with
  | case1 cur e after hnext => simp at h
  | case2 cur t after hnext hkind =>
    obtain rfl := Except.ok.inj h
    simpa using cur.unsigned_of_next hnext
  | case3 cur t after hnext hkind ih =>
    cases hafter : after.tokens with
    | error e => simp [hafter, Except.map] at h
    | ok us =>
      rw [hafter] at h
      obtain rfl := Except.ok.inj h
      rw [List.forall_mem_cons]
      exact ⟨cur.unsigned_of_next hnext, ih hafter⟩

/-- **What is read is well formed.** -/
theorem Query.wellFormed_of_parse {s : String} {q : Query} (h : Query.parse s = .ok q) :
    q.WellFormed := by
  unfold Query.parse at h
  split at h
  · simp at h
  · rename_i ts htokens
    split at h
    · simp at h
    · rename_i q' hq
      obtain rfl := Except.ok.inj h
      have hstart : Parser.State.start.WellFormed := trivial
      exact Parser.State.wellFormed_run (Cursor.unsigned_of_tokens htokens) hstart hq

end Broadband
