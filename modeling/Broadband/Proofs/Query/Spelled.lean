import Broadband.Proofs.Query.RoundTrip
import Broadband.Proofs.Query.Terminals

/-!
# What has been read spells the state

Every state of the parser stands for what the grammar says about the tokens in front of it: which
rules they complete, and which they have begun. `SpelledBy` says this for each state, and a step
keeps it, so a query that a run ends with is one that the tokens spell.

Frames need the most care. A frame is a rule with its last part missing, and where that part may
begin depends on how tightly the rule binds: after `AND` an operand is due, after `OR` a term, at
the start of a parenthesis a choice. `Opens` keeps this rank beside the frames.
-/

namespace Broadband.Parser

open Grammar

/-! ## Criteria -/

/-- The tokens have begun what the frames hold, the innermost first, and what is due has the
rank. -/
inductive Opens : Rank → List Frame → List Token → Prop
  | nil : Opens .choice [] []
  | paren {rank : Rank} {frames : List Frame} {ts : List Token} {t : Token}
      (outer : Opens rank frames ts) (opening : t.kind = .openParen) :
      Opens .choice (.paren :: frames) (ts ++ [t])
  | or {frames : List Frame} {ts us : List Token} {t : Token} {l : Criterion}
      (outer : Opens .choice frames ts) (left : Spells .choice us l) (keyword : IsKeyword t .or) :
      Opens .term (.or l :: frames) (ts ++ us ++ [t])
  | and {rank : Rank} {frames : List Frame} {ts us : List Token} {t : Token} {l : Criterion}
      (outer : Opens rank frames ts) (loose : rank ≠ .operand) (left : Spells .term us l)
      (keyword : IsKeyword t .and) : Opens .operand (.and l :: frames) (ts ++ us ++ [t])
  | not {rank : Rank} {frames : List Frame} {ts : List Token} {t : Token}
      (outer : Opens rank frames ts) (keyword : IsKeyword t .not) :
      Opens .operand (.not :: frames) (ts ++ [t])

/-- The tokens have led the criterion reader to the state. -/
def CriterionState.SpelledBy (ts : List Token) : CriterionState → Prop
  | .operand frames => ∃ rank, Opens rank frames ts
  | .operator frames field =>
    ∃ rank us t, Opens rank frames us ∧ IsWord t field ∧ ts = us ++ [t]
  | .value frames field op =>
    ∃ rank us t u, Opens rank frames us ∧ IsWord t field ∧ IsSymbol u op ∧ ts = us ++ [t, u]
  | .complete frames c =>
    ∃ rank us vs, Opens rank frames us ∧ rank ≠ .operand ∧ Spells .term vs c ∧ ts = us ++ vs

section

variable {rank : Rank} {frames : List Frame} {ts us vs : List Token} {t : Token} {c : Criterion}

theorem Opens.loose (h : Opens rank frames ts) (hrank : rank ≠ .operand) : Loose frames := by
  cases h with
  | nil => trivial
  | paren _ _ => trivial
  | or _ _ _ => trivial
  | and _ _ _ _ => exact absurd rfl hrank
  | not _ _ => exact absurd rfl hrank

/-- An operand fills the holes that bind as tightly as it does. -/
theorem Opens.settle (h : Opens rank frames us) (hc : Spells .operand vs c) :
    (settle frames c).SpelledBy (us ++ vs) := by
  -- the induction is on what is open: `NOT` leaves an operand again, everything else a term
  induction h generalizing vs c with
  | nil => exact ⟨_, _, _, .nil, by decide, .operand hc, rfl⟩
  | paren outer opening =>
    exact ⟨_, _, _, .paren outer opening, by decide, .operand hc, rfl⟩
  | or outer left keyword =>
    exact ⟨_, _, _, .or outer left keyword, by decide, .operand hc, rfl⟩
  | @and rank frames ts ls t l outer loose left keyword =>
    have hjoin : Spells .term (ls ++ t :: vs) (.join .and l c) := .and left keyword hc
    rw [Parser.settle, settle_of_loose (outer.loose loose)]
    exact ⟨_, _, _, outer, loose, hjoin, by simp⟩
  | @not rank frames ts t outer keyword ih =>
    have hnot := ih (.not keyword hc)
    rwa [List.append_assoc, List.singleton_append]

/-- A term fills the hole of an `OR` and completes a choice. -/
theorem Opens.closeOr (h : Opens rank frames us) (hrank : rank ≠ .operand)
    (hc : Spells .term vs c) :
    ∃ xs ys, Opens .choice (closeOr frames c).1 xs ∧ Spells .choice ys (closeOr frames c).2 ∧
      us ++ vs = xs ++ ys := by
  cases h with
  | nil => exact ⟨_, _, .nil, .term hc, rfl⟩
  | paren outer opening => exact ⟨_, _, .paren outer opening, .term hc, rfl⟩
  | or outer left keyword => exact ⟨_, _, outer, .or left keyword hc, by simp⟩
  | and _ _ _ _ => exact absurd rfl hrank
  | not _ _ => exact absurd rfl hrank

/-! ### Steps of the criterion reader -/

theorem spelledBy_operand? {s : CriterionState} (h : Opens rank frames ts)
    (hs : operand? frames t = some s) : s.SpelledBy (ts ++ [t]) := by
  unfold operand? at hs
  split at hs
  · next hnot =>
    obtain rfl := Option.some.inj hs
    exact ⟨_, .not h (Token.keyword?_eq_some_iff.1 hnot)⟩
  split at hs
  · next hopen =>
    obtain rfl := Option.some.inj hs
    exact ⟨_, .paren h hopen⟩
  split at hs
  · next tech htech =>
    obtain rfl := Option.some.inj hs
    exact h.settle (.technology (Token.identifier?_eq_some_iff.1 htech))
  · obtain ⟨field, hfield, rfl⟩ := Option.map_eq_some_iff.1 hs
    exact ⟨_, _, _, h, Token.identifier?_eq_some_iff.1 hfield, rfl⟩

/-- What a step of the criterion reader tells: it goes on with the token, or the tokens in front of
it spell a criterion. -/
def CriterionStep.SpelledBy (ts : List Token) (t : Token) : CriterionStep → Prop
  | .more s => s.SpelledBy (ts ++ [t])
  | .ended c => Spells .choice ts c

theorem spelledBy_afterOperand? {step : CriterionStep} (h : Opens rank frames us)
    (hrank : rank ≠ .operand) (hc : Spells .term vs c)
    (hs : afterOperand? frames c t = some step) : step.SpelledBy (us ++ vs) t := by
  unfold afterOperand? at hs
  split at hs
  · next hand =>
    obtain rfl := Option.some.inj hs
    exact ⟨_, .and h hrank hc (Token.keyword?_eq_some_iff.1 hand)⟩
  -- nothing but an `AND` takes the last term alone, so an open `OR` is closed first
  obtain ⟨xs, ys, hopen, hchoice, htokens⟩ := h.closeOr hrank hc
  rw [htokens]
  revert hopen hchoice hs
  generalize closeOr frames c = closed
  obtain ⟨outer, joined⟩ := closed
  intro hs hopen hchoice
  simp only at hs hopen hchoice
  split at hs
  · next hor =>
    obtain rfl := Option.some.inj hs
    exact ⟨_, .or hopen hchoice (Token.keyword?_eq_some_iff.1 hor)⟩
  cases hopen with
  | nil =>
    obtain rfl := Option.some.inj hs
    exact hchoice
  | @paren rank frames zs o inner opening =>
    obtain ⟨hclose, hstep⟩ := Option.ite_none_right_eq_some.1 hs
    obtain rfl := Option.some.inj hstep
    have hsettle := inner.settle (.paren opening hchoice hclose)
    change (Parser.settle frames joined).SpelledBy _
    rwa [List.append_assoc, List.append_assoc, List.singleton_append]

/-- **One step of the criterion reader.** -/
theorem CriterionState.spelledBy_next? {s : CriterionState} {step : CriterionStep}
    (h : s.SpelledBy ts) (hs : s.next? t = some step) : step.SpelledBy ts t := by
  cases s with
  | operand frames =>
    obtain ⟨rank, hopen⟩ := h
    obtain ⟨s, hstep, rfl⟩ := Option.map_eq_some_iff.1 hs
    exact spelledBy_operand? hopen hstep
  | operator frames field =>
    obtain ⟨rank, us, u, hopen, hfield, rfl⟩ := h
    obtain ⟨op, hop, rfl⟩ := Option.map_eq_some_iff.1 hs
    exact ⟨_, _, _, _, hopen, hfield, comparison?_eq_some_iff.1 hop, by simp⟩
  | value frames field op =>
    obtain ⟨rank, us, u, v, hopen, hfield, hop, rfl⟩ := h
    obtain ⟨value, hvalue, rfl⟩ := Option.map_eq_some_iff.1 hs
    have hsettle := hopen.settle (.compare hfield hop (value?_eq_some_iff.1 hvalue))
    change (Parser.settle frames _).SpelledBy _
    rwa [List.append_assoc]
  | complete frames c =>
    obtain ⟨rank, us, vs, hopen, hrank, hc, rfl⟩ := h
    exact spelledBy_afterOperand? hopen hrank hc hs

end

/-! ## The clauses up to COUNT -/

/-- `HAS` and what it requires. -/
inductive Required : List Token → Requirement → Prop
  | mk {t : Token} {ts : List Token} {r : Requirement} (has : IsKeyword t .has)
      (requirement : SpellsRequirement ts r) : Required (t :: ts) r

/-- Some items of a list, after which the next one is due. -/
inductive Due {α : Type} (separator : List Token → Prop) (item : List Token → α → Prop) :
    List Token → List α → Prop
  | first : Due separator item [] []
  | next {ts us : List Token} {as : List α} (before : Separated separator item ts as)
      (between : separator us) : Due separator item (ts ++ us) as

theorem Due.add {α : Type} {separator : List Token → Prop} {item : List Token → α → Prop}
    {ts us : List Token} {as : List α} {a : α} (h : Due separator item ts as) (ha : item us a) :
    Separated separator item (ts ++ us) (as ++ [a]) := by
  cases h with
  | first => exact .one ha
  | next before between => exact .more before between ha

/-- The `HAS` clause, `IN`, and what has been read of the filters. -/
inductive Inside (body : List Token → Prop) : List Token → Requirement → Prop
  | mk {t : Token} {ts us : List Token} {r : Requirement} (required : Required ts r)
      (keyword : IsKeyword t .inside) (rest : body us) : Inside body (ts ++ t :: us) r

/-- The clauses in front of `COUNT`. -/
inductive Population : List Token → Requirement → List Filter → Prop
  | mk {ts us : List Token} {r : Requirement} {fs : List Filter} (required : Required ts r)
      (filters : Clause .inside [] SpellsFilters us fs) : Population (ts ++ us) r fs

/-- The tokens stand in front of a criterion that is given in this form. -/
def Form.SpelledBy (ts : List Token) : Form → Prop
  | .single => ∃ t, IsKeyword t .has ∧ ts = [t]
  | .listed q done => ∃ t u v us, IsKeyword t .has ∧ IsKeyword u q.keyword ∧ v.kind = .openParen ∧
      Due Comma (Spells .choice) us done ∧ ts = t :: u :: v :: us

/-! ## The clauses after COUNT -/

/-- The clauses up to the stage, each of them written or left out. -/
inductive Answered : Stage → List Token → Query → Prop
  | metric {ts : List Token} {r : Requirement} {fs : List Filter} {m : Metric}
      (population : SpellsPopulation ts r fs m) :
      Answered .metric ts { requirement := some r, filters := fs, metric := m }
  | grouping {ts us : List Token} {q : Query} {g : Grouping} (before : Answered .metric ts q)
      (clause : Clause .groupBy .national SpellsWord us g) :
      Answered .grouping (ts ++ us) { q with grouping := g }
  | figures {ts us : List Token} {q : Query} {f : Figures} (before : Answered .grouping ts q)
      (clause : Clause .display .both (SpellsWordOrCount .count) us f) :
      Answered .figures (ts ++ us) { q with figures := f }
  | sorting {ts us : List Token} {q : Query} {s : Sorting} (before : Answered .figures ts q)
      (clause : Clause .sort {} SpellsSorting us s) :
      Answered .sorting (ts ++ us) { q with sorting := s }
  | limit {ts us : List Token} {q : Query} {n : Option Nat} (before : Answered .sorting ts q)
      (clause : Clause .top none SpellsLimit us n) :
      Answered .limit (ts ++ us) { q with limit := n }
  | period {ts us : List Token} {q : Query} {p : Option Period} (before : Answered .limit ts q)
      (clause : Clause .period none SpellsPeriod us p) :
      Answered .period (ts ++ us) { q with period := p }

/-- The clauses up to the stage, and the keyword of another one. -/
inductive Opened (k : Keyword) (stage : Stage) : List Token → Query → Prop
  | mk {t : Token} {ts : List Token} {q : Query} (before : Answered stage ts q)
      (keyword : IsKeyword t k) : Opened k stage (ts ++ [t]) q

section

variable {stage : Stage} {ts : List Token} {q : Query}

/-- The clauses after the stage have their defaults. -/
theorem Answered.defaults (h : Answered stage ts q) :
    (stage.rank < 1 → q.grouping = .national) ∧ (stage.rank < 2 → q.figures = .both) ∧
      (stage.rank < 3 → q.sorting = {}) ∧ (stage.rank < 4 → q.limit = none) ∧
      (stage.rank < 5 → q.period = none) := by
  induction h <;> simp_all [Stage.rank]

theorem Stage.eq_of_rank_eq {a b : Stage} (h : a.rank = b.rank) : a = b := by
  cases a <;> cases b <;> first | rfl | cases h

/-- The next clause may be left out. -/
theorem Answered.skip (h : Answered stage ts q) {next : Stage}
    (hnext : next.rank = stage.rank + 1) :
    Answered next ts q := by
  have hsame : ∀ p, p = q → Answered next (ts ++ []) p → Answered next ts q := by
    rintro p rfl hp
    rwa [List.append_nil] at hp
  obtain ⟨hgrouping, hfigures, hsorting, hlimit, hperiod⟩ := h.defaults
  cases stage with
  | metric =>
    obtain rfl : next = .grouping := Stage.eq_of_rank_eq hnext
    exact hsame _ (by rw [← hgrouping (by decide)]) (.grouping h .absent)
  | grouping =>
    obtain rfl : next = .figures := Stage.eq_of_rank_eq hnext
    exact hsame _ (by rw [← hfigures (by decide)]) (.figures h .absent)
  | figures =>
    obtain rfl : next = .sorting := Stage.eq_of_rank_eq hnext
    exact hsame _ (by rw [← hsorting (by decide)]) (.sorting h .absent)
  | sorting =>
    obtain rfl : next = .limit := Stage.eq_of_rank_eq hnext
    exact hsame _ (by rw [← hlimit (by decide)]) (.limit h .absent)
  | limit =>
    obtain rfl : next = .period := Stage.eq_of_rank_eq hnext
    exact hsame _ (by rw [← hperiod (by decide)]) (.period h .absent)
  | period => cases next <;> cases hnext

theorem Stage.exists_before {last : Stage} {n : Nat} (h : last.rank = n + 1) :
    ∃ before : Stage, before.rank = n := by
  cases last with
  | metric => cases h
  | grouping => exact ⟨.metric, Nat.succ.inj h⟩
  | figures => exact ⟨.grouping, Nat.succ.inj h⟩
  | sorting => exact ⟨.figures, Nat.succ.inj h⟩
  | limit => exact ⟨.sorting, Nat.succ.inj h⟩
  | period => exact ⟨.limit, Nat.succ.inj h⟩

/-- All clauses up to a later stage may be left out, one after the other. -/
theorem Answered.upto (h : Answered stage ts q) {last : Stage} (hlast : stage.rank ≤ last.rank) :
    Answered last ts q := by
  obtain ⟨n, hn⟩ := Nat.exists_eq_add_of_le hlast
  induction n generalizing last with
  | zero =>
    obtain rfl := Stage.eq_of_rank_eq hn
    exact h
  | succ n ih =>
    obtain ⟨before, hbefore⟩ : ∃ before : Stage, before.rank = stage.rank + n :=
      Stage.exists_before hn
    exact (ih (by omega) hbefore).skip (by omega)

/-- With the end of the text behind them, they are a query. -/
theorem Answered.spellsQuery (h : Answered stage ts q) {e : Token} (he : e.kind = .endOfText) :
    SpellsQuery (ts ++ [e]) q := by
  have hall : Answered .period ts q := h.upto (by cases stage <;> decide)
  rcases hall with _ | _ | _ | _ | _ | ⟨hlimit, period⟩
  rcases hlimit with _ | _ | _ | _ | ⟨hsorting, limit⟩
  rcases hsorting with _ | _ | _ | ⟨hfigures, sorting⟩
  rcases hfigures with _ | _ | ⟨hgrouping, figures⟩
  rcases hgrouping with _ | ⟨hmetric, grouping⟩
  rcases hmetric with ⟨population⟩
  exact .mk rfl population grouping figures sorting limit period he

end

/-! ## States -/

/-- The tokens have led the parser to the state. -/
def State.SpelledBy (ts : List Token) : State → Prop
  | .start => ts = []
  | .has => ∃ t, IsKeyword t .has ∧ ts = [t]
  | .listOpen q => ∃ t u, IsKeyword t .has ∧ IsKeyword u q.keyword ∧ ts = [t, u]
  | .criterion form s => ∃ us vs, form.SpelledBy us ∧ s.SpelledBy vs ∧ ts = us ++ vs
  | .required r => Required ts r
  | .filter r => Inside (· = []) ts r
  | .filterOperator r fs field => ∃ us t, Inside (Due OptionalComma SpellsFilter · fs) us r ∧
      IsWord t field ∧ ts = us ++ [t]
  | .filterValue r fs field op => ∃ us t u, Inside (Due OptionalComma SpellsFilter · fs) us r ∧
      IsWord t field ∧ IsSymbol u op ∧ ts = us ++ [t, u]
  | .filtered r fs => Inside (Separated OptionalComma SpellsFilter · fs) ts r
  | .filterComma r fs => Inside (SpellsFilters · fs) ts r
  | .metric r fs => ∃ us t, Population us r fs ∧ IsKeyword t .count ∧ ts = us ++ [t]
  | .clause stage q => Answered stage ts q
  | .grouping q => Opened .groupBy .metric ts q
  | .figures q => Opened .display .grouping ts q
  | .sortKey q => Opened .sort .figures ts q
  | .direction q => ∃ us t p key, Opened .sort .figures us p ∧ SpellsWordOrCount .count [t] key ∧
      q = { p with sorting := { key } } ∧ ts = us ++ [t]
  | .limit q => Opened .top .sorting ts q
  | .period q => Opened .period .limit ts q
  | .listedYear q ys => ∃ us t vs, Opened .period .limit us q ∧ t.kind = .openParen ∧
      Due Comma SpellsYear vs ys ∧ ts = us ++ t :: vs
  | .listedYears q ys => ∃ us t vs, Opened .period .limit us q ∧ t.kind = .openParen ∧
      Separated Comma SpellsYear vs ys ∧ ts = us ++ t :: vs
  | .yearOperator q => ∃ us t, Opened .period .limit us q ∧ IsYearColumn t ∧ ts = us ++ [t]
  | .yearValue q op => ∃ us t u, Opened .period .limit us q ∧ IsYearColumn t ∧ IsSymbol u op ∧
      ts = us ++ [t, u]

section

variable {ts : List Token} {t : Token} {s s' : State} {r : Requirement} {fs : List Filter}

theorem spelledBy_count? (h : Population ts r fs) (hs : count? r fs t = some s) :
    s.SpelledBy (ts ++ [t]) := by
  obtain ⟨hcount, hstep⟩ := Option.ite_none_right_eq_some.1 hs
  obtain rfl := Option.some.inj hstep
  exact ⟨_, _, h, Token.keyword?_eq_some_iff.1 hcount, rfl⟩

theorem spelledBy_afterRequirement? (h : Required ts r) (hs : afterRequirement? r t = some s) :
    s.SpelledBy (ts ++ [t]) := by
  unfold afterRequirement? at hs
  split at hs
  · next hinside =>
    obtain rfl := Option.some.inj hs
    exact .mk h (Token.keyword?_eq_some_iff.1 hinside) rfl
  · have hpopulation : Population (ts ++ []) r [] := .mk h .absent
    rw [List.append_nil] at hpopulation
    exact spelledBy_count? hpopulation hs

theorem spelledBy_filter? (h : Inside (Due OptionalComma SpellsFilter · fs) ts r)
    (hs : filter? r fs t = some s) : s.SpelledBy (ts ++ [t]) := by
  unfold filter? at hs
  split at hs
  · next segment hsegment =>
    obtain rfl := Option.some.inj hs
    obtain ⟨required, keyword, due⟩ := h
    have hmore := due.add (.segment (Token.identifier?_eq_some_iff.1 hsegment))
    rw [List.append_assoc, List.cons_append]
    exact .mk required keyword hmore
  · obtain ⟨field, hfield, rfl⟩ := Option.map_eq_some_iff.1 hs
    exact ⟨_, _, h, Token.identifier?_eq_some_iff.1 hfield, rfl⟩

/-- After a filter, and the comma that may follow it, comes another filter or `COUNT`. -/
theorem spelledBy_filter?_or_count? (h : Inside (SpellsFilters · fs) ts r)
    (hs : (filter? r fs t <|> count? r fs t) = some s) : s.SpelledBy (ts ++ [t]) := by
  obtain ⟨required, keyword, filters⟩ := h
  cases hfilter : filter? r fs t with
  | some s' =>
    rw [hfilter] at hs
    obtain rfl := Option.some.inj hs
    obtain ⟨list, trailing⟩ := filters
    exact spelledBy_filter? (.mk required keyword (.next list trailing)) hfilter
  | none =>
    rw [hfilter] at hs
    exact spelledBy_count? (.mk required (.present keyword filters)) hs

theorem spelledBy_afterCriterion? {form : Form} {c : Criterion} {us : List Token}
    (hform : form.SpelledBy ts) (hc : Spells .choice us c)
    (hs : afterCriterion? form c t = some s) : s.SpelledBy (ts ++ us ++ [t]) := by
  cases form with
  | single =>
    obtain ⟨u, hhas, rfl⟩ := hform
    exact spelledBy_afterRequirement? (.mk hhas (.single hc)) hs
  | listed q done =>
    obtain ⟨u, v, w, vs, hhas, hq, hopen, hdue, rfl⟩ := hform
    have hlist := hdue.add hc
    simp only [afterCriterion?] at hs
    split at hs
    · next hcomma =>
      obtain rfl := Option.some.inj hs
      refine ⟨_, _, ⟨u, v, w, _, hhas, hq, hopen, .next hlist (.present hcomma), rfl⟩, ⟨_, .nil⟩,
        ?_⟩
      simp
    split at hs
    · next hclose =>
      obtain rfl := Option.some.inj hs
      exact .mk hhas (.quantified hq hopen hlist hclose)
    · cases hs

theorem spelledBy_criterion? {form : Form} {cs : CriterionState} {us : List Token}
    (hform : form.SpelledBy ts) (h : cs.SpelledBy us) (hs : criterion? form cs t = some s) :
    s.SpelledBy (ts ++ us ++ [t]) := by
  unfold criterion? at hs
  split at hs
  · cases hs
  · next cs' hstep =>
    obtain rfl := Option.some.inj hs
    exact ⟨_, _, hform, CriterionState.spelledBy_next? h hstep, List.append_assoc ..⟩
  · next c hstep =>
    exact spelledBy_afterCriterion? hform (CriterionState.spelledBy_next? h hstep) hs

/-- A clause is opened only while the earlier ones are the last to have been read. -/
theorem spelledBy_clause? {stage : Stage} {q : Query} (h : Answered stage ts q)
    (hs : clause? stage q t = some s) : s.SpelledBy (ts ++ [t]) := by
  unfold clause? at hs
  split at hs
  case h_6 => cases hs
  -- each of the keywords follows any clause in front of its own
  all_goals
    next hk =>
      obtain ⟨hrank, hstep⟩ := Option.ite_none_right_eq_some.1 hs
      obtain rfl := Option.some.inj hstep
      exact .mk (h.upto (Nat.le_of_lt_succ hrank)) (Token.keyword?_eq_some_iff.1 hk)

/-- The body of the `FOR` clause completes it. -/
theorem Opened.period {q : Query} {us : List Token} {p : Option Period}
    (h : Opened .period .limit ts q) (hp : SpellsPeriod us p) :
    Answered .period (ts ++ us) { q with period := p } := by
  obtain ⟨before, keyword⟩ := h
  rw [List.append_assoc, List.singleton_append]
  exact .period before (.present keyword hp)

theorem spelledBy_period? {q : Query} (h : Opened .period .limit ts q)
    (hs : period? q t = some s) : s.SpelledBy (ts ++ [t]) := by
  unfold period? at hs
  split at hs
  · next hopen =>
    obtain rfl := Option.some.inj hs
    exact ⟨_, _, _, h, hopen, .first, rfl⟩
  split at hs
  · next hkind =>
    obtain ⟨hname, hstep⟩ := Option.ite_none_right_eq_some.1 hs
    obtain rfl := Option.some.inj hstep
    exact ⟨_, _, h, ⟨hkind, by simpa [yearNames] using hname⟩, rfl⟩
  · obtain ⟨y, hy, rfl⟩ := Option.map_eq_some_iff.1 hs
    exact h.period (.single (year?_eq_some_iff.1 hy))

/-- The sort key alone completes the `SORT` clause, with the default direction. -/
theorem State.SpelledBy.sorting {q : Query} (h : (State.direction q).SpelledBy ts) :
    Answered .sorting ts q := by
  obtain ⟨us, u, p, key, ⟨before, keyword⟩, hkey, rfl, rfl⟩ := h
  rw [List.append_assoc, List.singleton_append]
  exact .sorting before (.present keyword (.ascending hkey))

/-- Up to the end of the `HAS` clause, one token more leads to the next state. -/
theorem State.spelledBy_next?_requirement (hpart : s.part = .requirement) (h : s.SpelledBy ts)
    (hs : s.next? t = some s') : s'.SpelledBy (ts ++ [t]) := by
  cases s with
  | start =>
    obtain ⟨hhas, hstep⟩ := Option.ite_none_right_eq_some.1 hs
    obtain rfl := Option.some.inj hstep
    obtain rfl : ts = [] := h
    exact ⟨_, Token.keyword?_eq_some_iff.1 hhas, rfl⟩
  | has =>
    obtain ⟨u, hhas, rfl⟩ := h
    simp only [State.next?] at hs
    split at hs
    · next q hq =>
      obtain rfl := Option.some.inj hs
      exact ⟨_, _, hhas, quantifier?_eq_some_iff.1 hq, rfl⟩
    · have hform : Form.single.SpelledBy [u] := ⟨u, hhas, rfl⟩
      have hnone : (CriterionState.operand []).SpelledBy [] := ⟨_, .nil⟩
      exact spelledBy_criterion? hform hnone hs
  | listOpen q =>
    obtain ⟨u, v, hhas, hq, rfl⟩ := h
    obtain ⟨hopen, hstep⟩ := Option.ite_none_right_eq_some.1 hs
    obtain rfl := Option.some.inj hstep
    exact ⟨_, _, ⟨u, v, t, [], hhas, hq, hopen, .first, rfl⟩, ⟨_, .nil⟩, by simp⟩
  | criterion form cs =>
    obtain ⟨us, vs, hform, hcs, rfl⟩ := h
    exact spelledBy_criterion? hform hcs hs
  | required r => exact spelledBy_afterRequirement? h hs
  | _ => cases hpart

/-- The same among the filters. -/
theorem State.spelledBy_next?_filters (hpart : s.part = .filters) (h : s.SpelledBy ts)
    (hs : s.next? t = some s') : s'.SpelledBy (ts ++ [t]) := by
  cases s with
  | filter r =>
    obtain ⟨required, keyword, rfl⟩ := h
    exact spelledBy_filter? (.mk required keyword .first) hs
  | filterOperator r fs field =>
    obtain ⟨us, u, hinside, hfield, rfl⟩ := h
    obtain ⟨op, hop, rfl⟩ := Option.map_eq_some_iff.1 hs
    exact ⟨_, _, _, hinside, hfield, comparison?_eq_some_iff.1 hop, by simp⟩
  | filterValue r fs field op =>
    obtain ⟨us, u, v, ⟨required, keyword, due⟩, hfield, hop, rfl⟩ := h
    obtain ⟨value, hvalue, rfl⟩ := Option.map_eq_some_iff.1 hs
    have hmore := due.add (.compare hfield hop (value?_eq_some_iff.1 hvalue))
    rw [List.append_assoc, List.append_assoc, List.cons_append]
    exact .mk required keyword hmore
  | filtered r fs =>
    obtain ⟨required, keyword, list⟩ := h
    simp only [State.next?] at hs
    split at hs
    · next hcomma =>
      obtain rfl := Option.some.inj hs
      rw [List.append_assoc, List.cons_append]
      exact .mk required keyword (.mk list (.present hcomma))
    · have hfilters := SpellsFilters.mk list .absent
      rw [List.append_nil] at hfilters
      exact spelledBy_filter?_or_count? (.mk required keyword hfilters) hs
  | filterComma r fs => exact spelledBy_filter?_or_count? h hs
  | _ => cases hpart

/-- The same from `COUNT` to the limit. -/
theorem State.spelledBy_next?_clauses (hpart : s.part = .clauses) (h : s.SpelledBy ts)
    (hs : s.next? t = some s') : s'.SpelledBy (ts ++ [t]) := by
  cases s with
  | metric r fs =>
    obtain ⟨us, u, ⟨⟨has, requirement⟩, filters⟩, hcount, rfl⟩ := h
    obtain ⟨metric, hmetric, rfl⟩ := Option.map_eq_some_iff.1 hs
    have hword := Token.identifier?_eq_some_iff.1 hmetric
    rw [List.append_assoc]
    exact .metric (.mk has requirement filters hcount hword)
  | clause stage q => exact spelledBy_clause? h hs
  | grouping q =>
    obtain ⟨before, keyword⟩ := h
    obtain ⟨grouping, hgrouping, rfl⟩ := Option.map_eq_some_iff.1 hs
    have hword := SpellsWord.mk (Token.identifier?_eq_some_iff.1 hgrouping)
    rw [List.append_assoc]
    exact .grouping before (.present keyword hword)
  | figures q =>
    obtain ⟨before, keyword⟩ := h
    obtain ⟨figures, hfigures, rfl⟩ := Option.map_eq_some_iff.1 hs
    rw [List.append_assoc]
    exact .figures before (.present keyword (wordOrCount_eq_some_iff.1 hfigures))
  | sortKey q =>
    obtain ⟨key, hkey, rfl⟩ := Option.map_eq_some_iff.1 hs
    exact ⟨_, _, _, _, h, wordOrCount_eq_some_iff.1 hkey, rfl, rfl⟩
  | direction q =>
    simp only [State.next?] at hs
    split at hs
    · next d hd =>
      obtain rfl := Option.some.inj hs
      obtain ⟨us, u, p, key, ⟨before, keyword⟩, hkey, rfl, rfl⟩ := h
      have hsorting := SpellsSorting.directed hkey (Token.identifier?_direction_iff.1 hd)
      have hanswered := Answered.sorting before (.present keyword hsorting)
      rwa [List.append_assoc, List.append_assoc, List.singleton_append]
    · exact spelledBy_clause? h.sorting hs
  | limit q =>
    obtain ⟨before, keyword⟩ := h
    obtain ⟨n, hn, rfl⟩ := Option.map_eq_some_iff.1 hs
    rw [List.append_assoc]
    exact .limit before (.present keyword (.mk (limit?_eq_some_iff.1 hn)))
  | _ => cases hpart

/-- The same among the years. -/
theorem State.spelledBy_next?_period (hpart : s.part = .period) (h : s.SpelledBy ts)
    (hs : s.next? t = some s') : s'.SpelledBy (ts ++ [t]) := by
  cases s with
  | period q => exact spelledBy_period? h hs
  | listedYear q ys =>
    obtain ⟨us, u, vs, hopened, hopen, hdue, rfl⟩ := h
    obtain ⟨y, hy, rfl⟩ := Option.map_eq_some_iff.1 hs
    exact ⟨_, _, _, hopened, hopen, hdue.add (.mk (year?_eq_some_iff.1 hy)), by simp⟩
  | listedYears q ys =>
    obtain ⟨us, u, vs, hopened, hopen, hlist, rfl⟩ := h
    simp only [State.next?] at hs
    split at hs
    · next hcomma =>
      obtain rfl := Option.some.inj hs
      exact ⟨_, _, _, hopened, hopen, .next hlist (.present hcomma), by simp⟩
    split at hs
    · next hclose =>
      obtain rfl := Option.some.inj hs
      rw [List.append_assoc, List.cons_append]
      exact hopened.period (.list hopen hlist hclose)
    · cases hs
  | yearOperator q =>
    obtain ⟨us, u, hopened, hcolumn, rfl⟩ := h
    obtain ⟨op, hop, rfl⟩ := Option.map_eq_some_iff.1 hs
    exact ⟨_, _, _, hopened, hcolumn, comparison?_eq_some_iff.1 hop, by simp⟩
  | yearValue q op =>
    obtain ⟨us, u, v, hopened, hcolumn, hop, rfl⟩ := h
    obtain ⟨y, hy, rfl⟩ := Option.map_eq_some_iff.1 hs
    rw [List.append_assoc]
    exact hopened.period (.compare hcolumn hop (year?_eq_some_iff.1 hy))
  | _ => cases hpart

/-- **One step.** Where the tokens have led to a state, one token more leads to the next. -/
theorem State.spelledBy_next? (h : s.SpelledBy ts) (hs : s.next? t = some s') :
    s'.SpelledBy (ts ++ [t]) := by
  cases hpart : s.part with
  | requirement => exact spelledBy_next?_requirement hpart h hs
  | filters => exact spelledBy_next?_filters hpart h hs
  | clauses => exact spelledBy_next?_clauses hpart h hs
  | period => exact spelledBy_next?_period hpart h hs

/-- Where a query may end, the tokens spell it. -/
theorem State.SpelledBy.spellsQuery {q : Query} (h : s.SpelledBy ts) (hq : s.query? = some q)
    {e : Token} (he : e.kind = .endOfText) : SpellsQuery (ts ++ [e]) q := by
  cases s with
  | clause stage q' =>
    obtain rfl := Option.some.inj hq
    exact Answered.spellsQuery h he
  | direction q' =>
    obtain rfl := Option.some.inj hq
    exact h.sorting.spellsQuery he
  | _ => cases hq

end

end Broadband.Parser
