import Broadband.Proofs.Query.Spelled

/-!
# The parser accepts exactly its grammar

The tokens that the parser reads as a query are the ones that spell it, and no tokens spell two
queries. One half is that what has been read spells the state; the other is that the parser can be
led along any derivation, and is shown here: each rule of the grammar has a lemma that says where its
tokens lead, from every state that they may follow. Since the parser is a function, that it follows
every derivation also shows that there is at most one.
-/

namespace Broadband.Parser

open Grammar

/-! ## Runs -/

/-- The state after the tokens, unless one of them has no next state. -/
def State.after? (s : State) (ts : List Token) : Option State := ts.foldlM State.next? s

section

variable {s u v : State} {ts us : List Token} {t e stop : Token} {q : Query}

theorem State.after?_cons (h : s.next? t = some u) (hts : u.after? ts = some v) :
    s.after? (t :: ts) = some v := by
  rw [State.after?, List.foldlM_cons, h]
  exact hts

theorem State.after?_singleton (h : s.next? t = some u) : s.after? [t] = some u :=
  State.after?_cons h rfl

theorem State.after?_append (h : s.after? ts = some u) (hus : u.after? us = some v) :
    s.after? (ts ++ us) = some v := by
  rw [State.after?] at h
  rw [State.after?, List.foldlM_append, h]
  exact hus

/-- At the end of the text a criterion can only end. -/
theorem CriterionState.ended_of_endOfText {cs : CriterionState} (h : t.kind = .endOfText)
    {step : CriterionStep} (hstep : cs.next? t = some step) : ∃ c, step = .ended c := by
  have hkeyword : t.keyword? = none := Token.keyword?_of_kind (by simp [h])
  have hidentifier : ∀ {α : Type} (meaning : String → Option α), t.identifier? meaning = none :=
    Token.identifier?_of_kind (by simp [h])
  cases cs with
  | complete frames c =>
    simp only [CriterionState.next?, afterOperand?, hkeyword] at hstep
    grind
  | _ => simp [CriterionState.next?, operand?, comparison?, value?, hkeyword, hidentifier, h] at hstep

/-- No state takes the end of the text for a token of the query. -/
theorem State.next?_endOfText (s : State) (h : t.kind = .endOfText) : s.next? t = none := by
  have hkeyword : t.keyword? = none := Token.keyword?_of_kind (by simp [h])
  have hidentifier : ∀ {α : Type} (meaning : String → Option α), t.identifier? meaning = none :=
    Token.identifier?_of_kind (by simp [h])
  cases s with
  | criterion form cs =>
    have hafter : ∀ c, afterCriterion? form c t = none := by
      intro c
      cases form <;> simp [afterCriterion?, afterRequirement?, count?, hkeyword, h]
    rw [State.next?, criterion?]
    split
    · rfl
    · next hmore =>
      obtain ⟨c, hc⟩ := CriterionState.ended_of_endOfText h hmore
      cases hc
    · exact hafter _
  | has =>
    simp [State.next?, quantifier?, criterion?, CriterionState.next?, operand?, hkeyword, hidentifier, h]
  | _ =>
    simp [State.next?, afterRequirement?, filter?, count?, comparison?, value?, clause?, figures?,
      sortKey?, limit?, period?, year?, hkeyword, hidentifier, h]

/-- **What a run does.** The parser gets through the tokens and ends in a state, or it stops at the
first token that has no next state. -/
theorem State.run_cases (s : State) (hts : ∀ t ∈ ts, t.kind ≠ .endOfText) (he : e.kind = .endOfText) :
    (∃ v, s.after? ts = some v ∧ State.run stop s (ts ++ [e]) = v.finish e) ∨
      ∃ us t vs v, ts = us ++ t :: vs ∧ s.after? us = some v ∧ v.next? t = none ∧
        State.run stop s (ts ++ [e]) = .error ⟨v.complaint t, t⟩ := by
  induction ts generalizing s with
  | nil => exact .inl ⟨s, rfl, if_pos he⟩
  | cons t ts ih =>
    rw [List.forall_mem_cons] at hts
    rw [List.cons_append, State.run, if_neg hts.1]
    cases hnext : s.next? t with
    | none => exact .inr ⟨[], t, ts, s, rfl, rfl, hnext, rfl⟩
    | some u =>
      obtain ⟨v, hafter, hrun⟩ | ⟨us, w, vs, v, rfl, hafter, hstop, hrun⟩ := ih u hts.2
      · exact .inl ⟨v, State.after?_cons hnext hafter, hrun⟩
      · exact .inr ⟨t :: us, w, vs, v, rfl, State.after?_cons hnext hafter, hstop, hrun⟩

/-- The tokens of a run are no ends of the text. -/
theorem State.kind_ne_of_after? (h : s.after? ts = some v) : ∀ t ∈ ts, t.kind ≠ .endOfText := by
  induction ts generalizing s with
  | nil => simp
  | cons t ts ih =>
    obtain ⟨u, hnext, hafter⟩ := Option.bind_eq_some_iff.1 h
    rw [List.forall_mem_cons]
    refine ⟨fun hkind => ?_, ih hafter⟩
    rw [State.next?_endOfText s hkind] at hnext
    cases hnext

/-- A run that gets through some tokens goes on from the state they lead to. -/
theorem State.run_append (h : s.after? ts = some v) :
    State.run stop s (ts ++ us) = State.run stop v us := by
  induction ts generalizing s with
  | nil =>
    obtain rfl := Option.some.inj h
    rfl
  | cons t ts ih =>
    have hkind := State.kind_ne_of_after? h t List.mem_cons_self
    obtain ⟨u, hnext, hafter⟩ := Option.bind_eq_some_iff.1 h
    rw [List.cons_append, State.run, if_neg hkind, hnext]
    exact ih hafter

theorem State.run_of_after? (h : s.after? ts = some v) (he : e.kind = .endOfText) :
    State.run stop s (ts ++ [e]) = v.finish e := by
  rw [State.run_append h, State.run, if_pos he]

/-- **A whole run.** The tokens of a run spell the state that it ends in. -/
theorem State.spelledBy_after? (h : s.SpelledBy ts) (hrun : s.after? us = some v) :
    v.SpelledBy (ts ++ us) := by
  induction us generalizing s ts with
  | nil =>
    obtain rfl := Option.some.inj hrun
    rwa [List.append_nil]
  | cons t us ih =>
    obtain ⟨u, hnext, hafter⟩ := Option.bind_eq_some_iff.1 hrun
    have hrest := ih (State.spelledBy_next? h hnext) hafter
    rwa [List.append_assoc, List.singleton_append] at hrest

end

/-! ## Criteria -/

/-- The state after a token that belongs to the criterion. -/
def CriterionState.more? (s : CriterionState) (t : Token) : Option CriterionState :=
  match s.next? t with
  | some (.more s) => some s
  | _ => none

/-- The state after tokens that all belong to the criterion. -/
def CriterionState.after? (s : CriterionState) (ts : List Token) : Option CriterionState :=
  ts.foldlM CriterionState.more? s

section

variable {s u v : CriterionState} {ts us : List Token} {t : Token}

theorem CriterionState.after?_cons (h : s.next? t = some (.more u)) (hts : u.after? ts = some v) :
    s.after? (t :: ts) = some v := by
  rw [CriterionState.after?, List.foldlM_cons, CriterionState.more?, h]
  exact hts

theorem CriterionState.after?_append (h : s.after? ts = some u) (hus : u.after? us = some v) :
    s.after? (ts ++ us) = some v := by
  rw [CriterionState.after?] at h
  rw [CriterionState.after?, List.foldlM_append, h]
  exact hus

/-- Inside a criterion the parser does what the criterion reader does. -/
theorem State.after?_criterion (form : Form) (h : s.after? ts = some v) :
    (State.criterion form s).after? ts = some (.criterion form v) := by
  induction ts generalizing s with
  | nil =>
    obtain rfl := Option.some.inj h
    rfl
  | cons t ts ih =>
    obtain ⟨u, hnext, hafter⟩ := Option.bind_eq_some_iff.1 h
    unfold CriterionState.more? at hnext
    split at hnext
    · next w hmore =>
      obtain rfl := Option.some.inj hnext
      refine State.after?_cons ?_ (ih hafter)
      rw [State.next?, criterion?, hmore]
    · cases hnext

end

/-! ### Tokens where an operand is due -/

section

variable {t : Token} (frames : List Frame)

theorem operand?_not (h : IsKeyword t .not) : operand? frames t = some (.operand (.not :: frames)) :=
  if_pos (Token.keyword?_eq_some_iff.2 h)

theorem operand?_openParen (h : t.kind = .openParen) :
    operand? frames t = some (.operand (.paren :: frames)) := by
  have hkeyword : t.keyword? = none := Token.keyword?_of_kind (by simp [h])
  rw [operand?, hkeyword, if_neg (by simp), if_pos h]

theorem operand?_technology {tech : Technology} (h : IsWord t tech) :
    operand? frames t = some (settle frames (.technology tech false)) := by
  have hkeyword : t.keyword? = none := Token.keyword?_of_kind (by simp [h.kind])
  rw [operand?, hkeyword, if_neg (by simp), if_neg (by simp [h.kind]),
    Token.identifier?_eq_some_iff.2 h]

theorem operand?_field {field : Field} (h : IsWord t field) :
    operand? frames t = some (.operator frames field) := by
  have hkeyword : t.keyword? = none := Token.keyword?_of_kind (by simp [h.kind])
  have htech : t.identifier? Vocabulary.ofWord? = (none : Option Technology) := by
    rw [Token.identifier?, if_pos h.kind, Vocabulary.technology_of_field h.text]
  rw [operand?, hkeyword, if_neg (by simp), if_neg (by simp [h.kind]), htech,
    Token.identifier?_eq_some_iff.2 h]
  rfl

theorem next?_of_operand? {s : CriterionState} (h : operand? frames t = some s) :
    (CriterionState.operand frames).next? t = some (.more s) := by
  rw [CriterionState.next?, h]
  rfl

theorem next?_and (c : Criterion) (h : IsKeyword t .and) :
    (CriterionState.complete frames c).next? t = some (.more (.operand (.and c :: frames))) :=
  if_pos (Token.keyword?_eq_some_iff.2 h)

end

/-- Where the tokens of a criterion lead, by how tightly it binds. An operand fills every hole that an
operand can fill; a term does too where no `NOT` or `AND` waits for it; a choice is read where a
criterion starts, and its last term stays open until something else follows. -/
def Leads (ts : List Token) (c : Criterion) : Rank → Prop
  | .operand => ∀ frames, (CriterionState.operand frames).after? ts = some (settle frames c)
  | .term => ∀ frames, Loose frames →
      (CriterionState.operand frames).after? ts = some (.complete frames c)
  | .choice => ∀ frames, Fresh frames → ∃ inner last,
      (CriterionState.operand frames).after? ts = some (.complete inner last) ∧
        closeOr inner last = (frames, c)

/-- **The reader follows every derivation of a criterion.** -/
theorem leads_of_spells {rank : Rank} {ts : List Token} {c : Criterion} (h : Spells rank ts c) :
    Leads ts c rank := by
  induction h with
  | technology word =>
    intro frames
    exact CriterionState.after?_cons (next?_of_operand? _ (operand?_technology _ word)) rfl
  | @compare t u v field op value left symbol right =>
    intro frames
    have hop : (CriterionState.operator frames field).next? u
        = some (.more (.value frames field op)) := by
      rw [CriterionState.next?, comparison?_eq_some_iff.2 symbol, Option.map_some]
    have hvalue : (CriterionState.value frames field op).next? v
        = some (.more (settle frames (.compare field op value false))) := by
      rw [CriterionState.next?, value?_eq_some_iff.2 right, Option.map_some]
    refine CriterionState.after?_cons (next?_of_operand? _ (operand?_field _ left)) ?_
    exact CriterionState.after?_cons hop (CriterionState.after?_cons hvalue rfl)
  | not keyword _ ih =>
    intro frames
    refine CriterionState.after?_cons (next?_of_operand? _ (operand?_not _ keyword)) ?_
    exact ih (.not :: frames)
  | @paren t u ts c opening _ closing ih =>
    intro frames
    obtain ⟨inner, last, hreads, hclose⟩ := ih (.paren :: frames) trivial
    refine CriterionState.after?_cons (next?_of_operand? _ (operand?_openParen _ opening)) ?_
    refine CriterionState.after?_append hreads (CriterionState.after?_cons ?_ rfl)
    -- the closing parenthesis also closes an `OR` that is still open inside
    have hkeyword : u.keyword? = none := Token.keyword?_of_kind (by simp [closing])
    simp [CriterionState.next?, afterOperand?, hkeyword, hclose, closing]
  | operand _ ih =>
    intro frames hloose
    rw [ih frames, settle_of_loose hloose]
  | and _ keyword _ ihl ihr =>
    intro frames hloose
    -- the left operand waits in a frame, which the right one completes at once
    refine CriterionState.after?_append (ihl frames hloose) ?_
    refine CriterionState.after?_cons (next?_and frames _ keyword) ?_
    rw [ihr, settle, settle_of_loose hloose]
  | term _ ih =>
    intro frames hfresh
    exact ⟨frames, _, ih frames hfresh.loose, closeOr_of_fresh hfresh _⟩
  | @or ts us t l r _ keyword _ ihl ihr =>
    intro frames hfresh
    -- the left operand may itself end in an open `OR`, which this one closes
    obtain ⟨inner, last, hreads, hclose⟩ := ihl frames hfresh
    have hor := Token.keyword?_eq_some_iff.2 keyword
    refine ⟨.or l :: frames, r, CriterionState.after?_append hreads ?_, rfl⟩
    refine CriterionState.after?_cons (u := .operand (.or l :: frames)) ?_ (ihr _ trivial)
    simp [CriterionState.next?, afterOperand?, hor, hclose]

/-! ## The clauses up to COUNT -/

section

variable {t : Token} {ts us : List Token} {r : Requirement} {fs : List Filter}

/-- A keyword is read wherever it stands as the one that is written. -/
theorem next?_of_isKeyword {k : Keyword} (s : State) (h : IsKeyword t k) :
    s.next? t = s.next? (Piece.keyword k).token := by
  have htoken : t.unplaced = (Piece.keyword k).token := by
    have hpiece : (Piece.keyword k).token = ⟨.keyword, k.text, {}⟩ := by cases k <;> decide
    rw [hpiece, Token.unplaced, h.kind, h.text]
  rw [← State.next?_unplaced, htoken]

/-- The criteria of a list lead to its last one, which is complete but for an open `OR`. -/
theorem after?_list (q : Quantifier) {cs : List Criterion}
    (h : Separated Comma (Spells .choice) ts cs) :
    ∃ done c inner last, cs = done ++ [c] ∧ closeOr inner last = ([], c) ∧
      (State.criterion (.listed q []) (.operand [])).after? ts
        = some (.criterion (.listed q done) (.complete inner last)) := by
  induction h with
  | @one ts c first =>
    obtain ⟨inner, last, hreads, hclose⟩ := leads_of_spells first [] trivial
    exact ⟨[], c, inner, last, rfl, hclose, State.after?_criterion _ hreads⟩
  | @more ts us vs cs c _ between item ih =>
    obtain ⟨done, d, inner, last, rfl, hclose, hbefore⟩ := ih
    obtain ⟨hcomma⟩ := between
    obtain ⟨inner', last', hreads, hclose'⟩ := leads_of_spells item [] trivial
    refine ⟨done ++ [d], c, inner', last', rfl, hclose', ?_⟩
    rw [List.append_assoc]
    refine State.after?_append hbefore (State.after?_cons ?_ (State.after?_criterion _ hreads))
    -- the comma moves the criterion in front of it to those that have been read
    have hkeyword := Token.keyword?_of_kind (by rw [hcomma]; decide)
    rw [next?_of_closeOr hclose _ (by simp [hkeyword]) (by simp [hkeyword]), afterCriterion?,
      if_pos hcomma]

/-- A criterion alone is read after `HAS` as it is anywhere else. -/
theorem after?_has {inner : List Frame} {last : Criterion}
    (h : (CriterionState.operand []).after? ts = some (.complete inner last)) :
    State.has.after? ts = some (.criterion .single (.complete inner last)) := by
  -- only the first token could be taken for something else, namely a quantifier
  cases ts with
  | nil => cases h
  | cons t ts =>
    obtain ⟨u, hmore, hafter⟩ := Option.bind_eq_some_iff.1 h
    unfold CriterionState.more? at hmore
    split at hmore
    · next w hnext =>
      obtain rfl := Option.some.inj hmore
      obtain ⟨x, hoperand, hx⟩ := Option.map_eq_some_iff.1 hnext
      obtain rfl := CriterionStep.more.inj hx
      exact State.after?_cons (next?_has_of_operand? hoperand) (State.after?_criterion _ hafter)
    · cases hmore

/-- The body of the `HAS` clause leads to where filters or the metric may follow. -/
theorem after?_requirement (h : SpellsRequirement ts r) :
    ∃ s, State.has.after? ts = some s ∧ s.HasRead r := by
  cases h with
  | single only =>
    obtain ⟨inner, last, hreads, hclose⟩ := leads_of_spells only [] trivial
    refine ⟨_, after?_has hreads, ?_, ?_⟩
    · exact next?_of_closeOr hclose .single (by decide) (by decide)
    · exact next?_of_closeOr hclose .single (by decide) (by decide)
  | @quantified t u v ts q cs keyword opening list closing =>
    obtain ⟨done, c, inner, last, rfl, hclose, hlist⟩ := after?_list q list
    have hq : State.has.next? t = some (.listOpen q) := by
      rw [State.next?, quantifier?_eq_some_iff.2 keyword]
    have hopen : (State.listOpen q).next? u = some (.criterion (.listed q []) (.operand [])) :=
      if_pos opening
    have hend : (State.criterion (.listed q done) (.complete inner last)).next? v
        = some (.required (.quantified q (done ++ [c]))) := by
      have hkeyword : v.keyword? = none := Token.keyword?_of_kind (by simp [closing])
      rw [next?_of_closeOr hclose _ (by simp [hkeyword]) (by simp [hkeyword]), afterCriterion?,
        if_neg (by simp [closing]), if_pos closing]
    refine ⟨.required (.quantified q (done ++ [c])), ?_, rfl, rfl⟩
    refine State.after?_cons hq (State.after?_cons hopen ?_)
    exact State.after?_append hlist (State.after?_singleton hend)

/-- A filter is read wherever one may start. -/
theorem after?_filter {s : State} {f : Filter}
    (hs : ∀ t s', filter? r fs t = some s' → s.next? t = some s') (h : SpellsFilter ts f) :
    s.after? ts = some (.filtered r (fs ++ [f])) := by
  cases h with
  | segment word =>
    refine State.after?_singleton (hs _ _ ?_)
    rw [filter?, Token.identifier?_eq_some_iff.2 word]
  | @compare t u v field op value left symbol right =>
    have hsegment : t.identifier? Vocabulary.ofWord? = (none : Option Segment) := by
      rw [Token.identifier?, if_pos left.kind, Vocabulary.segment_of_field left.text]
    have hfield : filter? r fs t = some (.filterOperator r fs field) := by
      rw [filter?, hsegment, Token.identifier?_eq_some_iff.2 left, Option.map_some]
    have hop : (State.filterOperator r fs field).next? u = some (.filterValue r fs field op) := by
      rw [State.next?, comparison?_eq_some_iff.2 symbol, Option.map_some]
    have hvalue : (State.filterValue r fs field op).next? v
        = some (.filtered r (fs ++ [.compare field op value])) := by
      rw [State.next?, value?_eq_some_iff.2 right, Option.map_some]
    exact State.after?_cons (hs _ _ hfield) (State.after?_cons hop (State.after?_singleton hvalue))

/-- After a filter, and the comma that may follow it, another one may start. -/
theorem after?_optionalComma (h : OptionalComma ts) :
    ∃ s, (State.filtered r fs).after? ts = some s ∧
      (∀ t s', filter? r fs t = some s' → s.next? t = some s') ∧
      ∀ t, IsKeyword t .count → s.next? t = some (.metric r fs) := by
  cases h with
  | absent =>
    refine ⟨_, rfl, fun t s' ht => ?_, fun t ht => ?_⟩
    · -- a token that starts a filter is a word, so it is no comma
      have hkind : t.kind ≠ .comma := by
        intro hcomma
        simp [filter?, Token.identifier?, hcomma] at ht
      rw [State.next?, if_neg hkind, ht]
      rfl
    · rw [next?_of_isKeyword _ ht]
      rfl
  | present hcomma =>
    refine ⟨.filterComma r fs, State.after?_singleton (if_pos hcomma), fun t s' ht => ?_,
      fun t ht => ?_⟩
    · rw [State.next?, ht]
      rfl
    · rw [next?_of_isKeyword _ ht]
      rfl

/-- The filters of a list are read one by one. -/
theorem after?_filters (h : Separated OptionalComma SpellsFilter ts fs) :
    (State.filter r).after? ts = some (.filtered r fs) := by
  induction h with
  | one item =>
    have hfirst : ∀ t s', filter? r [] t = some s' → (State.filter r).next? t = some s' :=
      fun _ _ ht => ht
    exact after?_filter hfirst item
  | more _ between item ih =>
    obtain ⟨s, hcomma, hfilter, -⟩ := after?_optionalComma between
    exact State.after?_append (State.after?_append ih hcomma) (after?_filter hfilter item)

/-- The `IN` clause, or nothing, leads to where `COUNT` is due. -/
theorem after?_inside {s : State} (hs : s.HasRead r) (h : Clause .inside [] SpellsFilters ts fs) :
    ∃ v, s.after? ts = some v ∧ ∀ t, IsKeyword t .count → v.next? t = some (.metric r fs) := by
  cases h with
  | absent => exact ⟨s, rfl, fun t ht => by rw [next?_of_isKeyword s ht, hs.count]⟩
  | @present t ts fs keyword rest =>
    obtain ⟨list, trailing⟩ := rest
    obtain ⟨v, hcomma, -, hcount⟩ :
        ∃ v, (State.filtered r fs).after? _ = some v ∧ _ := after?_optionalComma trailing
    have hinside : s.next? t = some (.filter r) := by rw [next?_of_isKeyword s keyword, hs.inside]
    exact ⟨v, State.after?_cons hinside (State.after?_append (after?_filters list) hcomma), hcount⟩

/-- The clauses up to `COUNT` are read. -/
theorem after?_population {m : Metric} (h : SpellsPopulation ts r fs m) :
    State.start.after? ts
      = some (.clause .metric { requirement := some r, filters := fs, metric := m }) := by
  obtain @⟨t, u, w, rs, is, _, _, _, has, requirement, filters, count, metric⟩ := h
  obtain ⟨s, hrequirement, hs⟩ := after?_requirement requirement
  obtain ⟨v, hfilters, hv⟩ := after?_inside hs filters
  have hmetric : (State.metric r fs).next? w
      = some (.clause .metric { requirement := some r, filters := fs, metric := m }) := by
    rw [State.next?, Token.identifier?_eq_some_iff.2 metric, Option.map_some]
  refine State.after?_cons (if_pos (Token.keyword?_eq_some_iff.2 has)) ?_
  refine State.after?_append (State.after?_append hrequirement hfilters) ?_
  exact State.after?_cons (hv _ count) (State.after?_singleton hmetric)

end

/-! ## The clauses after COUNT -/

section

variable {s : State} {ts : List Token} {q : Query}

/-- One clause after `COUNT`: its keyword and its body are read, or it is left out and changes
nothing. -/
theorem State.Ready.after?_clause {α : Type} {k : Keyword} {default a : α}
    {body : List Token → α → Prop} {stage next : Stage} {u : State}
    (set : α → Query) (h : s.Ready stage q) (hc : Clause k default body ts a) (hrank : stage.rank ≤ next.rank)
    (hopen : ∀ last : Stage, last.rank ≤ stage.rank → clause? last q (Piece.keyword k).token = some u)
    (hbody : ∀ ts a, body ts a → ∃ v, u.after? ts = some v ∧ v.Ready next (set a))
    (hskip : set default = q) : ∃ v, s.after? ts = some v ∧ v.Ready next (set a) := by
  cases hc with
  | absent => exact ⟨s, rfl, hskip ▸ h.mono hrank⟩
  | present keyword rest =>
    -- the clause in front may be any earlier one, and this one may follow all of them
    obtain ⟨last, hlast, hnext⟩ := h.next
    obtain ⟨v, hafter, hready⟩ := hbody _ _ rest
    refine ⟨v, State.after?_cons ?_ hafter, hready⟩
    rw [next?_of_isKeyword s keyword, hnext k, hopen last hlast]

theorem after?_grouping {g : Grouping} (h : s.Ready .metric q) (hq : q.grouping = .national)
    (hc : Clause .groupBy .national SpellsWord ts g) :
    ∃ v, s.after? ts = some v ∧ v.Ready .grouping { q with grouping := g } := by
  refine h.after?_clause (fun g => { q with grouping := g }) hc (by decide)
    (fun last hlast => if_pos (Nat.lt_succ_of_le hlast)) ?_ (by rw [← hq])
  rintro us g ⟨word⟩
  refine ⟨_, State.after?_singleton ?_, State.ready_clause _ _⟩
  rw [State.next?, Token.identifier?_eq_some_iff.2 word, Option.map_some]

theorem after?_figures {f : Figures} (h : s.Ready .grouping q) (hq : q.figures = .both)
    (hc : Clause .display .both (SpellsWordOrCount .count) ts f) :
    ∃ v, s.after? ts = some v ∧ v.Ready .figures { q with figures := f } := by
  refine h.after?_clause (fun f => { q with figures := f }) hc (by decide)
    (fun last hlast => if_pos (Nat.lt_succ_of_le hlast)) ?_ (by rw [← hq])
  intro us f hf
  obtain ⟨t, rfl⟩ := hf.singleton
  have hfigures : figures? t = some f := wordOrCount_eq_some_iff.2 hf
  refine ⟨_, State.after?_singleton ?_, State.ready_clause _ _⟩
  rw [State.next?, hfigures, Option.map_some]

theorem after?_sorting {o : Sorting} (h : s.Ready .figures q) (hq : q.sorting = {})
    (hc : Clause .sort {} SpellsSorting ts o) :
    ∃ v, s.after? ts = some v ∧ v.Ready .sorting { q with sorting := o } := by
  refine h.after?_clause (fun o => { q with sorting := o }) hc (by decide)
    (fun last hlast => if_pos (Nat.lt_succ_of_le hlast)) ?_ (by rw [← hq])
  have hkey : ∀ us k, SpellsWordOrCount .count us k →
      (State.sortKey q).after? us = some (.direction { q with sorting := { key := k } }) := by
    intro us k hk
    obtain ⟨t, rfl⟩ := hk.singleton
    have hsortKey : sortKey? t = some k := wordOrCount_eq_some_iff.2 hk
    refine State.after?_singleton ?_
    rw [State.next?, hsortKey, Option.map_some]
  intro us o ho
  cases ho with
  | ascending key => exact ⟨_, hkey _ _ key, State.ready_direction _⟩
  | directed key direction =>
    refine ⟨_, State.after?_append (hkey _ _ key) (State.after?_singleton ?_), State.ready_clause _ _⟩
    rw [State.next?, Token.identifier?_direction_iff.2 direction]

theorem after?_limit {n : Option Nat} (h : s.Ready .sorting q) (hq : q.limit = none)
    (hc : Clause .top none SpellsLimit ts n) :
    ∃ v, s.after? ts = some v ∧ v.Ready .limit { q with limit := n } := by
  refine h.after?_clause (fun n => { q with limit := n }) hc (by decide)
    (fun last hlast => if_pos (Nat.lt_succ_of_le hlast)) ?_ (by rw [← hq])
  rintro us n ⟨limit⟩
  refine ⟨_, State.after?_singleton ?_, State.ready_clause _ _⟩
  rw [State.next?, limit?_eq_some_iff.2 limit, Option.map_some]

/-- The years of a list are read one by one. -/
theorem after?_years {ys : List Int} (h : Separated Comma SpellsYear ts ys) :
    (State.listedYear q []).after? ts = some (.listedYears q ys) := by
  have hyear : ∀ done us y, SpellsYear us y →
      (State.listedYear q done).after? us = some (.listedYears q (done ++ [y])) := by
    rintro done us y ⟨year⟩
    refine State.after?_singleton ?_
    rw [State.next?, year?_eq_some_iff.2 year, Option.map_some]
  induction h with
  | one item => exact hyear [] _ _ item
  | more _ between item ih =>
    obtain ⟨hcomma⟩ := between
    refine State.after?_append (State.after?_append ih (State.after?_singleton ?_)) (hyear _ _ _ item)
    rw [State.next?, if_pos hcomma]

theorem after?_period {p : Option Period} (h : s.Ready .limit q) (hq : q.period = none)
    (hc : Clause .period none SpellsPeriod ts p) :
    ∃ v, s.after? ts = some v ∧ v.Ready .period { q with period := p } := by
  refine h.after?_clause (fun p => { q with period := p }) hc (by decide)
    (fun last hlast => if_pos (Nat.lt_succ_of_le hlast)) ?_ (by rw [← hq])
  intro us p hp
  suffices hafter : (State.period q).after? us = some (.clause .period { q with period := p }) from
    ⟨_, hafter, State.ready_clause _ _⟩
  cases hp with
  | single year =>
    refine State.after?_singleton ?_
    rw [State.next?, period?, if_neg (by simp [year.kind]), if_neg (by simp [year.kind]),
      year?_eq_some_iff.2 year, Option.map_some]
  | list opening list closing =>
    refine State.after?_cons (u := .listedYear q []) (if_pos opening) ?_
    refine State.after?_append (after?_years list) (State.after?_singleton ?_)
    rw [State.next?, if_neg (by simp [closing]), if_pos closing]
  | @compare t u v op y column symbol year =>
    have hcolumn : (State.period q).next? t = some (.yearOperator q) := by
      have hname : yearNames.contains t.text = true := by
        rcases column.text with htext | htext <;> rw [htext] <;> decide
      rw [State.next?, period?, if_neg (by simp [column.kind]), if_pos column.kind, if_pos hname]
    have hop : (State.yearOperator q).next? u = some (.yearValue q op) := by
      rw [State.next?, comparison?_eq_some_iff.2 symbol, Option.map_some]
    have hvalue : (State.yearValue q op).next? v
        = some (.clause .period { q with period := some (.compare op y) }) := by
      rw [State.next?, year?_eq_some_iff.2 year, Option.map_some]
    exact State.after?_cons hcolumn (State.after?_cons hop (State.after?_singleton hvalue))

/-- **The parser follows every derivation of a query**, clause by clause. -/
theorem after?_query (h : SpellsQuery ts q) :
    ∃ us e v, ts = us ++ [e] ∧ e.kind = .endOfText ∧ State.start.after? us = some v ∧
      v.query? = some q := by
  obtain @⟨_, _, _, _, _, _, _, _, r, requirement, population, grouping, figures, sorting, limit, period,
    ending⟩ := h
  have hpopulation := after?_population population
  -- every clause starts where the one before it has ended, with the defaults of those after it
  have hstart := State.ready_clause .metric
    { requirement := some r, filters := q.filters, metric := q.metric }
  obtain ⟨s₁, hafter₁, hs₁⟩ := after?_grouping hstart rfl grouping
  obtain ⟨s₂, hafter₂, hs₂⟩ := after?_figures hs₁ rfl figures
  obtain ⟨s₃, hafter₃, hs₃⟩ := after?_sorting hs₂ rfl sorting
  obtain ⟨s₄, hafter₄, hs₄⟩ := after?_limit hs₃ rfl limit
  obtain ⟨s₅, hafter₅, hs₅⟩ := after?_period hs₄ rfl period
  refine ⟨_, _, s₅, rfl, ending, ?_, ?_⟩
  · have h₁ := State.after?_append hpopulation hafter₁
    have h₂ := State.after?_append h₁ hafter₂
    have h₃ := State.after?_append h₂ hafter₃
    have h₄ := State.after?_append h₃ hafter₄
    exact State.after?_append h₄ hafter₅
  · rw [hs₅.query, ← requirement]

end

end Broadband.Parser

namespace Broadband

open Broadband.Grammar Broadband.Parser

/-- The end of the text is the last token, and the only one of its kind. -/
def Token.EndOnce (ts : List Token) : Prop :=
  ∃ us e, ts = us ++ [e] ∧ e.kind = .endOfText ∧ ∀ t ∈ us, t.kind ≠ .endOfText

variable {ts : List Token} {q : Query}

/-- Tokens that spell a query are read as that query. -/
theorem Query.ofTokens_of_spells (h : SpellsQuery ts q) : Query.ofTokens ts = .ok q := by
  obtain ⟨us, e, v, rfl, he, hafter, hq⟩ := after?_query h
  rw [Query.ofTokens, State.run_of_after? hafter he, State.finish, hq]

/-- Tokens that are read as a query spell it. -/
theorem Query.spells_of_ofTokens (hts : Token.EndOnce ts) (h : Query.ofTokens ts = .ok q) :
    SpellsQuery ts q := by
  obtain ⟨us, e, rfl, he, hus⟩ := hts
  obtain ⟨v, hafter, hrun⟩ | ⟨_, _, _, _, _, _, _, hrun⟩ := State.run_cases .start hus he
  · have hfinish : v.finish e = .ok q := hrun.symm.trans h
    have hstart : State.start.SpelledBy [] := rfl
    have hspelled : v.SpelledBy us := State.spelledBy_after? hstart hafter
    unfold State.finish at hfinish
    split at hfinish
    · next q' hq =>
      obtain rfl := Except.ok.inj hfinish
      exact hspelled.spellsQuery hq he
    · cases hfinish
  · rw [Query.ofTokens, hrun] at h
    cases h

/-- **The parser accepts exactly its grammar.** Of tokens that end once, those that are read as a
query are the ones that spell it; and no tokens spell two queries. -/
theorem Query.ofTokens_eq_ok_iff_spells :
    (∀ ts : List Token, Token.EndOnce ts → ∀ q, Query.ofTokens ts = .ok q ↔ SpellsQuery ts q) ∧
      ∀ (ts : List Token) (q q' : Query), SpellsQuery ts q → SpellsQuery ts q' → q = q' := by
  refine ⟨fun ts hts q => ⟨Query.spells_of_ofTokens hts, Query.ofTokens_of_spells⟩, ?_⟩
  intro ts q q' hq hq'
  have hread := Query.ofTokens_of_spells hq
  rw [Query.ofTokens_of_spells hq'] at hread
  exact (Except.ok.inj hread).symm

/-- The tokens of a query with synonyms, an `AND` under an `OR` in parentheses, a technology as a
value, a trailing comma and the word `count` as a sort key. -/
def Query.wordyTokens : List Token :=
  [⟨.keyword, "HAS", {}⟩, ⟨.keyword, "NOT", {}⟩, ⟨.openParen, "(", {}⟩, ⟨.identifier, "kabel", {}⟩,
   ⟨.keyword, "OR", {}⟩, ⟨.identifier, "ftb", {}⟩, ⟨.keyword, "AND", {}⟩, ⟨.identifier, "nedhast", {}⟩,
   ⟨.operator, ">=", {}⟩, ⟨.number, "0100", {}⟩, ⟨.closeParen, ")", {}⟩, ⟨.keyword, "IN", {}⟩,
   ⟨.identifier, "tett", {}⟩, ⟨.identifier, "tek", {}⟩, ⟨.operator, "=", {}⟩,
   ⟨.identifier, "ftb", {}⟩, ⟨.comma, ",", {}⟩, ⟨.keyword, "COUNT", {}⟩, ⟨.identifier, "hus", {}⟩,
   ⟨.keyword, "SORT", {}⟩, ⟨.keyword, "COUNT", {}⟩, ⟨.identifier, "desc", {}⟩,
   ⟨.keyword, "FOR", {}⟩, ⟨.openParen, "(", {}⟩, ⟨.number, "2023", {}⟩, ⟨.comma, ",", {}⟩,
   ⟨.number, "2024", {}⟩, ⟨.closeParen, ")", {}⟩, ⟨.endOfText, "", {}⟩]

/-- The query that they spell. -/
def Query.wordy : Query where
  requirement := some (.single (.not (.join .or (.technology .cable false)
    (.join .and (.technology .fixedWireless false) (.compare .download .ge (.number 100) false)))))
  filters := [.segment .urban, .compare .technology .eq (.text "fwa")]
  metric := .homes
  sorting := { key := .count, direction := .desc }
  period := some (.years [2023, 2024])

theorem Query.spells_wordy :
    Token.EndOnce Query.wordyTokens ∧ SpellsQuery Query.wordyTokens Query.wordy ∧
      ∀ q, SpellsQuery Query.wordyTokens q → q = Query.wordy := by
  have hend : Token.EndOnce Query.wordyTokens :=
    ⟨Query.wordyTokens.dropLast, ⟨.endOfText, "", {}⟩, rfl, rfl, by decide⟩
  have hread : Query.ofTokens Query.wordyTokens = .ok Query.wordy := by rfl
  have hspells := (Query.ofTokens_eq_ok_iff_spells.1 _ hend _).1 hread
  exact ⟨hend, hspells, fun q hq => Query.ofTokens_eq_ok_iff_spells.2 _ _ _ hq hspells⟩

end Broadband
