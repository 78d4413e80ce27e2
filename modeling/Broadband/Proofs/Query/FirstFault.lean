import Broadband.Proofs.Query.Acceptance

/-!
# Errors stand at the first fault

A query that is not accepted is rejected at the first token that cannot stand where it does: nothing
behind that token matters to the error, and everything in front of it is the start of some query.

The first half is in the nature of a machine that takes one token at a time. The second half says
that the parser never enters a state that leads nowhere: from every state there are tokens that
complete a query. Most states need a word or two. Inside a criterion the open frames have to be
closed, and since an operand settles `NOT` and `AND` at once and a parenthesis closes its `OR` too,
one closing parenthesis for each open one is enough.
-/

namespace Broadband.Parser

/-! ## Every state can be completed -/

/-- Some tokens lead from the state to a query. -/
def State.Completable (s : State) : Prop :=
  ∃ ts v q, s.after? ts = some v ∧ v.query? = some q

section

variable {s u : State} {t : Token}

theorem State.Completable.of_query? {q : Query} (h : s.query? = some q) : s.Completable :=
  ⟨[], s, q, rfl, h⟩

theorem State.Completable.of_next? (h : s.next? t = some u) (hu : u.Completable) : s.Completable := by
  obtain ⟨ts, v, q, hafter, hq⟩ := hu
  exact ⟨t :: ts, v, q, State.after?_cons h hafter, hq⟩

end

theorem State.completable_metric (r : Requirement) (fs : List Filter) :
    (State.metric r fs).Completable := by
  refine .of_next? (t := ⟨.identifier, "hus", {}⟩) (u := .clause .metric _) rfl ?_
  exact .of_query? rfl

theorem State.completable_required (r : Requirement) : (State.required r).Completable :=
  .of_next? (t := ⟨.keyword, "COUNT", {}⟩) rfl (State.completable_metric r [])

theorem State.completable_filtered (r : Requirement) (fs : List Filter) :
    (State.filtered r fs).Completable :=
  .of_next? (t := ⟨.keyword, "COUNT", {}⟩) rfl (State.completable_metric r fs)

theorem State.completable_filterValue (r : Requirement) (fs : List Filter) (field : Field)
    (op : Comparison) : (State.filterValue r fs field op).Completable :=
  .of_next? (t := ⟨.string, "", {}⟩) rfl (State.completable_filtered r _)

/-! ### Criteria -/

theorem exists_settle_eq (frames : List Frame) (c : Criterion) :
    ∃ inner d, settle frames c = .complete inner d ∧ inner.length ≤ frames.length := by
  fun_induction settle frames c with
  | case1 c frames ih =>
    obtain ⟨inner, d, hsettle, hlength⟩ := ih
    refine ⟨inner, d, hsettle, ?_⟩
    rw [List.length_cons]
    omega
  | case2 c left frames ih =>
    obtain ⟨inner, d, hsettle, hlength⟩ := ih
    refine ⟨inner, d, hsettle, ?_⟩
    rw [List.length_cons]
    omega
  | case3 frames c _ _ => exact ⟨frames, c, rfl, Nat.le_refl _⟩

theorem length_closeOr_le (frames : List Frame) (c : Criterion) :
    (closeOr frames c).1.length ≤ frames.length := by
  fun_cases closeOr frames c with
  | case1 left frames => exact Nat.le_succ _
  | case2 _ => exact Nat.le_refl _

/-- A criterion that has ended leaves nothing open. -/
theorem State.exists_afterCriterion? (form : Form) (c : Criterion) :
    ∃ t u, t.keyword? ≠ some .and ∧ t.keyword? ≠ some .or ∧ afterCriterion? form c t = some u ∧
      u.Completable := by
  cases form with
  | single =>
    exact ⟨⟨.keyword, "COUNT", {}⟩, _, by decide, by decide, rfl, State.completable_metric _ _⟩
  | listed q done =>
    exact ⟨⟨.closeParen, ")", {}⟩, _, by decide, by decide, rfl, State.completable_required _⟩

/-- After a complete operand the open parentheses are closed one by one. -/
theorem State.completable_complete (form : Form) (frames : List Frame) (c : Criterion) :
    (State.criterion form (.complete frames c)).Completable := by
  -- the induction is on the number of open frames, of which a closing parenthesis removes one
  induction hn : frames.length using Nat.strongRecOn generalizing frames c with
  | ind n ih =>
  have hlength := length_closeOr_le frames c
  rcases hclose : closeOr frames c with ⟨outer, joined⟩
  rw [hclose] at hlength
  by_cases hparen : ∃ rest, outer = .paren :: rest
  · obtain ⟨rest, rfl⟩ := hparen
    obtain ⟨inner, d, hsettle, hinner⟩ := exists_settle_eq rest joined
    have hstep : (State.criterion form (.complete frames c)).next? ⟨.closeParen, ")", {}⟩
        = some (.criterion form (.complete inner d)) := by
      have hand : (Token.mk .closeParen ")" {}).keyword? ≠ some .and := by decide
      have hor : (Token.mk .closeParen ")" {}).keyword? ≠ some .or := by decide
      simp only [State.next?, criterion?, CriterionState.next?, afterOperand?, if_neg hand, hclose,
        if_neg hor, if_pos, hsettle]
    rw [List.length_cons] at hlength
    exact .of_next? hstep (ih inner.length (by omega) inner d rfl)
  · obtain ⟨t, u, hand, hor, hafter, hu⟩ := State.exists_afterCriterion? form joined
    refine .of_next? (t := t) (u := u) ?_ hu
    simp only [State.next?, criterion?, CriterionState.next?, afterOperand?, if_neg hand, hclose,
      if_neg hor]
    cases outer with
    | nil => exact hafter
    | cons frame rest =>
      cases frame with
      | paren => exact absurd ⟨rest, rfl⟩ hparen
      | _ => exact hafter

theorem State.completable_criterion (form : Form) (cs : CriterionState) :
    (State.criterion form cs).Completable := by
  have hsettle : ∀ frames c, (State.criterion form (settle frames c)).Completable := by
    intro frames c
    obtain ⟨inner, d, hsettle, -⟩ := exists_settle_eq frames c
    rw [hsettle]
    exact State.completable_complete form inner d
  have hvalue : ∀ frames field op, (State.criterion form (.value frames field op)).Completable :=
    fun frames field op => .of_next? (t := ⟨.string, "", {}⟩) rfl (hsettle frames _)
  cases cs with
  | operand frames => exact .of_next? (t := ⟨.identifier, "fiber", {}⟩) rfl (hsettle frames _)
  | operator frames field =>
    exact .of_next? (t := ⟨.operator, "=", {}⟩) rfl (hvalue frames field .eq)
  | value frames field op => exact hvalue frames field op
  | complete frames c => exact State.completable_complete form frames c

/-! ### All states -/

/-- **No state leads nowhere.** -/
theorem State.completable (s : State) : s.Completable := by
  have hhas : State.has.Completable :=
    .of_next? (t := ⟨.identifier, "fiber", {}⟩) rfl (State.completable_criterion .single _)
  have hclause : ∀ stage q, (State.clause stage q).Completable := fun _ _ => .of_query? rfl
  have hyears : ∀ q ys, (State.listedYears q ys).Completable :=
    fun q ys => .of_next? (t := ⟨.closeParen, ")", {}⟩) rfl (hclause _ _)
  have hyear : ∀ q op, (State.yearValue q op).Completable :=
    fun q op => .of_next? (t := ⟨.number, "2024", {}⟩) rfl (hclause _ _)
  cases s with
  | start => exact .of_next? (t := ⟨.keyword, "HAS", {}⟩) rfl hhas
  | has => exact hhas
  | listOpen q =>
    exact .of_next? (t := ⟨.openParen, "(", {}⟩) rfl (State.completable_criterion (.listed q []) _)
  | criterion form cs => exact State.completable_criterion form cs
  | required r => exact State.completable_required r
  | filter r =>
    exact .of_next? (t := ⟨.identifier, "tett", {}⟩) rfl (State.completable_filtered r _)
  | filterOperator r fs field =>
    exact .of_next? (t := ⟨.operator, "=", {}⟩) rfl (State.completable_filterValue r fs field .eq)
  | filterValue r fs field op => exact State.completable_filterValue r fs field op
  | filtered r fs => exact State.completable_filtered r fs
  | filterComma r fs =>
    exact .of_next? (t := ⟨.keyword, "COUNT", {}⟩) rfl (State.completable_metric r fs)
  | metric r fs => exact State.completable_metric r fs
  | clause stage q => exact hclause stage q
  | grouping q => exact .of_next? (t := ⟨.identifier, "fylke", {}⟩) rfl (hclause _ _)
  | figures q => exact .of_next? (t := ⟨.keyword, "COUNT", {}⟩) rfl (hclause _ _)
  | sortKey q =>
    exact .of_next? (t := ⟨.keyword, "COUNT", {}⟩) (u := .direction _) rfl (.of_query? rfl)
  | direction q => exact .of_query? rfl
  | limit q => exact .of_next? (t := ⟨.number, "1", {}⟩) rfl (hclause _ _)
  | period q => exact .of_next? (t := ⟨.number, "2024", {}⟩) rfl (hclause _ _)
  | listedYear q ys => exact .of_next? (t := ⟨.number, "2024", {}⟩) rfl (hyears q _)
  | listedYears q ys => exact hyears q ys
  | yearOperator q => exact .of_next? (t := ⟨.operator, "=", {}⟩) rfl (hyear q .eq)
  | yearValue q op => exact hyear q op

/-! ## Where a run stops -/

/-- The token is neither the next one of a query nor the end of one. -/
def State.Refuses (s : State) (t : Token) : Prop :=
  s.next? t = none ∧ (t.kind = .endOfText → s.query? = none)

section

variable {s v : State} {us vs : List Token} {t e stop : Token} {x : SyntaxError}

/-- A refused token is the error, whatever follows it. -/
theorem State.run_of_refuses (h : s.after? us = some v) (ht : v.Refuses t) :
    State.run stop s (us ++ t :: vs) = .error ⟨v.complaint t, t⟩ := by
  rw [State.run_append h, State.run]
  by_cases hkind : t.kind = .endOfText
  · rw [if_pos hkind, State.finish, ht.2 hkind]
  · rw [if_neg hkind, ht.1]

/-- A run that fails has refused a token. -/
theorem State.refuses_of_run {ts : List Token} (hts : ∀ t ∈ ts, t.kind ≠ .endOfText)
    (he : e.kind = .endOfText) (h : State.run stop s (ts ++ [e]) = .error x) :
    ∃ us t vs v, ts ++ [e] = us ++ t :: vs ∧ s.after? us = some v ∧ v.Refuses t ∧
      x = ⟨v.complaint t, t⟩ := by
  obtain ⟨v, hafter, hrun⟩ | ⟨us, t, vs, v, rfl, hafter, hstop, hrun⟩ := State.run_cases s hts he
  · refine ⟨ts, e, [], v, rfl, hafter, ?_⟩
    have hfinish : v.finish e = .error x := hrun.symm.trans h
    unfold State.finish at hfinish
    split at hfinish
    · cases hfinish
    · next hquery =>
      exact ⟨⟨v.next?_endOfText he, fun _ => hquery⟩, (Except.error.inj hfinish).symm⟩
  · refine ⟨us, t, vs ++ [e], v, by simp, hafter, ⟨hstop, fun hkind => ?_⟩, ?_⟩
    · exact absurd hkind (hts t (by simp))
    · exact Except.error.inj (h.symm.trans hrun)

end

end Broadband.Parser

namespace Broadband

open Broadband.Parser

/-- **An error stands at the first fault.** Where tokens that end once are rejected, the error is about
one of them and carries its place; tokens that agree up to that one are rejected with the same error,
whatever follows; and what stands in front of it is the start of tokens that are accepted. -/
theorem Query.ofTokens_error_at_firstFault (ts : List Token) (e : SyntaxError)
    (hts : Token.EndOnce ts) (h : Query.ofTokens ts = .error e) :
    ∃ k t, ts[k]? = some t ∧ e.found = t ∧ e.position = t.position ∧
      (∀ us, Token.EndOnce us → us.take (k + 1) = ts.take (k + 1) → Query.ofTokens us = .error e) ∧
      ∃ us q, Token.EndOnce (ts.take k ++ us) ∧ Query.ofTokens (ts.take k ++ us) = .ok q := by
  obtain ⟨before, stop, rfl, hstop, hbefore⟩ := hts
  obtain ⟨us, t, vs, v, htokens, hafter, hrefuses, rfl⟩ := State.refuses_of_run hbefore hstop h
  rw [htokens]
  have htake : (us ++ t :: vs).take us.length = us := List.take_left' rfl
  refine ⟨us.length, t, by simp, rfl, rfl, ?_, ?_⟩
  · -- what agrees up to the token starts with the same run
    intro ws _ hws
    have hsplit : ws = us ++ t :: ws.drop (us.length + 1) := by
      have hshared : ws.take (us.length + 1) = us ++ [t] := by
        rw [hws, List.append_cons]
        exact List.take_left' (by simp)
      have hws' := List.take_append_drop (us.length + 1) ws
      rw [hshared, List.append_assoc, List.singleton_append] at hws'
      exact hws'.symm
    rw [hsplit, Query.ofTokens]
    exact State.run_of_refuses hafter hrefuses
  · -- the state in front of the token can be completed
    obtain ⟨ws, w, q, hws, hq⟩ := State.completable v
    have hrun := State.after?_append hafter hws
    refine ⟨ws ++ [⟨.endOfText, "", {}⟩], q, ?_, ?_⟩
    · rw [htake, ← List.append_assoc]
      exact ⟨us ++ ws, _, rfl, rfl, State.kind_ne_of_after? hrun⟩
    · rw [htake, ← List.append_assoc, Query.ofTokens, State.run_of_after? hrun rfl, State.finish, hq]

/-- The tokens of a query that leaves a parenthesis open and names no metric. -/
def Query.unclosedTokens : List Token :=
  [⟨.keyword, "HAS", ⟨0, 1, 1⟩⟩, ⟨.openParen, "(", ⟨4, 1, 5⟩⟩, ⟨.identifier, "fiber", ⟨5, 1, 6⟩⟩,
   ⟨.keyword, "OR", ⟨11, 2, 1⟩⟩, ⟨.identifier, "5g", ⟨14, 2, 4⟩⟩, ⟨.keyword, "COUNT", ⟨17, 2, 7⟩⟩,
   ⟨.keyword, "COUNT", ⟨23, 2, 13⟩⟩, ⟨.endOfText, "", ⟨28, 2, 18⟩⟩]

/-- It is rejected at the first `COUNT`, where the parenthesis had to close. -/
theorem Query.ofTokens_error_unclosed :
    Token.EndOnce Query.unclosedTokens ∧
      Query.ofTokens Query.unclosedTokens
        = .error ⟨.expected (.kind .closeParen), ⟨.keyword, "COUNT", ⟨17, 2, 7⟩⟩⟩ ∧
      ∃ k t, Query.unclosedTokens[k]? = some t ∧ t.text = "COUNT" ∧ t.position = ⟨17, 2, 7⟩ ∧
        ∃ us q, Token.EndOnce (Query.unclosedTokens.take k ++ us) ∧
          Query.ofTokens (Query.unclosedTokens.take k ++ us) = .ok q := by
  have hend : Token.EndOnce Query.unclosedTokens :=
    ⟨Query.unclosedTokens.dropLast, ⟨.endOfText, "", ⟨28, 2, 18⟩⟩, rfl, rfl, by decide⟩
  have herror : Query.ofTokens Query.unclosedTokens
      = .error ⟨.expected (.kind .closeParen), ⟨.keyword, "COUNT", ⟨17, 2, 7⟩⟩⟩ := by rfl
  obtain ⟨k, t, hk, hfound, -, -, hcompletes⟩ := Query.ofTokens_error_at_firstFault _ _ hend herror
  exact ⟨hend, herror, k, t, hk, hfound ▸ rfl, hfound ▸ rfl, hcompletes⟩

end Broadband
