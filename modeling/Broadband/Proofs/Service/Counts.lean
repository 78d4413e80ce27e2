import Broadband.Service
import Mathlib.Data.List.Basic

/-!
# What the service counts

Every request for compilation ends in one of three ways, and the service counts it under that one.
The three ways are said of a request and its response (`EndedIn`), without the verdict by which the
service arrives at the response: it was answered 200; it was answered 400 and holds no query; it was
answered 400 and holds a query that does not compile. What a single request does to the counters is
then carried over any number of requests (`count_handleAll`), and the report of the counters is
taken at any place among them.
-/

namespace Broadband.Service

/-! ## One request -/

/-- The request asks for a query to be compiled. -/
def Request.IsCompile (r : Request) : Prop := r.method = "POST" ∧ path r.target = "/api/compile"

instance (r : Request) : Decidable r.IsCompile := inferInstanceAs (Decidable (_ ∧ _))

/-- No query can be taken from the request: its body is no order, or the order has no query. -/
def Request.Unusable (r : Request) : Prop := r.order?.bind Order.query? = none

instance (r : Request) : Decidable r.Unusable := inferInstanceAs (Decidable (_ = _))

/-- The request holds a query that cannot be compiled with its options. -/
def Request.Refused (defaults : Options) (r : Request) : Prop :=
  ∃ o ∈ r.order?, ∃ query ∈ o.query?, (compile query (o.override defaults)).isOk = false

instance (defaults : Options) (r : Request) : Decidable (r.Refused defaults) :=
  inferInstanceAs (Decidable (∃ o ∈ r.order?, ∃ query ∈ o.query?, _))

/-- A request for compilation and its response: how it ended. -/
def EndedIn (defaults : Options) (x : Request × Response) : Outcome → Prop
  | .success => x.1.IsCompile ∧ x.2.status = 200
  | .invalidRequest => x.1.IsCompile ∧ x.2.status = 400 ∧ x.1.Unusable
  | .compileError => x.1.IsCompile ∧ x.2.status = 400 ∧ x.1.Refused defaults

instance (defaults : Options) (x : Request × Response) : DecidablePred (EndedIn defaults x)
  | .success => inferInstanceAs (Decidable (_ ∧ _))
  | .invalidRequest => inferInstanceAs (Decidable (_ ∧ _ ∧ _))
  | .compileError => inferInstanceAs (Decidable (_ ∧ _ ∧ _))

section

variable {s : Service} {r : Request} {defaults : Options}

theorem ofPath?_eq_compile_iff {p : String} :
    Route.ofPath? p = some .compile ↔ p = "/api/compile" := by
  unfold Route.ofPath?
  split <;> simp_all

/-- A request for compilation is answered by its verdict and counted under its outcome. -/
theorem handle_of_isCompile (h : r.IsCompile) :
    s.handle r = ((Verdict.ofRequest s.options r).response,
      { s with tally := s.tally.add (Verdict.ofRequest s.options r).outcome }) := by
  have hmethod : (r.method == "OPTIONS") = false := by
    rw [h.1]
    rfl
  rw [handle, hmethod, if_neg Bool.false_ne_true, route, ofPath?_eq_compile_iff.2 h.2, h.1]
  rfl

/-- No other request is counted, and nothing else changes either. -/
theorem handle_of_not_isCompile (h : ¬ r.IsCompile) : (s.handle r).2 = s := by
  unfold handle
  split
  · rfl
  unfold route
  split
  · rfl
  · rfl
  · rfl
  · next hroute =>
    have hmethod : ¬ r.method = "POST" := fun hpost => h ⟨hpost, ofPath?_eq_compile_iff.1 hroute⟩
    simp [hmethod]

theorem handle_options (s : Service) (r : Request) : (s.handle r).2.options = s.options := by
  by_cases h : r.IsCompile
  · rw [handle_of_isCompile h]
  · rw [handle_of_not_isCompile h]

/-- The verdict on a request, by what the request holds. -/
theorem Verdict.ofRequest_cases (defaults : Options) (r : Request) :
    (∃ o ∈ r.order?, ∃ query ∈ o.query?, ∃ sql, compile query (o.override defaults) = .ok sql ∧
        ofRequest defaults r = .compiled sql) ∨
      (r.Unusable ∧ ofRequest defaults r = .invalid) ∨
      ∃ o ∈ r.order?, ∃ query ∈ o.query?, ∃ e, compile query (o.override defaults) = .error e ∧
        ofRequest defaults r = .failed e := by
  rw [ofRequest, Request.Unusable]
  cases r.order? with
  | none => exact .inr (.inl ⟨rfl, rfl⟩)
  | some o =>
    rw [Option.bind_some]
    dsimp only
    rw [ofOrder]
    cases hquery : o.query? with
    | none => exact .inr (.inl ⟨rfl, rfl⟩)
    | some query =>
      dsimp only
      cases hcompile : compile query (o.override defaults) with
      | ok sql => exact .inl ⟨o, rfl, query, hquery, sql, hcompile, rfl⟩
      | error e => exact .inr (.inr ⟨o, rfl, query, hquery, e, hcompile, rfl⟩)

/-- A query that is refused has been taken from the request. -/
theorem Request.Refused.not_unusable (h : r.Refused defaults) : ¬ r.Unusable := by
  obtain ⟨o, ho, query, hquery, -⟩ := h
  rw [Unusable, Option.mem_def.1 ho, Option.bind_some, Option.mem_def.1 hquery]
  exact Option.some_ne_none query

/-- How a request for compilation has ended is its outcome. -/
theorem endedIn_iff (h : r.IsCompile) (o : Outcome) :
    EndedIn s.options (r, (s.handle r).1) o ↔ (Verdict.ofRequest s.options r).outcome = o := by
  rw [handle_of_isCompile h]
  -- both failures are answered 400, so what the request holds has to tell them apart
  rcases Verdict.ofRequest_cases s.options r with
    ⟨_, _, _, _, sql, _, hverdict⟩ | ⟨hunusable, hverdict⟩ |
    ⟨order, horder, query, hquery, e, hcompile, hverdict⟩
  · cases o <;> simp [EndedIn, hverdict, Verdict.response, Verdict.outcome, h]
  · have hrefused : ¬ r.Refused s.options := fun hrefused => hrefused.not_unusable hunusable
    cases o <;>
      simp [EndedIn, hverdict, Verdict.response, Verdict.failure, Verdict.outcome, h, hunusable,
        hrefused]
  · have hrefused : r.Refused s.options := ⟨order, horder, query, hquery, by rw [hcompile]; rfl⟩
    have hunusable : ¬ r.Unusable := hrefused.not_unusable
    cases o <;>
      simp [EndedIn, hverdict, Verdict.response, Verdict.failure, Verdict.outcome, h, hunusable,
        hrefused]

theorem not_endedIn (h : ¬ r.IsCompile) (a : Response) (o : Outcome) :
    ¬ EndedIn defaults (r, a) o := by
  cases o <;> exact fun hended => h hended.1

end

/-! ## Runs -/

/-- The requests of a run with their responses. -/
def exchanges (s : Service) (rs : List Request) : List (Request × Response) :=
  rs.zip (s.handleAll rs).1

section

variable (s : Service) (r : Request) (rs later : List Request)

theorem handleAll_cons : s.handleAll (r :: rs) =
    ((s.handle r).1 :: ((s.handle r).2.handleAll rs).1, ((s.handle r).2.handleAll rs).2) := rfl

theorem handleAll_append : s.handleAll (rs ++ later) =
    ((s.handleAll rs).1 ++ ((s.handleAll rs).2.handleAll later).1,
      ((s.handleAll rs).2.handleAll later).2) := by
  induction rs generalizing s with
  | nil => rfl
  | cons r rs ih => rw [List.cons_append, handleAll_cons, ih, handleAll_cons]; rfl

theorem length_handleAll : (s.handleAll rs).1.length = rs.length := by
  induction rs generalizing s with
  | nil => rfl
  | cons r rs ih => rw [handleAll_cons, List.length_cons, List.length_cons, ih]

theorem handleAll_options : (s.handleAll rs).2.options = s.options := by
  induction rs generalizing s with
  | nil => rfl
  | cons r rs ih => rw [handleAll_cons, ih, handle_options]

/-- **A request at any place.** It is answered by the service as the requests before it have left
it. -/
theorem handleAll_getElem? : (s.handleAll (rs ++ r :: later)).1[rs.length]?
    = some ((s.handleAll rs).2.handle r).1 := by
  have hlength := length_handleAll s rs
  rw [handleAll_append, handleAll_cons]
  dsimp only
  rw [← hlength, List.getElem?_append_right (Nat.le_refl _), Nat.sub_self, List.getElem?_cons_zero]

theorem exchanges_cons :
    s.exchanges (r :: rs) = (r, (s.handle r).1) :: (s.handle r).2.exchanges rs := rfl

/-- Every request for compilation ends in exactly one way. -/
theorem existsUnique_endedIn {x : Request × Response} (hx : x ∈ s.exchanges rs)
    (h : x.1.IsCompile) :
    ∃! o, EndedIn s.options x o := by
  induction rs generalizing s with
  | nil => simp [exchanges] at hx
  | cons r rs ih =>
    rw [exchanges_cons, List.mem_cons] at hx
    rcases hx with rfl | hx
    · simp only [endedIn_iff h]
      exact existsUnique_eq'
    · rw [← handle_options s r]
      exact ih _ hx

/-- **The counters after a run.** Each has grown by the number of requests that ended in its way. -/
theorem count_handleAll (o : Outcome) : (s.handleAll rs).2.tally.count o
    = s.tally.count o + (s.exchanges rs).countP (EndedIn s.options · o) := by
  induction rs generalizing s with
  | nil => rfl
  | cons r rs ih =>
    rw [handleAll_cons, exchanges_cons, List.countP_cons, ih, handle_options]
    by_cases h : r.IsCompile
    · simp only [endedIn_iff h, decide_eq_true_eq]
      rw [handle_of_isCompile h, Tally.count_add]
      omega
    · simp only [handle_of_not_isCompile h, not_endedIn h, decide_false, Bool.false_eq_true,
        if_false]
      rfl

end

/-! ## The report -/

/-- The text in which a counter is reported, given how often each label was counted. -/
def exposition (samples : List (String × Nat)) : String :=
  if samples.isEmpty then ""
  else
    "# HELP spandsl_compile_requests_total Number of compile requests by outcome\n" ++
    "# TYPE spandsl_compile_requests_total counter\n" ++
    String.join (samples.map fun (label, n) =>
      "spandsl_compile_requests_total\x7boutcome=\"" ++ label ++ "\"\x7d " ++ toString n ++ "\n")

namespace Tally

variable (t : Tally)

theorem report_eq : t.report = exposition (t.seen.map fun o => (o.label, t.count o)) := by
  rw [report, exposition, List.isEmpty_map, List.map_map]
  rfl

theorem mem_seen {o : Outcome} : o ∈ t.seen ↔ 0 < t.count o := by
  have hall : o ∈ Outcome.sorted := by cases o <;> decide
  simp [seen, hall, Nat.pos_iff_ne_zero]

theorem pairwise_seen : (t.seen.map Outcome.label).Pairwise (· < ·) := by
  have hsorted : (Outcome.sorted.map Outcome.label).Pairwise (· < ·) := by decide
  exact hsorted.sublist (List.filter_sublist.map _)

end Tally

/-- A report is asked for: what the counters are at that time. -/
theorem handle_metrics {s : Service} {m : Request} (hmethod : m.method = "GET")
    (hpath : path m.target = "/metrics") :
    (s.handle m).1 =
      { status := 200, contentType := some "text/plain; version=0.0.4",
        body := s.tally.report } := by
  rw [handle, route, hpath, hmethod]
  rfl

/-- **Every request for compilation is counted once, under how it ended.** Of a service that was
started with the options `defaults`, after any requests: each of them was answered; each one for
compilation ended in exactly one way; each counter is the number of those that ended in its way; and
no other request changes a counter. A report that is asked for at that point, whatever is asked
afterwards, lists by label those ways in which some request has ended, with their numbers. -/
theorem handleAll_counts (defaults : Options) (rs : List Request) :
    let started : Service := { options := defaults }
    let s := (started.handleAll rs).2
    let number (o : Outcome) := (started.exchanges rs).countP (EndedIn defaults · o)
    (started.exchanges rs).map Prod.fst = rs ∧
      (∀ x ∈ started.exchanges rs, x.1.IsCompile → ∃! o, EndedIn defaults x o) ∧
      (∀ o, s.tally.count o = number o) ∧
      (∀ r : Request, ¬ r.IsCompile → ∀ o, (s.handle r).2.tally.count o = number o) ∧
      ∀ m : Request, m.method = "GET" → path m.target = "/metrics" → ∀ later : List Request,
        ∃ os : List Outcome,
          (os.map Outcome.label).Pairwise (· < ·) ∧
          (∀ o, o ∈ os ↔ ∃ x ∈ started.exchanges rs, EndedIn defaults x o) ∧
          (started.handleAll (rs ++ m :: later)).1[rs.length]? = some
            { status := 200
              contentType := some "text/plain; version=0.0.4"
              body := exposition (os.map fun o => (o.label, number o)) } := by
  intro started s number
  have hcount (o : Outcome) : s.tally.count o = number o := by
    have hstart : started.tally.count o = 0 := by cases o <;> rfl
    rw [count_handleAll, hstart, Nat.zero_add]
  refine ⟨List.map_fst_zip (Nat.le_of_eq (length_handleAll started rs).symm),
    fun x hx h => existsUnique_endedIn started rs hx h, hcount, fun r h o => ?_,
    fun m hmethod hpath later => ⟨s.tally.seen, s.tally.pairwise_seen, fun o => ?_, ?_⟩⟩
  · rw [handle_of_not_isCompile h, hcount]
  · -- an outcome is listed if its counter is not zero
    rw [Tally.mem_seen, hcount, List.countP_pos_iff]
    simp only [decide_eq_true_eq]
  · rw [handleAll_getElem?, handle_metrics hmethod hpath, Tally.report_eq]
    simp only [hcount, s]

/-- A blank query, one that compiles, a look at the service's health, and a query that breaks off:
each counter is at one, and so is the report, after which a query comes again. -/
theorem handleAll_counts_oneEach :
    let post (body : String) : Request :=
      { method := "POST", target := "/api/compile", contentType := some "application/json",
        body := body }
    let blank := post "\x7b\"query\":\" \"\x7d"
    let whole := post "\x7b\"query\":\"HAS fiber COUNT hus\"\x7d"
    let broken := post "\x7b\"query\":\"HAS\"\x7d"
    let health : Request :=
      { method := "GET", target := "/health", contentType := none, body := "" }
    let report : Request :=
      { method := "GET", target := "/metrics?", contentType := none, body := "" }
    let started : Service := { options := { year := some 2024 } }
    (∀ o, (started.handleAll [blank, whole, health, broken]).2.tally.count o = 1) ∧
      ∃ os : List Outcome,
        (os.map Outcome.label).Pairwise (· < ·) ∧ (∀ o, o ∈ os) ∧
        (started.handleAll [blank, whole, health, broken, report, whole]).1[4]? = some
          { status := 200
            contentType := some "text/plain; version=0.0.4"
            body := exposition (os.map fun o => (o.label, 1)) } := by
  intro post blank whole broken health report started
  obtain ⟨-, -, hcount, -, hreport⟩ :=
    handleAll_counts { year := some 2024 } [blank, whole, health, broken]
  have hnumber (o : Outcome) :
      (started.exchanges [blank, whole, health, broken]).countP
        (EndedIn { year := some 2024 } · o) = 1 := by
    cases o <;> decide +kernel
  simp only [started] at hnumber
  simp only [hnumber] at hcount hreport
  obtain ⟨os, hsorted, hos, hresponse⟩ := hreport report rfl (by decide +kernel) [whole]
  simp only [List.cons_append, List.nil_append, List.length_cons, List.length_nil, Nat.zero_add,
    Nat.reduceAdd] at hresponse
  -- what the requests are has been used
  clear_value blank whole broken health report
  refine ⟨hcount, os, hsorted, fun o => (hos o).2 ?_, hresponse⟩
  -- a counter at one has counted something
  have hpos := List.countP_pos_iff.1 (Nat.lt_of_lt_of_eq Nat.zero_lt_one (hnumber o).symm)
  simpa only [decide_eq_true_eq] using hpos

end Broadband.Service
