import Broadband.Command
import Broadband.Proofs.Json.ReadBack
import Broadband.Proofs.Service.Counts
import Mathlib.Data.List.Basic

/-!
# One query, three front ends

A query can be given to the command as an argument, typed as a line of a session, or posted to the
service. Each front end has its own way to tell queries from what else it is given, and its own way to
arrive at the options. A plain query is one that none of them takes for anything else (`PlainQuery`); with the same
options in effect, all of them then give the result of compiling it and nothing but that, whatever came
before: `query_of_read?` follows the arguments, `answers_append` the lines of a session, and
`handleAll_getElem?` the requests.
-/

namespace Broadband

/-- A text that is a query wherever it is given: it is not empty and has no blank at either end, and it
is neither an option of the command nor a command of the session. -/
structure PlainQuery (q : String) : Prop where
  ne_empty : q ≠ ""
  first : ∀ c ∈ q.toList.head?, Text.isBlank c = false ∧ c ≠ '-'
  last : ∀ c ∈ q.toList.getLast?, Text.isBlank c = false
  stays : String.ofList (q.toList.map Char.toLower) ∉ ["exit", "quit"]
  noCommand : q.toList.take 2 ∉ [['\\', 'h'], ['\\', 't'], ['\\', 'a']]

theorem dropWhile_of_head? {α : Type*} {p : α → Bool} {xs : List α} (h : ∀ x ∈ xs.head?, p x = false) :
    xs.dropWhile p = xs := by
  cases xs with
  | nil => rfl
  | cons x xs => exact List.dropWhile_cons_of_neg (by simp [h x rfl])

theorem PlainQuery.trim_eq {q : String} (h : PlainQuery q) : Text.trim q = q := by
  have hfirst : q.toList.dropWhile Text.isBlank = q.toList :=
    dropWhile_of_head? fun c hc => (h.first c hc).1
  have hlast : q.toList.reverse.dropWhile Text.isBlank = q.toList.reverse :=
    dropWhile_of_head? fun c hc => h.last c (by rwa [List.head?_reverse] at hc)
  rw [Text.trim, hfirst, hlast, List.reverse_reverse, String.ofList_toList]

/-! ## Arguments -/

namespace Command.Arguments

variable {a a' : Arguments} {q : String}

theorem isValue_of_plain (h : PlainQuery q) : isValue q = true := by
  have hhyphen : q.toList.head? ≠ some '-' := fun hhead => (h.first '-' hhead).2 rfl
  simp [isValue, hhyphen]

theorem isValue_of_ofName? {name : String} {key : Key} (h : Key.ofName? name = some key) :
    isValue name = false := by
  unfold Key.ofName? at h
  split at h
  case h_9 => cases h
  all_goals rfl

theorem set?_query {key : Key} {value : String} (h : a.set? key value = some a') (hq : a.query = some q) :
    a'.query = some q := by
  cases key with
  | query => simp [set?, hq] at h
  | settingsFile | dataPath =>
    simp only [set?] at h
    split at h
    · cases h
    · cases h
      exact hq
  | year =>
    simp only [set?] at h
    split at h
    · cases h
    · obtain ⟨y, -, rfl⟩ := Option.map_eq_some_iff.1 h
      exact hq

theorem set?_query_self (h : a.set? .query q = some a') : a'.query = some q := by
  simp only [set?] at h
  split at h
  · cases h
  · cases h
    rfl

/-- A query that has been read stays the query. -/
theorem read?_query {args : List String} (h : a.read? args = some a') (hq : a.query = some q) :
    a'.query = some q := by
  fun_induction read? a args with
  | case1 => cases h; exact hq
  | case2 | case4 | case8 => cases h
  | case3 _ _ _ ih | case5 _ _ _ ih => exact ih h hq
  | case6 =>
    obtain ⟨_, _, hset⟩ := Option.bind_eq_some_iff.1 h
    exact set?_query hset hq
  | case7 _ _ _ _ _ _ _ _ _ ih =>
    obtain ⟨b, hset, hread⟩ := Option.bind_eq_some_iff.1 h
    exact ih b hread (set?_query hset hq)
  | case9 _ _ _ _ _ _ _ ih =>
    obtain ⟨_, _, hset⟩ := Option.bind_eq_some_iff.1 h
    obtain ⟨b, hset, hread⟩ := Option.bind_eq_some_iff.1 hset
    exact ih b hread (set?_query hset hq)

/-- **A query among the arguments.** Wherever the option for it stands, the argument after it is the query
that is read. -/
theorem query_of_read? {name : String} {args front rest : List String} (hname : Key.ofName? name = some .query)
    (hvalue : isValue q = true) (hargs : args = front ++ name :: q :: rest) (h : a.read? args = some a') :
    a'.query = some q := by
  have hoption : isValue name = false := isValue_of_ofName? hname
  -- the arguments before the option are read one or two at a time, and no option before it can take it as
  -- its value
  fun_induction read? a args generalizing front with
  | case1 => simp at hargs
  | case2 | case4 | case8 => cases h
  | case3 _ _ _ ih | case5 _ _ _ ih =>
    cases front with
    | nil =>
      obtain ⟨rfl, -⟩ := List.cons.inj hargs
      cases hname
    | cons _ front => exact ih (List.cons.inj hargs).2 h
  | case6 =>
    have hlength := congrArg List.length hargs
    simp only [List.length_append, List.length_cons, List.length_nil] at hlength
    omega
  | case7 _ _ _ _ _ _ key hkey hvalue' ih =>
    obtain ⟨b, hset, hread⟩ := Option.bind_eq_some_iff.1 h
    match front with
    | [] =>
      obtain ⟨rfl, htail⟩ := List.cons.inj hargs
      obtain ⟨rfl, -⟩ := List.cons.inj htail
      obtain rfl : Key.query = key := Option.some.inj (hname.symm.trans hkey)
      exact read?_query hread (set?_query_self hset)
    | [_] =>
      obtain ⟨rfl, -⟩ := List.cons.inj (List.cons.inj hargs).2
      rw [hoption] at hvalue'
      cases hvalue'
    | _ :: _ :: front => exact ih b (List.cons.inj (List.cons.inj hargs).2).2 hread
  | case9 _ _ _ _ _ _ hkey ih =>
    obtain ⟨_, _, hset⟩ := Option.bind_eq_some_iff.1 h
    obtain ⟨b, _, hread⟩ := Option.bind_eq_some_iff.1 hset
    cases front with
    | nil =>
      obtain ⟨rfl, -⟩ := List.cons.inj hargs
      rw [hkey] at hname
      cases hname
    | cons _ front => exact ih b (List.cons.inj hargs).2 hread

end Command.Arguments

/-! ## Lines -/

/-- What is written about the result of a query. -/
def Transcript.ofResult : Except CompileError String → Transcript
  | .ok sql => ⟨sql ++ "\n", ""⟩
  | .error e => ⟨"", "Error: " ++ e.describe ++ "\n"⟩

namespace Transcript

theorem empty_append (t : Transcript) : append {} t = t := by simp [append]

theorem append_assoc (t u v : Transcript) : (t.append u).append v = t.append (u.append v) := by
  simp [append, String.append_assoc]

end Transcript

namespace Session

variable {q : String}

theorem Request.ofLine_of_plain (h : PlainQuery q) : Request.ofLine q = .query .statement q := by
  have hempty : q.isEmpty = false := by simpa using h.ne_empty
  have hstays := h.stays
  have hcommand := h.noCommand
  simp only [List.mem_cons, List.not_mem_nil, or_false, not_or] at hstays hcommand
  have hhelp : q ≠ "\\h" := by
    rintro rfl
    exact hcommand.1 rfl
  rw [ofLine, h.trim_eq]
  simp only [hempty, hstays, hhelp, beq_iff_eq, Bool.or_eq_true, or_self, Bool.false_eq_true, if_false]
  split
  · next hlist => exact absurd (congrArg (List.take 2) hlist) hcommand.2.1
  · next hlist => exact absurd (congrArg (List.take 2) hlist) hcommand.2.2
  · rfl

theorem respond_of_plain (h : PlainQuery q) (o : Options) :
    respond o q = (Transcript.ofResult (compile q o), true) := by
  rw [respond, Request.ofLine_of_plain h]
  dsimp only
  rw [answer, View.render]
  cases compile q o <;> rfl

/-- What is written in answer to lines that do not end the session. -/
def replies (o : Options) : List String → Transcript
  | [] => {}
  | line :: rest => (respond o line).1.append (replies o rest)

theorem respond_goesOn {line : String} (h : Request.ofLine line ≠ .leave) (o : Options) :
    (respond o line).2 = true := by
  unfold respond
  split
  · rfl
  · contradiction
  · rfl
  · rfl

theorem answers_cons {o : Options} {line : String} (h : (respond o line).2 = true) (rest : List String) :
    answers o (line :: rest) = (respond o line).1.append (answers o rest) := by
  rw [answers]
  dsimp only
  rw [if_pos h]

/-- **A line at any place.** The lines before it are answered first, if none of them ends the session. -/
theorem answers_append {o : Options} {before : List String}
    (h : ∀ line ∈ before, Request.ofLine line ≠ .leave) (after : List String) :
    answers o (before ++ after) = (replies o before).append (answers o after) := by
  induction before with
  | nil => exact (Transcript.empty_append _).symm
  | cons line before ih =>
    obtain ⟨hline, hbefore⟩ := List.forall_mem_cons.1 h
    rw [List.cons_append, answers_cons (respond_goesOn hline o), ih hbefore, replies, Transcript.append_assoc]

end Session

/-! ## Requests -/

namespace Service

/-- What a response says about the result of a query. -/
def Response.Tells (response : Response) : Except CompileError String → Prop
  | .ok sql => response.status = 200 ∧
    Json.ofText? response.body = some (.object [("success", .bool true), ("sql", .text (some sql))])
  | .error e => response.status = 400 ∧
    Json.ofText? response.body =
      some (.object [("success", .bool false), ("error", .text (some (e.kind ++ ": " ++ e.describe)))])

theorem tells_compiled (sql : String) : (Verdict.compiled sql).response.Tells (.ok sql) := by
  have hstart : "\x7b\"success\":true,\"sql\":" =
      "\x7b" ++ Json.quoted "success" ++ ":" ++ "true" ++ "," ++ Json.quoted "sql" ++ ":" := by
    decide +kernel
  refine ⟨rfl, ?_⟩
  rw [Verdict.response, hstart]
  exact Json.ofText?_object "success" "sql" sql fun _ _ => rfl

theorem tells_failed (e : CompileError) : (Verdict.failed e).response.Tells (.error e) := by
  have hstart : "\x7b\"success\":false,\"error\":" =
      "\x7b" ++ Json.quoted "success" ++ ":" ++ "false" ++ "," ++ Json.quoted "error" ++ ":" := by
    decide +kernel
  refine ⟨rfl, ?_⟩
  rw [Verdict.response, Verdict.failure, hstart]
  exact Json.ofText?_object "success" "error" (e.kind ++ ": " ++ e.describe) fun _ _ => rfl

theorem Order.query?_of_plain {order : Order} {q : String} (h : PlainQuery q) (hquery : order.query = some q) :
    order.query? = some q := by
  have hempty : q.isEmpty = false := by simpa using h.ne_empty
  rw [Order.query?, hquery, Option.filter_some, h.trim_eq, hempty]
  rfl

/-- A plain query in a request is answered with its result. -/
theorem tells_handle {r : Request} {order : Order} {q : String} (h : PlainQuery q) (hcompile : r.IsCompile)
    (horder : r.order? = some order) (hquery : order.query = some q) (s : Service) :
    (s.handle r).1.Tells (compile q (order.override s.options)) := by
  rw [handle_of_isCompile hcompile]
  dsimp only
  rw [Verdict.ofRequest, horder]
  dsimp only
  rw [Verdict.ofOrder, Order.query?_of_plain h hquery]
  dsimp only
  cases compile q (order.override s.options) with
  | ok sql => exact tells_compiled sql
  | error e => exact tells_failed e

end Service

/-! ## All three -/

namespace Command

/-- The options that are in effect: those of the settings, and over them those among the arguments. -/
def InEffect (a : Arguments) (file : Option Settings.Source) (environment : List (String × String))
    (o : Options) : Prop :=
  ∃ s, settings file environment = .ok s ∧ a.override s.options = o

/-- How the command ends on the result of a query. -/
def Outcome.ofResult (result : Except CompileError String) : Outcome :=
  ⟨if result.isOk then 0 else 1, Transcript.ofResult result⟩

section

variable {a : Arguments} {file : Option Settings.Source} {environment : List (String × String)} {o : Options}

theorem run_of_query {q : String} (ho : InEffect a file environment o) (hquery : a.query = some q)
    (hview : a.view = .statement) (input : String) :
    run a file environment input = Outcome.ofResult (compile q o) := by
  obtain ⟨s, hs, rfl⟩ := ho
  rw [run, hs]
  dsimp only
  rw [hquery]
  dsimp only
  rw [execute, hview, View.render]
  cases compile q (a.override s.options) <;> rfl

theorem run_of_session (ho : InEffect a file environment o) (hquery : a.query = none) (input : String) :
    run a file environment input = ⟨0, Session.run o input⟩ := by
  obtain ⟨s, hs, rfl⟩ := ho
  rw [run, hs]
  dsimp only
  rw [hquery]

end

end Command

open Command Session in
/-- **The front ends agree.** Of a plain query, with the same options in effect, whatever the settings,
arguments and orders that put them into effect: the command to which it is given as an argument ends on the
result of compiling it; a session that comes to it writes that result, between its answers to the lines
before and after it; and the service, at any place among other requests, responds with that result. -/
theorem frontEnds_agree {q : String} (h : PlainQuery q) (o : Options) :
    (∀ (front rest : List String) (name : String) (a : Arguments) (file : Option Settings.Source)
        (environment : List (String × String)) (input : String),
      name ∈ ["--exec", "-e"] →
      Arguments.read? {} (front ++ name :: q :: rest) = some a → a.view = .statement →
      InEffect a file environment o →
      Command.run a file environment input = Outcome.ofResult (compile q o)) ∧
    (∀ (a : Arguments) (file : Option Settings.Source) (environment : List (String × String))
        (input : String) (before after : List String),
      a.query = none → InEffect a file environment o →
      (Text.lines input.toList).map readLine = before ++ q :: after →
      (∀ line ∈ before, Request.ofLine line ≠ .leave) →
      Command.run a file environment input =
        ⟨0, greeting.append ((replies o before).append
          ((Transcript.ofResult (compile q o)).append (answers o after)))⟩) ∧
    ∀ (s : Service) (before later : List Service.Request) (r : Service.Request) (order : Service.Order),
      r.IsCompile → r.order? = some order → order.query = some q → order.override s.options = o →
      ∃ response, (s.handleAll (before ++ r :: later)).1[before.length]? = some response ∧
        response.Tells (compile q o) := by
  refine ⟨?_, ?_, ?_⟩
  · intro front rest name a file environment input hname hread hview ho
    have hkey : Key.ofName? name = some .query := by
      simp only [List.mem_cons, List.not_mem_nil, or_false] at hname
      rcases hname with rfl | rfl <;> rfl
    have hquery : a.query = some q :=
      Arguments.query_of_read? hkey (Arguments.isValue_of_plain h) rfl hread
    exact run_of_query ho hquery hview input
  · intro a file environment input before after hquery ho hlines hbefore
    have hrespond := respond_of_plain h o
    have hanswers : answers o (q :: after) = (Transcript.ofResult (compile q o)).append (answers o after) := by
      rw [answers_cons (by rw [hrespond]), hrespond]
    rw [run_of_session ho hquery, Session.run, hlines, answers_append hbefore, hanswers]
  · intro s before later r order hcompile horder hquery ho
    refine ⟨_, s.handleAll_getElem? r before later, ?_⟩
    -- the requests before have not changed the options that the order falls back on
    have htells := Service.tells_handle h hcompile horder hquery (s.handleAll before).2
    rwa [Service.handleAll_options, ho] at htells

open Command Session in
/-- A query for a year other than the one that is set, in a session and at the service after a query that
breaks off. -/
theorem frontEnds_agree_otherYear :
    let q := "HAS fiber COUNT hus"
    let o : Options := ⟨some 2023, some "data"⟩
    let post (body : String) : Service.Request :=
      { method := "POST", target := "/api/compile", contentType := some "application/json", body := body }
    let started : Service := { options := ⟨some 2024, some "data"⟩ }
    PlainQuery q ∧
      Command.run { query := some q, year := some 2023 } none [] "" = Outcome.ofResult (compile q o) ∧
      Command.run { year := some 2023 } none [] "HAS\nHAS fiber COUNT hus\nexit\n" =
        ⟨0, greeting.append ((replies o ["HAS"]).append
          ((Transcript.ofResult (compile q o)).append (answers o ["exit"])))⟩ ∧
      ∃ response, (started.handleAll [post "\x7b\"query\":\"HAS\"\x7d",
          post "\x7b\"query\":\"HAS fiber COUNT hus\",\"year\":2023\x7d"]).1[1]? = some response ∧
        response.Tells (compile q o) := by
  intro q o post started
  have hplain : PlainQuery q := by
    have hfirst : q.toList.head? = some 'H' := by decide +kernel
    have hlast : q.toList.getLast? = some 's' := by decide +kernel
    refine ⟨by decide, ?_, ?_, by decide +kernel, by decide +kernel⟩
    · rw [hfirst]
      rintro _ ⟨⟩
      exact ⟨by decide +kernel, by decide⟩
    · rw [hlast]
      rintro _ ⟨⟩
      decide +kernel
  obtain ⟨hcommand, hsession, hservice⟩ := frontEnds_agree hplain o
  refine ⟨hplain, ?_, ?_, ?_⟩
  · exact hcommand ["--year", "2023"] [] "--exec" _ none [] "" (by decide) (by decide +kernel) rfl
      ⟨{}, rfl, rfl⟩
  · exact hsession { year := some 2023 } none [] "HAS\nHAS fiber COUNT hus\nexit\n" ["HAS"] ["exit"] rfl
      ⟨{}, rfl, rfl⟩ (by decide +kernel) (by decide +kernel)
  · exact hservice started [post _] [] (post _) { query := some q, year := some 2023 } (by decide +kernel)
      (by decide +kernel) rfl rfl

end Broadband
