/-!
# The tally of compile requests

The service counts the compile requests it has answered, by how they ended, and reports the counts
of the outcomes that have occurred.

In Span it is `Metrics`, with `observe` and `encode`.
-/

namespace Broadband.Service

/-- How a compile request ended. -/
inductive Outcome
  | success
  | invalidRequest
  | compileError
  deriving DecidableEq, Repr

namespace Outcome

/-- The name of an outcome in the report. -/
def label : Outcome → String
  | success => "success"
  | invalidRequest => "invalid_request"
  | compileError => "compile_error"

/-- The outcomes in the order of their names. -/
def sorted : List Outcome := [compileError, invalidRequest, success]

end Outcome

/-- How many requests ended in each way. Span's `Metrics`. -/
structure Tally where
  success : Nat := 0
  invalidRequest : Nat := 0
  compileError : Nat := 0
  deriving DecidableEq, Repr

namespace Tally

/-- How many requests ended in a way. -/
def count (t : Tally) : Outcome → Nat
  | .success => t.success
  | .invalidRequest => t.invalidRequest
  | .compileError => t.compileError

/-- One more request ended in a way. Span's `observe`. -/
def add (t : Tally) : Outcome → Tally
  | .success => { t with success := t.success + 1 }
  | .invalidRequest => { t with invalidRequest := t.invalidRequest + 1 }
  | .compileError => { t with compileError := t.compileError + 1 }

theorem count_add (t : Tally) (o p : Outcome) :
    (t.add o).count p = t.count p + if o = p then 1 else 0 := by
  cases o <;> cases p <;> rfl

/-- The outcomes that have occurred, in the order of their names. -/
def seen (t : Tally) : List Outcome := Outcome.sorted.filter fun o => t.count o != 0

/-- The name of what is counted. -/
def metric : String := "spandsl_compile_requests_total"

/-- The line of an outcome in the report. -/
def line (t : Tally) (o : Outcome) : String :=
  metric ++ "\x7boutcome=\"" ++ o.label ++ "\"\x7d " ++ toString (t.count o) ++ "\n"

/-- The report; it is empty as long as nothing has been counted. Span's `encode`. -/
def report (t : Tally) : String :=
  if t.seen.isEmpty then ""
  else
    "# HELP " ++ metric ++ " Number of compile requests by outcome\n" ++
    "# TYPE " ++ metric ++ " counter\n" ++ String.join (t.seen.map t.line)

end Tally

end Broadband.Service
