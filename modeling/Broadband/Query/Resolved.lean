import Broadband.Historical.Check
import Broadband.Query.Years

/-!
# Queries with their years

Before anything is asked of the data, a query is checked as far as its clauses depend on each other
and given its years. The order of the checks decides which of two faults is reported: segments of
customers first, then the years, then what the historical data lack.

Span does this in `resolve`, which returns a `ResolvedQuery`, and `Strategy.select` then chooses
among the generators.
-/

namespace Broadband

/-- Segments of customers are asked for only where subscriptions are counted. Span's
`validate_filters`. -/
def Query.checkOwnership (q : Query) : Except Rejection Unit :=
  if q.metric = .subscriptions then .ok ()
  else
    let owners := q.filters.filterMap fun
      | .segment s => if s.isOwnership then some s else none
      | .compare _ _ _ => none
    match owners with
    | [] => .ok ()
    | segment :: _ => .error (.ownership segment q.metric)

/-- How the data are asked: which of them are read and what the answer looks like. -/
inductive Strategy
  /-- Shares of earlier years. -/
  | historical
  /-- Subscriptions, counted one by one. -/
  | subscription
  /-- Covered and total population, one column for each year. -/
  | pivot
  /-- Covered and total population, one row for each group and year. -/
  | coverage
  deriving DecidableEq, Repr

/-- A query whose clauses agree, with its years: strictly ascending and not none. Span's
`ResolvedQuery`. -/
structure Resolved where
  query : Query
  years : List Int
  deriving DecidableEq, Repr

namespace Resolved

/-- Some year lies before the data for single addresses. -/
def historical (r : Resolved) : Bool := r.years.any Year.isHistorical

/-- There is more than one year. -/
def multiYear (r : Resolved) : Bool := r.years.length > 1

/-- The way the data are asked. Span's `Strategy.select`. -/
def strategy (r : Resolved) : Strategy :=
  if r.historical then .historical
  else if r.query.metric = .subscriptions then .subscription
  else if r.multiYear ∧ r.query.grouping ≠ .national then .pivot
  else .coverage

end Resolved

/-- The query with its years, or the first reason why it has no answer. Span's `resolve`. -/
def Query.resolve (q : Query) (fallback : Option Int) : Except Rejection Resolved := do
  q.checkOwnership
  let years ← Period.resolve q.period fallback
  if years.isEmpty then
    throw .noYear
  let resolved : Resolved := ⟨q, years⟩
  if resolved.historical then
    q.checkHistorical
  return resolved

end Broadband
