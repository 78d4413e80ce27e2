import Broadband.Rejection

/-!
# The years of a query

`FOR` names years or compares them, and a query without it takes the year that the caller offers.
Whatever the form, only the set of years counts, so it is kept as a strictly ascending list.

Span does this in `resolve_years`.
-/

namespace Broadband

/-- The known years that meet a comparison. A year is compared for equality with the years of the
detailed data when it is one of them itself, which leaves out nothing that could be equal. -/
def Year.matching (op : Comparison) (year : Int) : List Int :=
  let candidates := if op = .eq && !Year.isHistorical year then Year.detailed else Year.known
  candidates.filter fun y => op.holds y year

/-- The years of a period, or the year offered by the caller when there is none; strictly ascending,
and empty when nobody names a year. Span's `resolve_years`. -/
def Period.resolve (period : Option Period) (fallback : Option Int) :
    Except Rejection (List Int) :=
  match period with
  | none => .ok fallback.toList
  | some (.years ys) => .ok (Year.sorted ys)
  | some (.compare op year) =>
    match Year.matching op year with
    | [] => .error (.noKnownYear op year)
    | ys => .ok ys

end Broadband
