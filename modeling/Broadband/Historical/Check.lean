import Broadband.Rejection

/-!
# What the historical data can answer

The historical data are shares: for the whole country or its urban and rural parts, for a few
technologies and a few speeds. The check goes through a query clause by clause and names the first
thing they do not hold. It looks at the leaves of a requirement only; whether the requirement as a
whole has the form of a share is decided where the share is looked up.

This is `validate_historical` in Span, with `validate_historical_expr` and
`validate_historical_tech`.
-/

namespace Broadband

/-- The technology is in the historical data. Span's `validate_historical_tech`. -/
def Technology.checkHistorical (t : Technology) : Except Rejection Unit :=
  if historicalTechnologies.contains t then .ok () else .error (.historicalTechnology t.stored)

/-- The historical data hold what the comparison asks for. -/
def Field.checkHistorical (field : Field) (op : Comparison) (value : Value) :
    Except Rejection Unit :=
  match field with
  | .technology =>
    if op ≠ .eq then .error (.historicalGap (.technologyComparison op))
    else match value with
      | .text s =>
        match Technology.ofStored? s with
        | some t => t.checkHistorical
        | none => .error (.historicalTechnology s)
      | .number n => .error (.historicalTechnology (toString n))
  | .download | .upload =>
    if op ≠ .ge then .error (.historicalGap (.speedComparison field op value))
    else match value with
      | .text _ => .error (.historicalGap (.speedValue field value))
      | .number n =>
        if (historicalThresholds field).1.contains n then .ok ()
        else .error (.historicalThreshold field n)
  | _ => .error (.historicalGap (.field field))

/-- The historical data hold what every leaf of the criterion asks for, negated or not. Span's
`validate_historical_expr`. -/
def Criterion.checkHistorical : Criterion → Except Rejection Unit
  | .technology t _ => t.checkHistorical
  | .compare field op value _ => field.checkHistorical op value
  | .join _ left right => do
    left.checkHistorical
    right.checkHistorical
  | .not inner => inner.checkHistorical

/-- The historical data can be restricted by the filter. -/
def Filter.checkHistorical : Filter → Except Rejection Unit
  | .segment s =>
    if s.isOwnership then .error (.historicalGap .ownership) else .ok ()
  | .compare field _ _ =>
    if field.isGeographic then .error (.historicalGap (.geography field))
    else if field = .provider then .error (.historicalGap .provider)
    else .error (.historicalGap (.filter field))

/-- The historical data hold what every criterion of the requirement asks for. -/
def Requirement.checkHistorical : Requirement → Except Rejection Unit
  | .single criterion => criterion.checkHistorical
  | .quantified _ criteria => criteria.forM Criterion.checkHistorical

/-- The historical data can answer the query, leaf by leaf. Span's `validate_historical`. -/
def Query.checkHistorical (q : Query) : Except Rejection Unit := do
  if q.grouping ≠ .national ∧ q.grouping ≠ .urban then
    throw (.historicalGap (.grouping q.grouping))
  if q.metric = .subscriptions then
    throw (.historicalGap .subscriptions)
  q.filters.forM Filter.checkHistorical
  if q.figures = .count then
    throw (.historicalGap .figures)
  if q.sorting.key = .count then
    throw (.historicalGap .sorting)
  match q.requirement with
  | some requirement => requirement.checkHistorical
  | none => throw (.historicalGap .requirement)

end Broadband
