import Broadband.Report.Schema

/-!
# Requirements as conditions

A requirement is put to the data in one of two ways. On a subscription it is a condition on the
row: `ANY`, `ALL` and `NONE` are the disjunction, the conjunction and the denied disjunction of the
branches. On an address it is a question about other rows, the coverage of that address, of which
there is one for each technology: `ANY` then asks for a row that meets some branch, `NONE` for no
such row, and `ALL` for a row for each branch, not for one row that meets them all.

In Span the first way is `has_predicate`, the second the `predicate` of a `Membership`.
-/

namespace Broadband

open Sql

/-! ## Criteria and filters -/

/-- The opposite of a condition, if asked for. Span's `write_negatable`. -/
def negateIf (negated : Bool) (c : Condition) : Condition :=
  if negated then .not (.group c) else c

/-- A criterion as a condition on a row. Span's `write_expr`. -/
def Criterion.condition (qualifier : Option String) : Criterion → Except Rejection Condition
  | .technology t negated =>
    .ok (negateIf negated
      (.compare ⟨qualifier, technologyColumn⟩ .eq (.literal (.text t.stored))))
  | .compare field op value negated => (field.condition op value qualifier).map (negateIf negated)
  | .join op left right => do
    let l ← left.condition qualifier
    let r ← right.condition qualifier
    return .group (.join op l r)
  | .not inner => do
    let c ← inner.condition qualifier
    return .not (.group c)

/-- A filter as a condition on a row. -/
def Filter.condition (qualifier : Option String) : Filter → Except Rejection Condition
  | .segment s => .ok (s.condition qualifier)
  | .compare field op value => field.condition op value qualifier

/-- The filters as conditions, in their order. Span's `filter_predicates`. -/
def filterConditions (filters : List Filter) (qualifier : Option String) :
    Except Rejection (List Condition) :=
  filters.mapM (Filter.condition qualifier)

/-! ## Requirements on a row -/

/-- The branches of a requirement and how many of them have to be met; a criterion alone is one
branch of which any will do. Span's `quantified_branches`. -/
def Requirement.branches : Requirement → Quantifier × List Criterion
  | .single c => (.any, [c])
  | .quantified q cs => (q, cs)

/-- A requirement as a condition on a row. Span's `has_predicate`. -/
def Requirement.condition (r : Requirement) (qualifier : Option String) :
    Except Rejection Condition := do
  let (quantifier, criteria) := r.branches
  match ← criteria.mapM (Criterion.condition qualifier) with
  | [] => throw .emptyRequirement
  | first :: rest =>
    return match quantifier with
      | .any => .joinAll .or first rest
      | .all => .joinAll .and first rest
      | .none => .not (Condition.joinAll .or first rest).grouped

/-! ## Requirements on an address -/

/-- Where the coverage of an address is found. Span's `Membership`. -/
structure Membership where
  /-- The key of the address. -/
  key : Column
  /-- The table of coverage rows. -/
  source : Table
  /-- The key of the address that a coverage row is about. -/
  sourceKey : Column
  /-- What else ties a coverage row to the address. -/
  correlation : Option Condition
  deriving DecidableEq, Repr

namespace Membership

/-- The addresses with a coverage row that meets a condition. Span's `Membership.subquery`. -/
def subquery (m : Membership) (c : Condition) : Subquery :=
  ⟨m.sourceKey, m.source, m.correlation.toList ++ [c]⟩

/-- The predicate that an address meets a requirement. Span's `Membership.predicate`. -/
def predicate (m : Membership) (r : Requirement) : Except Rejection Predicate := do
  let (quantifier, criteria) := r.branches
  match ← criteria.mapM (Criterion.condition none) with
  | [] => throw .emptyRequirement
  | first :: rest =>
    return match quantifier with
      | .any => .within m.key (m.subquery (.joinAll .or first rest))
      | .all => .withinEach m.key ((first :: rest).map m.subquery)
      | .none => .outside m.key (m.subquery (.joinAll .or first rest))

end Membership

end Broadband
