import Broadband.Compile
import Broadband.Json

/-!
# Orders

An order is what the body of a compile request asks for: a query, and options that replace those of
the service. The body is an object, whose members may be in any order and may be missing, or an
array of all three values.

In Span it is a `CompileRequest`.
-/

namespace Broadband.Service

/-- What the body of a compile request asks for. Span's `CompileRequest`. -/
structure Order where
  query : Option String := none
  year : Option Int := none
  dataPath : Option String := none
  deriving DecidableEq, Repr

namespace Order

/-- A text that may be missing. -/
def text? : Json → Option (Option String)
  | .null => some none
  | .text (some s) => some (some s)
  | _ => none

/-- A year that may be missing. -/
def year? : Json → Option (Option Int)
  | .null => some none
  | .integer n => if Text.fitsInt32 n then some (some n) else none
  | _ => none

/-- The value of a member, null if there is none; a member may not occur twice. -/
def member? (members : List (String × Json)) (name : String) : Option Json :=
  match members.filter (·.1 == name) with
  | [] => some .null
  | [(_, v)] => some v
  | _ => none

/-- The order of three values. -/
def ofValues? (query year dataPath : Json) : Option Order := do
  return ⟨← text? query, ← year? year, ← text? dataPath⟩

/-- The order that a value gives. -/
def ofJson? : Json → Option Order
  | .object ms => do
    ofValues? (← member? ms "query") (← member? ms "year") (← member? ms "dataPath")
  | .array [query, year, dataPath] => ofValues? query year dataPath
  | _ => none

/-- The query of an order, unless it is missing or blank. -/
def query? (o : Order) : Option String := o.query.filter fun q => !(Text.trim q).isEmpty

/-- The options of an order over those of the service. -/
def override (o : Order) (defaults : Options) : Options :=
  ⟨o.year <|> defaults.year, o.dataPath <|> defaults.dataPath⟩

end Order

end Broadband.Service
