import Broadband.Double
import Broadband.Text.Numeral

/-!
# Settings before they have a meaning

Settings come from several sources, one over the other. A source sets values under paths of names;
whether a name means anything, and what kind of value belongs there, is looked at only when all
sources have been heard. A value of another kind is then converted where that is harmless.
-/

namespace Broadband.Settings

/-! ## Values -/

/-- A value as a source gives it. -/
inductive RawValue
  | text (s : String)
  | number (n : Int)
  | real (x : Double)
  | truth (b : Bool)
  deriving DecidableEq, Repr

namespace RawValue

/-- The value where a text belongs. -/
def toText : RawValue → String
  | .text s => s
  | .number n => toString n
  | .real x => x.toText
  | .truth b => if b then "true" else "false"

/-- The words for yes and no, as numbers. -/
def switchWord? (s : String) : Option Nat :=
  let word := String.ofList (s.toList.map Char.toLower)
  if ["true", "on", "yes"].contains word then some 1
  else if ["false", "off", "no"].contains word then some 0
  else none

/-- The value where a signed number belongs. What is not a whole number is rounded. -/
def toInt? : RawValue → Option Int
  | .text s => (switchWord? s).map Int.ofNat <|> Text.int64? s
  | .number n => some n
  | .real (.finite negative m e) => some (Double.round negative m e)
  | .real (.infinite _) => none
  | .real .nan => some 0
  | .truth b => some (if b then 1 else 0)

/-- The value where an unsigned number belongs. What is not a whole number is rounded, and then
what lies below zero is raised to it. -/
def toNat? : RawValue → Option Nat
  | .text s => switchWord? s <|> Text.nat64? s
  | .number n => n.toNat?
  | .real (.finite negative m e) => some (Double.round negative m e).toNat
  | .real (.infinite negative) => if negative then some 0 else none
  | .real .nan => some 0
  | .truth b => some (if b then 1 else 0)

end RawValue

/-! ## Trees -/

/-- The values set so far. -/
inductive Tree
  | value (value : RawValue)
  | table (entries : List (String × Tree))

namespace Tree

/-- The entries of a table; a value has none. -/
def entries : Tree → List (String × Tree)
  | .table es => es
  | .value _ => []

/-- The tree with a value under a path. What stood in the way of the path is gone. -/
def set : List String → RawValue → Tree → Tree
  | [], v, _ => .value v
  | name :: path, v, t =>
    let inner := (t.entries.lookup name).getD (.table [])
    .table ((name, inner.set path v) :: t.entries.filter (·.1 != name))

/-- The tree with several values, the later over the earlier. -/
def setAll (t : Tree) (values : List (List String × RawValue)) : Tree :=
  values.foldl (fun t (path, v) => t.set path v) t

/-- The table under a name: empty if nothing is there, and nothing if a value is there. -/
def table? (t : Tree) (name : String) : Option Tree :=
  match t.entries.lookup name with
  | none => some (.table [])
  | some (.table es) => some (.table es)
  | some (.value _) => none

/-- The value under a name as a source gave it: a default if nothing is there, and nothing if it
has no reading or a table is there. -/
def get? {α : Type} (t : Tree) (name : String) (default : α) (read : RawValue → Option α) :
    Option α :=
  match t.entries.lookup name with
  | none => some default
  | some (.value v) => read v
  | some (.table _) => none

end Tree

end Broadband.Settings
