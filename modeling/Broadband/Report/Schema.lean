import Broadband.Rejection
import Broadband.Sql.Statement
import Broadband.Text.Numeral

/-!
# The vocabulary in the data files

Which column, value or expression of the data files each word of the vocabulary stands for. A
qualifier is the short name of the table that the column is taken from, where more than one table
is in view.

In Span this is the methods of the vocabulary that name columns and values: `column`, `expr`,
`predicate`, `column_value`.
-/

namespace Broadband

open Sql

/-- The label of the row for the whole country. Span's `NATIONAL_LABEL`. -/
def nationalLabel : String := "Norge"

/-- The label of the urban part of the country. Span's `URBAN_LABEL`. -/
def urbanLabel : String := "Tettsted"

/-- The label of the rural part of the country. Span's `RURAL_LABEL`. -/
def ruralLabel : String := "Spredt"

/-- The name of the technology column. Span's `TECH_COLUMN`. -/
def technologyColumn : String := "tek"

/-- The name of a field's column. Span's `Field.column`. -/
def Field.column : Field → String
  | .technology => technologyColumn
  | .download => "ned"
  | .upload => "opp"
  | .provider => "tilb"
  | .county => "fylke"
  | .municipality => "komnavn"
  | .buildingType => "bygtype"
  | .postal => "postnr"

/-- What is summed to count a metric: a column of the addresses, or one for each row. Span's
`Metric.column`. -/
def Metric.weight (m : Metric) (qualifier : Option String) : Scalar :=
  match m with
  | .homes => .column ⟨qualifier, "hus"⟩
  | .addresses => .literal (.number 1)
  | .buildings => .column ⟨qualifier, "bygninger"⟩
  | .cabins => .column ⟨qualifier, "fritid"⟩
  | .subscriptions => .literal (.number 1)

/-- The label of the group that a row belongs to. Span's `Grouping.expr`. -/
def Grouping.label (g : Grouping) (qualifier : Option String) : Scalar :=
  match g with
  | .national => .literal (.text nationalLabel)
  | .county => .column ⟨qualifier, "fylke"⟩
  | .municipality => .column ⟨qualifier, "komnavn"⟩
  | .postal => .column ⟨qualifier, "postnr"⟩
  | .urban =>
    .ifElse (.truth ⟨qualifier, "ertett"⟩) (.literal (.text urbanLabel)) (.literal (.text ruralLabel))
  | .provider => .column ⟨qualifier, "tilb"⟩
  | .technology => .column ⟨qualifier, technologyColumn⟩

/-- The condition that a row belongs to a segment. Span's `PopulationFlag.predicate`. -/
def Segment.condition (s : Segment) (qualifier : Option String) : Condition :=
  let is (column : String) (b : Bool) : Condition :=
    .compare ⟨qualifier, column⟩ .eq (.literal (.truth b))
  match s with
  | .urban => is "ertett" true
  | .rural => is "ertett" false
  | .residential => is "privat" true
  | .business => is "privat" false

/-- A speed in kbit/s, the unit of the data files, unless it does not fit their columns. Span's
`convert_speed`. -/
def toKbps (mbps : Int) : Except Rejection Int :=
  if Text.fitsInt64 (mbps * 1000) then .ok (mbps * 1000) else .error (.speedRange mbps)

/-- A value as the data files hold it in a field's column. -/
def Field.literal (f : Field) (v : Value) : Except Rejection Literal :=
  match v with
  | .text s => .ok (.text s)
  | .number n => if f.isSpeed then (toKbps n).map .number else .ok (.number n)

/-- The condition that a field compares with a value as given. Span's `field_predicate`. -/
def Field.condition (f : Field) (op : Comparison) (v : Value) (qualifier : Option String) :
    Except Rejection Condition :=
  (f.literal v).map fun l => .compare ⟨qualifier, f.column⟩ op (.literal l)

end Broadband
