import Broadband.Query
import Broadband.Text.Escaped
import Broadband.Text.Outline

/-!
# The outline of a query

What a query says after it has been read, for someone who wonders how it was understood. The names
in it are part of the output and stay as they are.

It is what `--ast` prints in Span's command.
-/

namespace Broadband

open Text

/-! ## Names -/

/-- The name of a technology. -/
def Technology.title : Technology → String
  | .fiber => "Fiber"
  | .cable => "Cable"
  | .dsl => "Dsl"
  | .fiveG => "FiveG"
  | .fourG => "FourG"
  | .fixedWireless => "Fwa"

/-- The name of a metric. -/
def Metric.title : Metric → String
  | .homes => "Homes"
  | .addresses => "Addresses"
  | .buildings => "Buildings"
  | .cabins => "Cabins"
  | .subscriptions => "Subscriptions"

/-- The name of a grouping. -/
def Grouping.title : Grouping → String
  | .national => "National"
  | .county => "County"
  | .municipality => "Municipality"
  | .postal => "Postal"
  | .urban => "Urban"
  | .provider => "Provider"
  | .technology => "Tech"

/-- The name of a choice of figures. -/
def Figures.title : Figures → String
  | .count => "Count"
  | .percent => "Percent"
  | .both => "Both"

/-- The name of a sort key. -/
def SortKey.title : SortKey → String
  | .count => "Count"
  | .percent => "Percent"
  | .group => "Group"

/-- The name of a direction. -/
def Direction.title : Direction → String
  | .asc => "Asc"
  | .desc => "Desc"

/-- The name of a segment. -/
def Segment.title : Segment → String
  | .urban => "Urban"
  | .rural => "Rural"
  | .residential => "Private"
  | .business => "Business"

/-- The name of a field. -/
def Field.title : Field → String
  | .technology => "Tech"
  | .download => "Speed"
  | .upload => "Upload"
  | .provider => "Provider"
  | .county => "County"
  | .municipality => "Municipality"
  | .buildingType => "BuildingType"
  | .postal => "Postal"

/-- The name of a comparison. -/
def Comparison.title : Comparison → String
  | .eq => "Eq"
  | .ne => "NotEq"
  | .gt => "Gt"
  | .ge => "Gte"
  | .lt => "Lt"
  | .le => "Lte"

/-- The name of a connective. -/
def Connective.title : Connective → String
  | .and => "And"
  | .or => "Or"

/-- The name of a quantifier. -/
def Quantifier.title : Quantifier → String
  | .any => "Any"
  | .all => "All"
  | .none => "None"

/-! ## Outlines -/

/-- The outline of a value. -/
def Value.outline : Value → List String
  | .number n => Outline.wrapped "Number" (Outline.atom n)
  | .text s => Outline.wrapped "String" [escaped s]

/-- The outline of a criterion. -/
def Criterion.outline : Criterion → List String
  | .technology t negated =>
    Outline.record "Flag" [("flag", [t.title]), ("negated", Outline.atom negated)]
  | .compare field op value negated =>
    Outline.record "Comparison" [("field", [field.title]), ("op", [op.title]),
      ("value", value.outline), ("negated", Outline.atom negated)]
  | .join op left right =>
    Outline.record "BinaryOp" [("left", left.outline), ("op", [op.title]),
      ("right", right.outline)]
  | .not inner => Outline.wrapped "Not" inner.outline

/-- The outline of a requirement. -/
def Requirement.outline : Requirement → List String
  | .single c => Outline.wrapped "Expression" c.outline
  | .quantified q cs =>
    Outline.record "Quantified" [("quantifier", [q.title]),
      ("expressions", Outline.list (cs.map Criterion.outline))]

/-- The outline of a filter. -/
def Filter.outline : Filter → List String
  | .segment s => Outline.wrapped "Population" [s.title]
  | .compare field op value =>
    Outline.record "Field" [("field", [field.title]), ("op", [op.title]), ("value", value.outline)]

/-- The outline of a period. -/
def Period.outline : Period → List String
  | .years ys => Outline.wrapped "List" (Outline.list (ys.map Outline.atom))
  | .compare op year => Outline.record "Comparison" [("op", [op.title]), ("year", Outline.atom year)]

/-- The outline of a sort clause. -/
def Sorting.outline (s : Sorting) : List String :=
  Outline.record "SortClause" [("field", [s.key.title]), ("direction", [s.direction.title])]

/-- The outline of a query. -/
def Query.outline (q : Query) : List String :=
  Outline.record "SpanQuery"
    [("has", Outline.optional (q.requirement.map Requirement.outline)),
     ("filters", Outline.list (q.filters.map Filter.outline)),
     ("count", [q.metric.title]),
     ("by", [q.grouping.title]),
     ("show", [q.figures.title]),
     ("sort", q.sorting.outline),
     ("top", Outline.optional (q.limit.map Outline.atom)),
     ("for_clause", Outline.optional (q.period.map Period.outline))]

end Broadband
