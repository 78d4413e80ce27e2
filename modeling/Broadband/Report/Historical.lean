import Broadband.Report.Basic

/-!
# Shares of earlier years

The historical data hold shares of coverage for areas and indicators. An area is the country or its
urban or rural part. An indicator is a technology, a download speed, or a download speed together
with an upload speed; a requirement can be answered if it is a choice among those, and each of them
then gets rows of its own.

This is Span's generator for `Strategy.Historical`, with `indicators` and `leaf_indicator`.
-/

namespace Broadband

open Sql

/-! ## Indicators -/

/-- What a share in the historical data is about. -/
inductive Indicator
  | technology (stored : String)
  | speed (download : Int) (upload : Option Int)
  deriving DecidableEq, Repr

namespace Indicator

/-- The kind of the indicator, as the data name it. -/
def kind : Indicator → String
  | .technology _ => "tek"
  | .speed _ _ => "hast"

/-- The indicator, as the data name it. -/
def value : Indicator → String
  | .technology stored => stored
  | .speed download none => "ned>=" ++ toString download
  | .speed download (some upload) =>
    "ned>=" ++ toString download ++ ",opp>=" ++ toString upload

/-- The condition that a row is about the indicator. Span's `Indicator.predicate`. -/
def condition (i : Indicator) : Condition :=
  .group (.join .and
    (.compare ⟨none, "indikatortype"⟩ .eq (.literal (.text i.kind)))
    (.compare ⟨none, "indikator"⟩ .eq (.literal (.text i.value))))

end Indicator

/-! ## Requirements as indicators -/

/-- The speed and its threshold, if the criterion is a threshold of a speed. Span's
`speed_threshold`. -/
def Criterion.threshold? : Criterion → Option (Field × Int)
  | .compare field .ge (.number n) false => if field.isSpeed then some (field, n) else none
  | _ => none

/-- The indicator of a criterion that is not a choice. Span's `leaf_indicator`. -/
def Criterion.indicator : Criterion → Except Rejection Indicator
  | .technology t false => .ok (.technology t.stored)
  | .compare .technology _ (.text s) false => .ok (.technology s)
  | .compare .download _ (.number n) false => .ok (.speed n none)
  | .compare .upload _ _ false => .error .historicalUpload
  | .join .and left right =>
    match left.threshold?, right.threshold? with
    | some (.download, down), some (.upload, up) => .ok (.speed down (some up))
    | some (.upload, up), some (.download, down) => .ok (.speed down (some up))
    | _, _ => .error (.historicalForm .conjunction)
  | .technology _ true | .compare _ _ _ true | .not _ => .error (.historicalForm .negation)
  | _ => .error (.historicalForm .other)

/-- The criteria that a criterion is a choice among, from left to right. Span's
`collect_alternatives`. -/
def Criterion.alternatives : Criterion → List Criterion
  | .join .or left right => left.alternatives ++ right.alternatives
  | c => [c]

/-- The indicators of the alternatives of several criteria, from left to right, each once. -/
def indicatorsOf (criteria : List Criterion) : Except Rejection (List Indicator) := do
  let indicators ← (criteria.flatMap Criterion.alternatives).mapM Criterion.indicator
  return indicators.eraseDups

/-- The indicators of a requirement, from left to right, each once. Span's `indicators`. -/
def Requirement.indicators : Requirement → Except Rejection (List Indicator)
  | .single c => indicatorsOf [c]
  | .quantified _ [] => .error .emptyRequirement
  | .quantified .any cs => indicatorsOf cs
  | .quantified .all [c] => indicatorsOf [c]
  | .quantified .all _ => .error (.historicalForm .severalAll)
  | .quantified .none _ => .error (.historicalForm .quantifiedNone)

namespace Report

/-! ## Areas -/

/-- The area that a filter restricts the report to. -/
def areaOf? : Filter → Option String
  | .segment .urban => some urbanLabel
  | .segment .rural => some ruralLabel
  | _ => none

/-- The areas of the report: those of the filters, each once, or those that the grouping implies. -/
def areas (q : Query) : List String :=
  match (q.filters.filterMap areaOf?).eraseDups with
  | [] => if q.grouping = .urban then [urbanLabel, ruralLabel] else [nationalLabel]
  | labels => labels

/-- The condition that a row is about one of the areas. Span's `geography_filter`. -/
def areaCondition (q : Query) : Condition :=
  match areas q with
  | [label] => .compare ⟨none, "geo"⟩ .eq (.literal (.text label))
  | labels => .oneOf ⟨none, "geo"⟩ (labels.map .text)

/-! ## The report -/

/-- The sort column of shares, which have no numbers behind them. -/
def shareSortColumn : SortKey → String
  | .percent => "percent"
  | _ => "gruppe"

/-- The report of shares, one row for each area, year and indicator. -/
def historicalShares (r : Report) (first : Indicator) (rest : List Indicator) : Statement :=
  let ifSeveral {α : Type} (x : α) : List α := if rest.isEmpty then [] else [x]
  let q := r.query
  { tables := [⟨"hist", r.files [.historical]⟩]
    main :=
      { columns := .named (column "geo") "gruppe" ::
          (r.ifMultiYear (.same ⟨none, "aar"⟩) ++ ifSeveral (.same ⟨none, "indikator"⟩) ++
            [.named (.percent (.average (column "dekning"))) "percent"])
        source := .table ⟨"hist", none⟩
        filters := [.holds (r.yearCondition none), .holds (areaCondition q),
          .holds (.joinAll .or first.condition (rest.map Indicator.condition))]
        groupBy := column "geo" :: (r.ifMultiYear (column "aar") ++ ifSeveral (column "indikator"))
        orderBy := ⟨column (shareSortColumn q.sorting.key), q.sorting.direction⟩ ::
          (r.ifMultiYear ⟨column "aar", .asc⟩ ++ ifSeveral ⟨column "indikator", .asc⟩)
        limit := q.limit } }

/-- The report of shares, if the requirement is a choice among indicators. -/
def historical (r : Report) : Except Rejection Statement :=
  match r.query.requirement with
  | none => .error (.historicalGap .requirement)
  | some requirement => do
    match ← requirement.indicators with
    | [] => throw .emptyRequirement
    | first :: rest => return r.historicalShares first rest

end Report

end Broadband
