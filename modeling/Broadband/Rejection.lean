import Broadband.Query
import Broadband.Year

/-!
# Why a query has no answer

A query can be well formed and still ask for something that the data do not hold. Each reason is a
case of `Rejection`; the wording of all of them is `Rejection.message` and nothing else.

In Span a reason is the message of a `CodeGenError`, made by `unsupported` and `historical_error`
where the fault is found.
-/

namespace Broadband

open Vocabulary (name)

/-! ## What the historical data lack -/

/-- The technologies in the historical data. Span's `HISTORICAL_TECHS`. -/
def historicalTechnologies : List Technology := [.fiber, .cable, .dsl, .fourG]

/-- The download thresholds in the historical data, in Mbit/s. Span's
`HISTORICAL_DOWNLOAD_THRESHOLDS`. -/
def historicalDownloads : List Int := [10, 30, 50, 100, 500, 1000]

/-- The upload thresholds in the historical data, in Mbit/s. Span's
`HISTORICAL_UPLOAD_THRESHOLDS`. -/
def historicalUploads : List Int := [10, 50, 100, 500, 1000]

/-- The thresholds of a speed in the historical data, and the word for that speed. -/
def historicalThresholds : Field → List Int × String
  | .upload => (historicalUploads, "upload")
  | _ => (historicalDownloads, "download")

/-- Something that the historical data as a whole do not offer. -/
inductive HistoricalGap
  | grouping (grouping : Grouping)
  | subscriptions
  | ownership
  | geography (field : Field)
  | provider
  | filter (field : Field)
  | figures
  | sorting
  | technologyComparison (op : Comparison)
  | speedComparison (field : Field) (op : Comparison) (value : Value)
  | speedValue (field : Field) (value : Value)
  | field (field : Field)
  | requirement
  deriving DecidableEq, Repr

/-- What the historical data do, in words. -/
def HistoricalGap.describe : HistoricalGap → String
  | .grouping g => "only supports BY total or BY tett, not BY " ++ name g
  | .subscriptions => "does not include subscriptions (COUNT ab)"
  | .ownership => "does not support the 'private' and 'business' filters"
  | .geography f => "does not support geographic filters (IN " ++ name f ++ ")"
  | .provider => "does not support provider filters (IN tilb)"
  | .filter f => "does not support IN filters on " ++ name f
  | .figures => "only provides percentages, SHOW count is not supported"
  | .sorting => "only provides percentages, SORT count is not supported"
  | .technologyComparison op => "only supports tek = <technology>, not tek " ++ op.symbol
  | .speedComparison f op v =>
    "only supports speed thresholds with >=, not " ++ name f ++ " " ++ op.symbol ++ " " ++
      v.describe
  | .speedValue f v => "requires a numeric speed threshold, got " ++ name f ++ " " ++ v.describe
  | .field f => "does not support HAS conditions on " ++ name f
  | .requirement => "requires a HAS clause"

/-- A form of requirement that no single share in the historical data stands for. -/
inductive HistoricalForm
  | severalAll
  | quantifiedNone
  | conjunction
  | negation
  | other
  deriving DecidableEq, Repr

/-- How such a form is named in a message. -/
def HistoricalForm.describe : HistoricalForm → String
  | .severalAll => "ALL with several conditions"
  | .quantifiedNone => "NONE"
  | .conjunction => "AND other than a download threshold combined with an upload threshold"
  | .negation => "NOT"
  | .other => "This HAS condition"

/-! ## Rejections -/

/-- Why a well-formed query has no answer. Span's `CodeGenError`, which holds only the message. -/
inductive Rejection
  /-- A segment of customers is asked for, but no subscriptions are counted. -/
  | ownership (segment : Segment) (metric : Metric)
  /-- Neither the query nor the caller names a year. -/
  | noYear
  /-- No known year meets the comparison. -/
  | noKnownYear (op : Comparison) (year : Int)
  /-- A quantifier has nothing to range over. -/
  | emptyRequirement
  /-- A speed has no representation in kbit/s. -/
  | speedRange (mbps : Int)
  /-- The historical data do not offer this. -/
  | historicalGap (gap : HistoricalGap)
  /-- The technology is not in the historical data. -/
  | historicalTechnology (name : String)
  /-- The threshold is not in the historical data. -/
  | historicalThreshold (field : Field) (mbps : Int)
  /-- The historical data hold upload thresholds only together with download thresholds. -/
  | historicalUpload
  /-- No share in the historical data stands for a requirement of this form. -/
  | historicalForm (form : HistoricalForm)
  deriving DecidableEq, Repr

/-- The wording of a rejection. -/
def Rejection.message : Rejection → String
  | .ownership segment metric =>
    "IN " ++ name segment ++ " requires COUNT ab: the 'private' and 'business' filters only apply" ++
      " to subscriptions, not " ++ name metric
  | .noYear => "No year specified. Use FOR clause or provide year in options."
  | .noKnownYear op year =>
    "No data available for FOR aar " ++ op.symbol ++ " " ++ toString year ++ " (known years: " ++
      Year.range ++ ")"
  | .emptyRequirement => "HAS clause must have either quantified expressions or an expression"
  | .speedRange mbps => "Speed value " ++ toString mbps ++ " Mbit/s is out of range"
  | .historicalGap gap =>
    "Historical data (before " ++ toString Year.firstDetailed ++ ") " ++ gap.describe
  | .historicalTechnology technology =>
    "Technology '" ++ technology ++ "' is not available in historical data (before " ++
      toString Year.firstDetailed ++ "). Supported: " ++
      ", ".intercalate (historicalTechnologies.map Technology.stored)
  | .historicalThreshold field mbps =>
    let (thresholds, speed) := historicalThresholds field
    "Speed threshold " ++ toString mbps ++ " Mbit/s is not supported for historical data (before " ++
      toString Year.firstDetailed ++ "). Supported " ++ speed ++ " thresholds: " ++
      ", ".intercalate (thresholds.map toString)
  | .historicalUpload =>
    "An upload threshold must be combined with a download threshold " ++
      "(nedhast >= X AND opphast >= Y) for historical data"
  | .historicalForm form => form.describe ++ " is not supported for historical data"

end Broadband
