/-!
# Data files

The data lie in one directory per year, with one file for each dataset.

In Span this is `Dataset`, with `file_name` and `source`.
-/

namespace Broadband

/-- The datasets. -/
inductive Dataset
  /-- One row for each address, with its population. -/
  | addresses
  /-- Fixed coverage: one row for each address and technology. -/
  | fixedCoverage
  /-- Mobile coverage: one row for each address and technology. -/
  | mobileCoverage
  /-- One row for each subscription. -/
  | subscriptions
  /-- Shares of coverage for each area and indicator. -/
  | historical
  deriving DecidableEq, Repr

namespace Dataset

/-- The name of a dataset's file. Span's `file_name`. -/
def fileName : Dataset → String
  | .addresses => "adr.parquet"
  | .fixedCoverage => "fbb.parquet"
  | .mobileCoverage => "mob.parquet"
  | .subscriptions => "ab.parquet"
  | .historical => "dekning.parquet"

/-- The file of a dataset for a year, between quotes. The directory stands there as it is given.
Span's `Dataset.source`. -/
def source (d : Dataset) (dataPath : String) (year : Int) : String :=
  "'" ++ dataPath ++ "/" ++ toString year ++ "/" ++ d.fileName ++ "'"

end Dataset

end Broadband
