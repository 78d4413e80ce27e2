/-!
# The years of the data

Statistics exist for a closed range of years. From one year on they are kept address by address;
before it only shares survive, computed at the time. A query that touches a year of the earlier
kind is answered from those shares as a whole.

In Span they are `KNOWN_YEARS`, and the year is `HISTORICAL_CUTOFF`.
-/

namespace Broadband.Year

/-- The first year of which anything is known. -/
def first : Int := 2013

/-- The last year of which anything is known. -/
def last : Int := 2024

/-- The first year with data for single addresses. Span's `HISTORICAL_CUTOFF`. -/
def firstDetailed : Int := 2022

/-- Every year of which anything is known, ascending. Span's `KNOWN_YEARS`. -/
def known : List Int :=
  [2013, 2014, 2015, 2016, 2017, 2018, 2019, 2020, 2021, 2022, 2023, 2024]

/-- The year lies before the data for single addresses. Span's `is_historical_year`. -/
def isHistorical (year : Int) : Bool := year < firstDetailed

/-- The known years with data for single addresses, ascending. Span's `modern_years`. -/
def detailed : List Int := known.filter fun y => !isHistorical y

/-- The range of the known years, as messages give it. -/
def range : String := toString first ++ "-" ++ toString last

/-! ## Sets of years -/

/-- A year put into an ascending list that does not hold it yet, or left out if it does. -/
def insert (year : Int) : List Int → List Int
  | [] => [year]
  | y :: ys =>
    if year < y then year :: y :: ys
    else if year = y then y :: ys
    else y :: insert year ys

/-- The years of a list, ascending and each once. -/
def sorted (years : List Int) : List Int := years.foldr insert []

end Broadband.Year
