import Broadband.Query
import Broadband.Token

/-!
# Why a token cannot stand where it does

The parser stops at the first token that no query could have at its place. The error then is that
token together with what the parser had expected instead, and the wording is a function of the two.

In Span it is the `ParseError` that `expect_keyword`, `expect_vocabulary`, `expect_number` and their
like return.
-/

namespace Broadband.Parser

/-- The places where a year is expected. -/
inductive YearPlace
  | afterFor
  | afterParen
  | afterComma
  | inComparison
  deriving DecidableEq, Repr

/-- How the place of a year is named in a message. -/
def YearPlace.describe : YearPlace → String
  | .afterFor => "after FOR"
  | .afterParen => "after FOR ("
  | .afterComma => "after comma"
  | .inComparison => "in FOR comparison"

/-- What the parser expects at some place. -/
inductive Expectation
  | keyword (keyword : Keyword)
  | kind (kind : Token.Kind)
  | operand
  | comparison
  | value
  | filter
  | metric
  | grouping
  | figures
  | sortKey
  | limit
  | year (place : YearPlace)
  | yearColumn
  | endOfText
  deriving DecidableEq, Repr

/-- The names by which a query may call the year in a comparison. Span's `YEAR_COLUMN_NAMES`. -/
def yearNames : List String := ["aar", "year"]

/-- A vocabulary as a message lists it. -/
def listing (what : String) (words : List String) : String :=
  what ++ " (" ++ ", ".intercalate words ++ ")"

namespace Expectation

/-- How an expectation is named in a message. -/
def describe : Expectation → String
  | .keyword k => "keyword '" ++ k.text ++ "'"
  | .kind k => k.describe
  | .operand => "operand"
  | .comparison => "comparison operator"
  | .value => "number or string value"
  | .filter => "population filter or field filter after IN"
  | .metric => listing "metric" (Vocabulary.allWords Metric)
  | .grouping => listing "grouping" (Vocabulary.allWords Grouping)
  | .figures => listing "output type" (Vocabulary.allWords Figures)
  | .sortKey => listing "sort field" (Vocabulary.allWords SortKey)
  | .limit => "number after TOP"
  | .year place => "year number " ++ place.describe
  | .yearColumn => listing "year column" yearNames ++ " in FOR comparison"
  | .endOfText => "end of input"

/-- The message for a token that stands where something else was expected. -/
def message (e : Expectation) (found : Token) : String :=
  match e with
  | .operand => "Unexpected token in expression: " ++ found.describe
  | e => "Expected " ++ e.describe ++ ", got " ++ found.describe

end Expectation

/-- What is wrong with a token: it is not what was expected, or it is a number that does not fit
its place. -/
inductive Complaint
  | expected (expectation : Expectation)
  | invalidNumber
  deriving DecidableEq, Repr

end Broadband.Parser

namespace Broadband

/-- A token that cannot stand where it does. Span's `ParseError`. -/
structure SyntaxError where
  complaint : Parser.Complaint
  found : Token
  deriving DecidableEq, Repr

namespace SyntaxError

/-- Where the token stands. -/
def position (e : SyntaxError) : Position := e.found.position

/-- What is wrong. -/
def message (e : SyntaxError) : String :=
  match e.complaint with
  | .expected expectation => expectation.message e.found
  | .invalidNumber => "Invalid number '" ++ e.found.text ++ "'"

/-- What is wrong and where. -/
def describe (e : SyntaxError) : String := e.message ++ " at " ++ e.position.describe

end SyntaxError

end Broadband
