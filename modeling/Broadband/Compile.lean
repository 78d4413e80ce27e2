import Broadband.Query.Parser
import Broadband.Report.Historical
import Broadband.Report.Pivot
import Broadband.Report.Subscription

/-!
# From a query to its statement

The whole way in one place: a text is read as a query, the query is resolved, the report for its
strategy is built as a statement, and the statement is written out.

In Span these are `compile`, `parse_str` and `generate_sql`, with the `SqlOptions` and the
`SpanError` they share.
-/

namespace Broadband

/-! ## Statements -/

/-- What a caller may say beside the query. Span's `SqlOptions`. -/
structure Options where
  /-- The year of a query that names none. -/
  year : Option Int := none
  /-- The directory of the data. -/
  dataPath : Option String := none
  deriving DecidableEq, Repr

/-- The directory of the data where none is given. Span's `DEFAULT_DATA_PATH`. -/
def defaultDataPath : String := "data"

/-- The directory of the data. -/
def Options.directory (o : Options) : String := o.dataPath.getD defaultDataPath

/-- The statement of a report. -/
def Report.statement (r : Report) : Except Rejection Sql.Statement :=
  match r.strategy with
  | .historical => r.historical
  | .subscription => r.subscription
  | .pivot => r.pivot
  | .coverage => r.coverage

/-- The statement that answers a query. -/
def Query.statement (q : Query) (o : Options) : Except Rejection Sql.Statement := do
  let resolved ← q.resolve o.year
  Report.statement ⟨resolved, o.directory⟩

/-- The text of the statement that answers a query. Span's `generate_sql`. -/
def Query.toSql (q : Query) (o : Options) : Except Rejection String :=
  (q.statement o).map Sql.Statement.text

/-! ## Texts -/

/-- Why a text has no statement. Span's `SpanError`. -/
inductive CompileError
  | text (error : TextError)
  | rejected (rejection : Rejection)
  deriving DecidableEq, Repr

namespace CompileError

/-- What is wrong, and where if the text itself is at fault. -/
def describe : CompileError → String
  | .text e => e.describe
  | .rejected r => r.message

/-- The name of the kind of error, under which it is reported. -/
def kind : CompileError → String
  | .text (.lexical _) => "LexerError"
  | .text (.syntactic _) => "ParseError"
  | .rejected _ => "CodeGenError"

end CompileError

/-- The text of the statement that answers the query in a text. Span's `compile`. -/
def compile (s : String) (o : Options) : Except CompileError String :=
  match Query.parse s with
  | .error e => .error (.text e)
  | .ok q =>
    match q.toSql o with
    | .error r => .error (.rejected r)
    | .ok sql => .ok sql

/-- The text looks like a query: its first word is `HAS`, in any case, and a blank, a parenthesis or
nothing follows it. Span's `is_span_query`. -/
def looksLikeQuery (s : String) : Bool :=
  match s.toList.dropWhile Text.isBlank with
  | h :: a :: s :: rest =>
    [h, a, s].map Char.toUpper == ['H', 'A', 'S'] &&
      (rest.head?.all fun c => Text.isBlank c || c == '(')
  | _ => false

end Broadband
