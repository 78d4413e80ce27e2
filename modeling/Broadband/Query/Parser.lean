import Broadband.Query.Parser.Criterion
import Broadband.Token.Lexer

/-!
# Reading a query token by token

The clauses of a query come in a fixed order, `HAS` and `COUNT` are never left out, and one token
ahead always decides how to go on. So the parser is a machine: a state says what has been read and
what may come next, `State.next?` takes one token, and the answer depends on nothing further ahead.
A token that has no next state is the error, and the state says what it should have been
(`State.complaint`). The end of the text is a token too, but it is asked for (`State.query?`) rather
than taken.

Span's `Parser` has a function for each clause, `parse_has_clause` to `parse_for_clause`, and
`parse` calls them in turn. Where such a function stands when it looks at a token is a state here.
-/

namespace Broadband.Parser

/-! ## States -/

/-- How the criteria of the `HAS` clause are given: alone, or in a list under a quantifier, of which
some have been read. -/
inductive Form
  | single
  | listed (quantifier : Quantifier) (done : List Criterion)
  deriving DecidableEq, Repr

/-- The optional clauses after `COUNT`, in their order; a stage is the last of them that has been
read. -/
inductive Stage
  | metric
  | grouping
  | figures
  | sorting
  | limit
  | period
  deriving DecidableEq, Repr

/-- The place of a stage in the order. -/
def Stage.rank : Stage → Nat
  | .metric => 0
  | .grouping => 1
  | .figures => 2
  | .sorting => 3
  | .limit => 4
  | .period => 5

/-- How far a query has been read. Span's `Parser`, which is a descent through the clauses, is in
one of these states at every token. -/
inductive State
  /-- Nothing has been read. -/
  | start
  /-- `HAS` has been read. -/
  | has
  /-- A quantifier has been read, and its list has to open. -/
  | listOpen (quantifier : Quantifier)
  /-- A criterion of the `HAS` clause is being read. -/
  | criterion (form : Form) (state : CriterionState)
  /-- The `HAS` clause is complete. -/
  | required (requirement : Requirement)
  /-- `IN` has been read, and a filter has to follow. -/
  | filter (requirement : Requirement)
  /-- A filter has named its field. -/
  | filterOperator (requirement : Requirement) (filters : List Filter) (field : Field)
  /-- A filter lacks only its value. -/
  | filterValue (requirement : Requirement) (filters : List Filter) (field : Field)
      (op : Comparison)
  /-- A filter is complete. -/
  | filtered (requirement : Requirement) (filters : List Filter)
  /-- A comma follows a complete filter. -/
  | filterComma (requirement : Requirement) (filters : List Filter)
  /-- `COUNT` has been read. -/
  | metric (requirement : Requirement) (filters : List Filter)
  /-- The query is complete, and clauses after the stage may follow. -/
  | clause (stage : Stage) (query : Query)
  /-- `BY` has been read. -/
  | grouping (query : Query)
  /-- `SHOW` has been read. -/
  | figures (query : Query)
  /-- `SORT` has been read. -/
  | sortKey (query : Query)
  /-- The sort key has been read, and a direction may follow. -/
  | direction (query : Query)
  /-- `TOP` has been read. -/
  | limit (query : Query)
  /-- `FOR` has been read. -/
  | period (query : Query)
  /-- A year of a list is due; those before it have been read. -/
  | listedYear (query : Query) (years : List Int)
  /-- A year of a list has been read. -/
  | listedYears (query : Query) (years : List Int)
  /-- The year column has been named. -/
  | yearOperator (query : Query)
  /-- A comparison of years lacks only its year. -/
  | yearValue (query : Query) (op : Comparison)
  deriving DecidableEq, Repr

/-! ## Steps -/

/-- The year that a token is. Span's `number_value` at the type of years. -/
def year? (t : Token) : Option Int :=
  if t.kind = .number then Text.int32? t.text else none

/-- The number of rows that a token is. Span's `number_value` at the type of limits. -/
def limit? (t : Token) : Option Nat :=
  if t.kind = .number then Text.nat64? t.text else none

/-- The quantifier that a token is. -/
def quantifier? (t : Token) : Option Quantifier :=
  match t.keyword? with
  | some .any => some .any
  | some .all => some .all
  | some .none => some .none
  | _ => none

/-- The step into the `COUNT` clause. -/
def count? (r : Requirement) (fs : List Filter) (t : Token) : Option State :=
  if t.keyword? = some .count then some (.metric r fs) else none

/-- The step for a token after the `HAS` clause. -/
def afterRequirement? (r : Requirement) (t : Token) : Option State :=
  if t.keyword? = some .inside then some (.filter r) else count? r [] t

/-- The step for a token where a filter may start. Span's `parse_in_filter`. -/
def filter? (r : Requirement) (fs : List Filter) (t : Token) : Option State :=
  match t.identifier? Vocabulary.ofWord? with
  | some (segment : Segment) => some (.filtered r (fs ++ [.segment segment]))
  | none => (t.identifier? Vocabulary.ofWord?).map fun (field : Field) => .filterOperator r fs field

/-- The step for a token after a criterion that has ended in front of it. -/
def afterCriterion? (form : Form) (c : Criterion) (t : Token) : Option State :=
  match form with
  | .single => afterRequirement? (.single c) t
  | .listed q done =>
    if t.kind = .comma then some (.criterion (.listed q (done ++ [c])) (.operand []))
    else if t.kind = .closeParen then some (.required (.quantified q (done ++ [c])))
    else none

/-- The step for a token in or after a criterion. -/
def criterion? (form : Form) (s : CriterionState) (t : Token) : Option State :=
  match s.next? t with
  | none => none
  | some (.more s) => some (.criterion form s)
  | some (.ended c) => afterCriterion? form c t

/-- The step for a token that may start one of the clauses after a stage. Span's `match_keyword` in
`parse`. -/
def clause? (stage : Stage) (q : Query) (t : Token) : Option State :=
  match t.keyword? with
  | some .groupBy => if stage.rank < Stage.grouping.rank then some (.grouping q) else none
  | some .display => if stage.rank < Stage.figures.rank then some (.figures q) else none
  | some .sort => if stage.rank < Stage.sorting.rank then some (.sortKey q) else none
  | some .top => if stage.rank < Stage.limit.rank then some (.limit q) else none
  | some .period => if stage.rank < Stage.period.rank then some (.period q) else none
  | _ => none

/-- The figures that a token asks for. The word `count` is a keyword wherever it stands. Span's
`parse_show_clause`. -/
def figures? (t : Token) : Option Figures :=
  if t.keyword? = some .count then some .count else t.identifier? Vocabulary.ofWord?

/-- The sort key that a token names. The word `count` is a keyword wherever it stands. Span's
`parse_sort_clause`. -/
def sortKey? (t : Token) : Option SortKey :=
  if t.keyword? = some .count then some .count else t.identifier? Vocabulary.ofWord?

/-- The step for a token after `FOR`. Span's `parse_for_clause`. -/
def period? (q : Query) (t : Token) : Option State :=
  if t.kind = .openParen then some (.listedYear q [])
  else if t.kind = .identifier then
    if yearNames.contains t.text then some (.yearOperator q) else none
  else (year? t).map fun y => .clause .period { q with period := some (.years [y]) }

namespace State

/-- The state after a token, unless no query can have it at this place. -/
def next? (s : State) (t : Token) : Option State :=
  match s with
  | .start => if t.keyword? = some .has then some .has else none
  | .has =>
    match quantifier? t with
    | some q => some (.listOpen q)
    | none => criterion? .single (.operand []) t
  | .listOpen q =>
    if t.kind = .openParen then some (.criterion (.listed q []) (.operand [])) else none
  | .criterion form s => criterion? form s t
  | .required r => afterRequirement? r t
  | .filter r => filter? r [] t
  | .filterOperator r fs field => (comparison? t).map fun op => .filterValue r fs field op
  | .filterValue r fs field op =>
    (value? t).map fun value => .filtered r (fs ++ [.compare field op value])
  | .filtered r fs =>
    if t.kind = .comma then some (.filterComma r fs) else filter? r fs t <|> count? r fs t
  | .filterComma r fs => filter? r fs t <|> count? r fs t
  | .metric r fs =>
    (t.identifier? Vocabulary.ofWord?).map fun metric =>
      .clause .metric { requirement := some r, filters := fs, metric }
  | .clause stage q => clause? stage q t
  | .grouping q =>
    (t.identifier? Vocabulary.ofWord?).map fun grouping => .clause .grouping { q with grouping }
  | .figures q => (figures? t).map fun figures => .clause .figures { q with figures }
  | .sortKey q => (sortKey? t).map fun key => .direction { q with sorting := { key } }
  | .direction q =>
    match t.identifier? Direction.ofWord? with
    | some d => some (.clause .sorting { q with sorting := { q.sorting with direction := d } })
    | none => clause? .sorting q t
  | .limit q => (limit? t).map fun n => .clause .limit { q with limit := some n }
  | .period q => period? q t
  | .listedYear q ys => (year? t).map fun y => .listedYears q (ys ++ [y])
  | .listedYears q ys =>
    if t.kind = .comma then some (.listedYear q ys)
    else if t.kind = .closeParen then
      some (.clause .period { q with period := some (.years ys) })
    else none
  | .yearOperator q => (comparison? t).map fun op => .yearValue q op
  | .yearValue q op =>
    (year? t).map fun y => .clause .period { q with period := some (.compare op y) }

/-- The query that has been read, if it may end here. -/
def query? : State → Option Query
  | .clause _ q => some q
  | .direction q => some q
  | _ => none

/-- What is wrong with a number that stands where one was due, or with anything else there. -/
def numberComplaint (t : Token) (e : Expectation) : Complaint :=
  if t.kind = .number then .invalidNumber else .expected e

/-- What is wrong with a token that has no next state. -/
def complaint (s : State) (t : Token) : Complaint :=
  match s with
  | .start => .expected (.keyword .has)
  | .has => .expected .operand
  | .listOpen _ => .expected (.kind .openParen)
  | .criterion form s =>
    match s.next? t with
    | none => s.complaint t
    | some _ =>
      match form with
      | .single => .expected (.keyword .count)
      | .listed _ _ => .expected (.kind .closeParen)
  | .required _ => .expected (.keyword .count)
  | .filter _ => .expected .filter
  | .filterOperator _ _ _ => .expected .comparison
  | .filterValue _ _ _ _ => numberComplaint t .value
  | .filtered _ _ => .expected (.keyword .count)
  | .filterComma _ _ => .expected (.keyword .count)
  | .metric _ _ => .expected .metric
  | .clause _ _ => .expected .endOfText
  | .grouping _ => .expected .grouping
  | .figures _ => .expected .figures
  | .sortKey _ => .expected .sortKey
  | .direction _ => .expected .endOfText
  | .limit _ => numberComplaint t .limit
  | .period _ =>
    if t.kind = .identifier then .expected .yearColumn else numberComplaint t (.year .afterFor)
  | .listedYear _ ys =>
    numberComplaint t (.year (if ys.isEmpty then .afterParen else .afterComma))
  | .listedYears _ _ => .expected (.kind .closeParen)
  | .yearOperator _ => .expected .comparison
  | .yearValue _ _ => numberComplaint t (.year .inComparison)

/-- The query that has been read when the text ends with the given token. -/
def finish (s : State) (t : Token) : Except SyntaxError Query :=
  match s.query? with
  | some q => .ok q
  | none => .error ⟨s.complaint t, t⟩

/-- The query that the tokens complete; the text ends at the first end among them, or with `stop`
behind them. -/
def run (stop : Token) : State → List Token → Except SyntaxError Query
  | s, [] => s.finish stop
  | s, t :: ts =>
    if t.kind = .endOfText then s.finish t
    else match s.next? t with
      | some s => run stop s ts
      | none => .error ⟨s.complaint t, t⟩

end State

end Broadband.Parser

namespace Broadband

/-! ## Queries from tokens and from text -/

/-- The query that a list of tokens spells. Span's `parse`. -/
def Query.ofTokens (ts : List Token) : Except SyntaxError Query :=
  Parser.State.run (Token.endAfter ts) .start ts

/-- Why a text is no query. -/
inductive TextError
  | lexical (error : LexicalError)
  | syntactic (error : SyntaxError)
  deriving DecidableEq, Repr

namespace TextError

/-- Where the text goes wrong. -/
def position : TextError → Position
  | .lexical e => e.position
  | .syntactic e => e.position

/-- What is wrong and where. -/
def describe : TextError → String
  | .lexical e => e.describe
  | .syntactic e => e.describe

end TextError

/-- The query that a text spells. Span's `parse_str`. -/
def Query.parse (s : String) : Except TextError Query :=
  match tokenize s with
  | .error e => .error (.lexical e)
  | .ok ts =>
    match Query.ofTokens ts with
    | .error e => .error (.syntactic e)
    | .ok q => .ok q

end Broadband
