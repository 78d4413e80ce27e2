import Broadband.Proofs.Query.Printer

/-!
# The grammar of queries

What it means for a list of tokens to be a query, said without a parser. The rules are those of the
usual notation,

    query    := HAS required [IN filters [,]] COUNT metric [BY grouping] [SHOW figures]
                [SORT key [asc | desc]] [TOP limit] [FOR period] end
    required := (ANY | ALL | NONE) '(' choice (',' choice)* ')'  |  choice
    choice   := term (OR term)*
    term     := operand (AND operand)*
    operand  := NOT operand  |  '(' choice ')'  |  technology  |  field comparison value
    filters  := filter ([,] filter)*
    period   := year  |  '(' year (',' year)* ')'  |  (aar | year) comparison year

one constructor for each way to read a line. A relation between tokens and what they spell carries the
meaning along: `AND` and `OR` join to the left, a clause that is left out has its default, and the word
`count` is the keyword `COUNT` wherever it stands.
-/

namespace Broadband.Grammar

/-! ## Single tokens -/

/-- The token is the keyword. -/
structure IsKeyword (t : Token) (k : Keyword) : Prop where
  kind : t.kind = .keyword
  text : t.text = k.text

/-- The token is one of the words for the value. -/
structure IsWord {α : Type} [Vocabulary α] (t : Token) (a : α) : Prop where
  kind : t.kind = .identifier
  text : t.text ∈ Vocabulary.wordsFor a

/-- The token is the symbol of the comparison. -/
structure IsSymbol (t : Token) (op : Comparison) : Prop where
  kind : t.kind = .operator
  text : t.text = op.symbol

/-- The token is the word for the direction. -/
inductive IsDirection (t : Token) : Direction → Prop
  | asc (kind : t.kind = .identifier) (text : t.text = "asc") : IsDirection t .asc
  | desc (kind : t.kind = .identifier) (text : t.text = "desc") : IsDirection t .desc

/-- The token is one of the two words for the year. -/
structure IsYearColumn (t : Token) : Prop where
  kind : t.kind = .identifier
  text : t.text = "aar" ∨ t.text = "year"

/-- The token is the value: a number that 64 bits with a sign can hold, a string, or a technology by
one of its words. -/
inductive IsValue (t : Token) : Value → Prop
  | number {n : Int} (kind : t.kind = .number) (text : Text.integer? t.text = some n)
      (fits : -9223372036854775808 ≤ n ∧ n ≤ 9223372036854775807) : IsValue t (.number n)
  | string (kind : t.kind = .string) : IsValue t (.text t.text)
  | technology {tech : Technology} (word : IsWord t tech) : IsValue t (.text tech.stored)

/-- The token is the year, which 32 bits with a sign can hold. -/
structure IsYear (t : Token) (year : Int) : Prop where
  kind : t.kind = .number
  text : Text.integer? t.text = some year
  fits : -2147483648 ≤ year ∧ year ≤ 2147483647

/-- The token is the limit, which 64 bits without a sign can hold. -/
structure IsLimit (t : Token) (n : Nat) : Prop where
  kind : t.kind = .number
  text : Text.natural? t.text = some n
  fits : n ≤ 18446744073709551615

/-! ## Lists -/

/-- A comma. -/
inductive Comma : List Token → Prop
  | present {t : Token} (kind : t.kind = .comma) : Comma [t]

/-- A comma or nothing. -/
inductive OptionalComma : List Token → Prop
  | absent : OptionalComma []
  | present {t : Token} (kind : t.kind = .comma) : OptionalComma [t]

/-- One or more items, divided by separators. -/
inductive Separated {α : Type} (separator : List Token → Prop) (item : List Token → α → Prop) :
    List Token → List α → Prop
  | one {ts : List Token} {a : α} (last : item ts a) : Separated separator item ts [a]
  | more {ts us vs : List Token} {as : List α} {a : α} (before : Separated separator item ts as)
      (between : separator us) (last : item vs a) :
      Separated separator item (ts ++ us ++ vs) (as ++ [a])

/-! ## Criteria -/

/-- How tightly the outermost word of a criterion binds, the loosest first. -/
inductive Rank
  | choice
  | term
  | operand
  deriving DecidableEq, Repr

/-- The tokens spell the criterion, of which the outermost word binds at least as tightly as the rank
says. -/
inductive Spells : Rank → List Token → Criterion → Prop
  | technology {t : Token} {tech : Technology} (word : IsWord t tech) :
      Spells .operand [t] (.technology tech false)
  | compare {t u v : Token} {field : Field} {op : Comparison} {value : Value} (left : IsWord t field)
      (symbol : IsSymbol u op) (right : IsValue v value) :
      Spells .operand [t, u, v] (.compare field op value false)
  | not {t : Token} {ts : List Token} {c : Criterion} (keyword : IsKeyword t .not)
      (inner : Spells .operand ts c) : Spells .operand (t :: ts) (.not c)
  | paren {t u : Token} {ts : List Token} {c : Criterion} (opening : t.kind = .openParen)
      (inner : Spells .choice ts c) (closing : u.kind = .closeParen) :
      Spells .operand (t :: (ts ++ [u])) c
  | operand {ts : List Token} {c : Criterion} (only : Spells .operand ts c) : Spells .term ts c
  | and {ts us : List Token} {t : Token} {l r : Criterion} (left : Spells .term ts l)
      (keyword : IsKeyword t .and) (right : Spells .operand us r) :
      Spells .term (ts ++ t :: us) (.join .and l r)
  | term {ts : List Token} {c : Criterion} (only : Spells .term ts c) : Spells .choice ts c
  | or {ts us : List Token} {t : Token} {l r : Criterion} (left : Spells .choice ts l)
      (keyword : IsKeyword t .or) (right : Spells .term us r) :
      Spells .choice (ts ++ t :: us) (.join .or l r)

/-! ## Clauses -/

/-- A clause that may be left out: its keyword with what follows it, or nothing and the default. -/
inductive Clause {α : Type} (k : Keyword) (default : α) (body : List Token → α → Prop) :
    List Token → α → Prop
  | absent : Clause k default body [] default
  | present {t : Token} {ts : List Token} {a : α} (keyword : IsKeyword t k) (rest : body ts a) :
      Clause k default body (t :: ts) a

/-- The body of the `HAS` clause. -/
inductive SpellsRequirement : List Token → Requirement → Prop
  | single {ts : List Token} {c : Criterion} (only : Spells .choice ts c) :
      SpellsRequirement ts (.single c)
  | quantified {t u v : Token} {ts : List Token} {q : Quantifier} {cs : List Criterion}
      (keyword : IsKeyword t q.keyword) (opening : u.kind = .openParen)
      (list : Separated Comma (Spells .choice) ts cs) (closing : v.kind = .closeParen) :
      SpellsRequirement (t :: u :: (ts ++ [v])) (.quantified q cs)

/-- One filter. -/
inductive SpellsFilter : List Token → Filter → Prop
  | segment {t : Token} {s : Segment} (word : IsWord t s) : SpellsFilter [t] (.segment s)
  | compare {t u v : Token} {field : Field} {op : Comparison} {value : Value} (left : IsWord t field)
      (symbol : IsSymbol u op) (right : IsValue v value) :
      SpellsFilter [t, u, v] (.compare field op value)

/-- The body of the `IN` clause, with the comma that may follow the last filter. -/
inductive SpellsFilters : List Token → List Filter → Prop
  | mk {ts us : List Token} {fs : List Filter} (list : Separated OptionalComma SpellsFilter ts fs)
      (trailing : OptionalComma us) : SpellsFilters (ts ++ us) fs

/-- A word alone. -/
inductive SpellsWord {α : Type} [Vocabulary α] : List Token → α → Prop
  | mk {t : Token} {a : α} (word : IsWord t a) : SpellsWord [t] a

/-- A word alone, where the keyword `COUNT` stands for one of the values. -/
inductive SpellsWordOrCount {α : Type} [Vocabulary α] (count : α) : List Token → α → Prop
  | word {t : Token} {a : α} (word : IsWord t a) : SpellsWordOrCount count [t] a
  | count {t : Token} (keyword : IsKeyword t .count) : SpellsWordOrCount count [t] count

/-- Either of them is one token. -/
theorem SpellsWordOrCount.singleton {α : Type} [Vocabulary α] {count a : α} {ts : List Token}
    (h : SpellsWordOrCount count ts a) : ∃ t, ts = [t] := by
  cases h with
  | word _ => exact ⟨_, rfl⟩
  | count _ => exact ⟨_, rfl⟩

/-- The body of the `SORT` clause. -/
inductive SpellsSorting : List Token → Sorting → Prop
  | ascending {ts : List Token} {k : SortKey} (key : SpellsWordOrCount .count ts k) :
      SpellsSorting ts ⟨k, .asc⟩
  | directed {ts : List Token} {t : Token} {k : SortKey} {d : Direction}
      (key : SpellsWordOrCount .count ts k) (direction : IsDirection t d) :
      SpellsSorting (ts ++ [t]) ⟨k, d⟩

/-- The body of the `TOP` clause. -/
inductive SpellsLimit : List Token → Option Nat → Prop
  | mk {t : Token} {n : Nat} (limit : IsLimit t n) : SpellsLimit [t] (some n)

/-- A year alone. -/
inductive SpellsYear : List Token → Int → Prop
  | mk {t : Token} {y : Int} (year : IsYear t y) : SpellsYear [t] y

/-- The body of the `FOR` clause. -/
inductive SpellsPeriod : List Token → Option Period → Prop
  | single {t : Token} {y : Int} (year : IsYear t y) : SpellsPeriod [t] (some (.years [y]))
  | list {t u : Token} {ts : List Token} {ys : List Int} (opening : t.kind = .openParen)
      (list : Separated Comma SpellsYear ts ys) (closing : u.kind = .closeParen) :
      SpellsPeriod (t :: (ts ++ [u])) (some (.years ys))
  | compare {t u v : Token} {op : Comparison} {y : Int} (column : IsYearColumn t)
      (symbol : IsSymbol u op) (year : IsYear v y) :
      SpellsPeriod [t, u, v] (some (.compare op y))

/-! ## Queries -/

/-- The clauses up to `COUNT`. -/
inductive SpellsPopulation : List Token → Requirement → List Filter → Metric → Prop
  | mk {t u v : Token} {rs is : List Token} {r : Requirement} {fs : List Filter} {m : Metric}
      (has : IsKeyword t .has) (requirement : SpellsRequirement rs r)
      (filters : Clause .inside [] SpellsFilters is fs) (count : IsKeyword u .count)
      (metric : IsWord v m) :
      SpellsPopulation (t :: (rs ++ is ++ [u, v])) r fs m

/-- **The grammar.** The tokens, of which the last is the end of the text, spell the query. -/
inductive SpellsQuery : List Token → Query → Prop
  | mk {ps bs ss os ls fs : List Token} {e : Token} {q : Query} {r : Requirement}
      (requirement : q.requirement = some r) (population : SpellsPopulation ps r q.filters q.metric)
      (grouping : Clause .groupBy .national SpellsWord bs q.grouping)
      (figures : Clause .display .both (SpellsWordOrCount .count) ss q.figures)
      (sorting : Clause .sort {} SpellsSorting os q.sorting)
      (limit : Clause .top none SpellsLimit ls q.limit)
      (period : Clause .period none SpellsPeriod fs q.period) (ending : e.kind = .endOfText) :
      SpellsQuery (ps ++ bs ++ ss ++ os ++ ls ++ fs ++ [e]) q

end Broadband.Grammar
