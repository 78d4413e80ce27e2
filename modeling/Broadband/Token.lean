/-!
# Tokens

The words, numbers, strings and marks of a query, each with the place where it starts. A place is
kept in three measures at once: the byte offset in UTF-8, for tools, and the line and column, for
people. Columns count characters, and only a line feed starts a line.

These are `Token` and `TokenKind` of Span's lexer; a docstring below, here and in the other modules,
gives the name that a definition has in Span where it differs.
-/

namespace Broadband

/-! ## Places -/

/-- A place in a text. -/
structure Position where
  offset : Nat := 0
  line : Nat := 1
  column : Nat := 1
  deriving DecidableEq, Repr

namespace Position

/-- The place after a character. Span's `Lexer.advance`. -/
def advance (p : Position) (c : Char) : Position :=
  if c = '\n' then ⟨p.offset + c.utf8Size, p.line + 1, 1⟩
  else ⟨p.offset + c.utf8Size, p.line, p.column + 1⟩

/-- The place after a run of characters. -/
def advanceBy (p : Position) (cs : List Char) : Position := cs.foldl advance p

/-- How a place is named in a message. -/
def describe (p : Position) : String :=
  "line " ++ toString p.line ++ ", column " ++ toString p.column

end Position

/-! ## Keywords -/

/-- The words that hold a query together. Span's `KEYWORDS`. -/
inductive Keyword
  | has
  | inside
  | count
  | groupBy
  | display
  | sort
  | top
  | period
  | and
  | or
  | not
  | any
  | all
  | none
  deriving DecidableEq, Repr

namespace Keyword

/-- Every keyword. -/
def values : List Keyword :=
  [.has, .inside, .count, .groupBy, .display, .sort, .top, .period, .and, .or, .not, .any, .all,
   .none]

/-- The keyword as it stands in a token: in capitals. -/
def text : Keyword → String
  | .has => "HAS"
  | .inside => "IN"
  | .count => "COUNT"
  | .groupBy => "BY"
  | .display => "SHOW"
  | .sort => "SORT"
  | .top => "TOP"
  | .period => "FOR"
  | .and => "AND"
  | .or => "OR"
  | .not => "NOT"
  | .any => "ANY"
  | .all => "ALL"
  | .none => "NONE"

/-- The keyword that a text in capitals is. -/
def ofText? (s : String) : Option Keyword :=
  values.find? fun k => k.text == s

end Keyword

/-! ## Tokens -/

/-- The kinds of token. Span's `TokenKind`. -/
inductive Token.Kind
  | keyword
  | identifier
  | operator
  | number
  | string
  | openParen
  | closeParen
  | comma
  | endOfText
  deriving DecidableEq, Repr

/-- How a kind is named in a message. -/
def Token.Kind.describe : Token.Kind → String
  | .keyword => "keyword"
  | .identifier => "identifier"
  | .operator => "operator"
  | .number => "number"
  | .string => "string"
  | .openParen => "'('"
  | .closeParen => "')'"
  | .comma => "','"
  | .endOfText => "end of input"

/-- A token. Its text is what it means rather than how it was spelled: keywords are in capitals,
identifiers in small letters, and strings without their quotes and escapes. -/
structure Token where
  kind : Token.Kind
  text : String
  position : Position := {}
  deriving DecidableEq, Repr

namespace Token

/-- How a token is named in a message. -/
def describe (t : Token) : String :=
  match t.kind with
  | .endOfText => "end of input"
  | .string => "string \"" ++ t.text ++ "\""
  | kind => kind.describe ++ " '" ++ t.text ++ "'"

/-- The keyword that a token is. -/
def keyword? (t : Token) : Option Keyword :=
  if t.kind = .keyword then Keyword.ofText? t.text else none

/-- What an identifier means in a given reading of words; other tokens mean nothing in it. -/
def identifier? {α : Type} (t : Token) (meaning : String → Option α) : Option α :=
  if t.kind = .identifier then meaning t.text else none

/-- The end of a text whose last token is known but whose characters are not: directly after that
token, taken to be as long as its text and to lie on one line. -/
def endAfter (ts : List Token) : Token :=
  match ts.getLast? with
  | none => ⟨.endOfText, "", {}⟩
  | some t =>
    ⟨.endOfText, "", ⟨t.position.offset + t.text.utf8ByteSize, t.position.line,
      t.position.column + t.text.length⟩⟩

end Token

end Broadband
