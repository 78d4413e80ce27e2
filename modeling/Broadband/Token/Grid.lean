import Broadband.Text.Grid
import Broadband.Token

/-!
# Tokens as a grid

The tokens of a query with their places, for someone who wonders how it was cut up.

Span draws it in `format_tokens`, for the `--tokens` of its command.
-/

namespace Broadband.Token

/-- The name of a kind. -/
def Kind.title : Kind → String
  | .keyword => "Keyword"
  | .identifier => "Identifier"
  | .operator => "Operator"
  | .number => "Number"
  | .string => "String"
  | .openParen => "LParen"
  | .closeParen => "RParen"
  | .comma => "Comma"
  | .endOfText => "Eof"

/-- The cells of a token. -/
def cells (t : Token) : List String :=
  [t.kind.title, t.text, toString t.position.offset, toString t.position.line,
   toString t.position.column]

/-- Tokens as a grid; nothing is drawn for none. Span's `format_tokens`. -/
def grid (ts : List Token) : String :=
  if ts.isEmpty then ""
  else Text.Grid.draw ["kind", "text", "offset", "line", "column"] (ts.map cells)

end Broadband.Token
