import Broadband.Query.Parser.Error
import Broadband.Text.Numeral

/-!
# Reading a criterion token by token

`NOT` binds tighter than `AND`, `AND` tighter than `OR`, and both join to the left. The reader keeps
what is unfinished as a stack of frames: each frame is a piece of a criterion with a hole in it, and
the innermost hole is filled first. An operand fills the holes that bind as tightly as it does at
once (`settle`), and the hole of an `OR` when something that binds less follows (`closeOr`).

The reader does not know what follows a criterion. When a token cannot continue it and no
parenthesis is open, the criterion has ended in front of that token.

Span reads a criterion by descent, in `parse_or_expr`, `parse_and_expr`, `parse_unary_expr` and
`parse_primary_expr`; the frames are the calls that have not returned.
-/

namespace Broadband.Parser

/-! ## Tokens as parts of a criterion -/

/-- The comparison that a token is. Span's `parse_comparison_op`. -/
def comparison? (t : Token) : Option Comparison :=
  if t.kind = .operator then Comparison.ofSymbol? t.text else none

/-- The value that a token is: a number that fits, a string, or a technology by any of its words,
which stands for its stored value. Span's `parse_value`. -/
def value? (t : Token) : Option Value :=
  match t.kind with
  | .number => (Text.int64? t.text).map .number
  | .string => some (.text t.text)
  | .identifier => (Vocabulary.ofWord? t.text).map fun (tech : Technology) => .text tech.stored
  | _ => none

/-! ## States -/

/-- A piece of a criterion with a hole for an operand. A call of Span's `parse_or_expr`,
`parse_and_expr` or `parse_unary_expr` that has not returned is one. -/
inductive Frame
  | not
  | and (left : Criterion)
  | or (left : Criterion)
  | paren
  deriving DecidableEq, Repr

/-- How far a criterion has been read; the frames are innermost first. -/
inductive CriterionState
  /-- An operand is due. -/
  | operand (frames : List Frame)
  /-- A field has been named, and a comparison is due. -/
  | operator (frames : List Frame) (field : Field)
  /-- The value that the field is compared with is due. -/
  | value (frames : List Frame) (field : Field) (op : Comparison)
  /-- An operand is complete. -/
  | complete (frames : List Frame) (criterion : Criterion)
  deriving DecidableEq, Repr

/-- An operand fills the holes of `NOT` and `AND` directly around it. -/
def settle : List Frame → Criterion → CriterionState
  | .not :: frames, c => settle frames (.not c)
  | .and left :: frames, c => settle frames (.join .and left c)
  | frames, c => .complete frames c

/-- A complete operand fills the hole of an `OR` directly around it. -/
def closeOr : List Frame → Criterion → List Frame × Criterion
  | .or left :: frames, c => (frames, .join .or left c)
  | frames, c => (frames, c)

/-! ## Steps -/

/-- What a token does to a criterion: it belongs to it, or it stands after it. -/
inductive CriterionStep
  | more (state : CriterionState)
  | ended (criterion : Criterion)
  deriving DecidableEq, Repr

/-- The step for a token where an operand is due. Span's `parse_primary_expr`. -/
def operand? (frames : List Frame) (t : Token) : Option CriterionState :=
  if t.keyword? = some .not then some (.operand (.not :: frames))
  else if t.kind = .openParen then some (.operand (.paren :: frames))
  else match t.identifier? Vocabulary.ofWord? with
    | some (technology : Technology) => some (settle frames (.technology technology false))
    | none => (t.identifier? Vocabulary.ofWord?).map fun (field : Field) => .operator frames field

/-- The step for a token after a complete operand. -/
def afterOperand? (frames : List Frame) (c : Criterion) (t : Token) : Option CriterionStep :=
  if t.keyword? = some .and then some (.more (.operand (.and c :: frames)))
  else
    let (outer, joined) := closeOr frames c
    if t.keyword? = some .or then some (.more (.operand (.or joined :: outer)))
    else match outer with
      | .paren :: outer =>
        if t.kind = .closeParen then some (.more (settle outer joined)) else none
      | _ => some (.ended joined)

namespace CriterionState

/-- The step for a token, unless no criterion can have it at this place. -/
def next? (s : CriterionState) (t : Token) : Option CriterionStep :=
  match s with
  | .operand frames => (operand? frames t).map .more
  | .operator frames field => (comparison? t).map fun op => .more (.value frames field op)
  | .value frames field op =>
    (value? t).map fun value => .more (settle frames (.compare field op value false))
  | .complete frames c => afterOperand? frames c t

/-- What was expected instead of a token that cannot follow; after a complete operand that can only
be the end of a parenthesis. -/
def complaint (s : CriterionState) (t : Token) : Complaint :=
  match s with
  | .operand _ => .expected .operand
  | .operator _ _ => .expected .comparison
  | .value _ _ _ => if t.kind = .number then .invalidNumber else .expected .value
  | .complete _ _ => .expected (.kind .closeParen)

end CriterionState

end Broadband.Parser
