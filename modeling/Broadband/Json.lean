import Broadband.Json.Text
import Broadband.Text.Numeral

/-!
# JSON values

A value is read from the start of a text, and what follows it is handed back. A value holds as much
as a request can use: the number of a numeral that is not an integer is not kept, nor is a text
that names no characters, yet both are values and may stand where nobody looks.
-/

namespace Broadband

/-- A JSON value. -/
inductive Json
  | null
  | bool (b : Bool)
  | integer (n : Int)
  /-- A number with a fraction or an exponent, or a negative zero. -/
  | real
  /-- A text; it has no content if an escape in it is half a surrogate pair. -/
  | text (content : Option String)
  | array (items : List Json)
  | object (members : List (String × Json))
  deriving Repr

namespace Json

/-- A character that may stand between the parts of a value. -/
def isSpace (c : Char) : Bool := c == ' ' || c == '\t' || c == '\n' || c == '\r'

/-- A text without the blanks at its start. -/
def skip (cs : List Char) : List Char := cs.dropWhile isSpace

/-! ## Numbers -/

/-- Digits, at least one, and what follows them. -/
def digits? (cs : List Char) : Option (List Char × List Char) :=
  match cs.takeWhile Text.isDigit with
  | [] => none
  | d :: ds => some (d :: ds, cs.dropWhile Text.isDigit)

/-- What follows a fraction, and whether there is one. -/
def fraction? : List Char → Option (Bool × List Char)
  | '.' :: cs => (digits? cs).map fun (_, rest) => (true, rest)
  | cs => some (false, cs)

/-- A text without a sign at its start. -/
def unsigned : List Char → List Char
  | '+' :: cs => cs
  | '-' :: cs => cs
  | cs => cs

/-- What follows an exponent, and whether there is one. -/
def exponent? : List Char → Option (Bool × List Char)
  | 'e' :: cs => (digits? (unsigned cs)).map fun (_, rest) => (true, rest)
  | 'E' :: cs => (digits? (unsigned cs)).map fun (_, rest) => (true, rest)
  | cs => some (false, cs)

/-- A number without a sign: a zero is followed by no other digit. -/
def unsignedNumber? (negative : Bool) (cs : List Char) : Option (Json × List Char) := do
  let (ds, rest) ← digits? cs
  if ds.head? == some '0' && ds.length != 1 then none
  let (fractional, rest) ← fraction? rest
  let (scaled, rest) ← exponent? rest
  let n := Text.digitsValue ds
  if fractional || scaled || (negative && n == 0) then some (.real, rest)
  else some (.integer (if negative then -n else n), rest)

/-- A number. -/
def number? : List Char → Option (Json × List Char)
  | '-' :: cs => unsignedNumber? true cs
  | cs => unsignedNumber? false cs

/-! ## Values -/

/-- A text after its opening quote. -/
def text? (cs : List Char) : Option (Json × List Char) :=
  (units? cs).map fun (ps, rest) => (.text ((decode? ps).map String.ofList), rest)

/-- The name of a member after its opening quote, and what follows the colon. -/
def name? (cs : List Char) : Option (String × List Char) := do
  let (ps, rest) ← units? cs
  let name ← decode? ps
  match skip rest with
  | ':' :: rest => some (String.ofList name, rest)
  | _ => none

mutual

/-- A value at the start of a text. The first argument bounds the depth of the search. -/
def value? : Nat → List Char → Option (Json × List Char)
  | 0, _ => none
  | n + 1, cs =>
    match skip cs with
    | '\x7b' :: rest =>
      match skip rest with
      | '\x7d' :: rest => some (.object [], rest)
      | rest => (members? n rest).map fun (ms, rest) => (.object ms, rest)
    | '[' :: rest =>
      match skip rest with
      | ']' :: rest => some (.array [], rest)
      | rest => (items? n rest).map fun (vs, rest) => (.array vs, rest)
    | '"' :: rest => text? rest
    | 'n' :: 'u' :: 'l' :: 'l' :: rest => some (.null, rest)
    | 't' :: 'r' :: 'u' :: 'e' :: rest => some (.bool true, rest)
    | 'f' :: 'a' :: 'l' :: 's' :: 'e' :: rest => some (.bool false, rest)
    | rest => number? rest

/-- The items of an array up to its closing bracket, at least one. -/
def items? : Nat → List Char → Option (List Json × List Char)
  | 0, _ => none
  | n + 1, cs => do
    let (v, rest) ← value? n cs
    match skip rest with
    | ',' :: rest => (items? n rest).map fun (vs, rest) => (v :: vs, rest)
    | ']' :: rest => some ([v], rest)
    | _ => none

/-- The members of an object up to its closing brace, at least one. -/
def members? : Nat → List Char → Option (List (String × Json) × List Char)
  | 0, _ => none
  | n + 1, cs =>
    match skip cs with
    | '"' :: rest => do
      let (name, rest) ← name? rest
      let (v, rest) ← value? n rest
      match skip rest with
      | ',' :: rest => (members? n rest).map fun (ms, rest) => ((name, v) :: ms, rest)
      | '\x7d' :: rest => some ([(name, v)], rest)
      | _ => none
    | _ => none

end

/-- The value at the start of a text; what follows it does not count. A value and its parts take
two steps of the search for each character at most. -/
def ofText? (s : String) : Option Json :=
  (value? (2 * s.length + 2) s.toList).map (·.1)

end Json

end Broadband
