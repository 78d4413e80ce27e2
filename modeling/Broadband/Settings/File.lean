import Broadband.Settings.Tree
import Broadband.Text.Lines

/-!
# Settings files

A settings file is a subset of TOML: comments from `#` on, tables in brackets, and keys with a text
between quotes, a number or a truth value. A name is given once: neither a key nor a table may come
a second time, and a key is not a table.
-/

namespace Broadband.Settings.File

/-! ## Lines -/

/-- What one line of a settings file says. -/
inductive Line
  | blank
  | table (path : List String)
  | entry (path : List String) (value : RawValue)
  deriving DecidableEq, Repr

/-- A blank within a line. -/
def isSpace (c : Char) : Bool := c == ' ' || c == '\t'

/-- The characters without the blanks at either end. -/
def strip (cs : List Char) : List Char :=
  ((cs.dropWhile isSpace).reverse.dropWhile isSpace).reverse

/-- Nothing but blanks and a comment. -/
def isRemark (cs : List Char) : Bool :=
  match cs.dropWhile isSpace with
  | [] => true
  | c :: _ => c == '#'

/-- The parts of a text between dots. -/
def splitDots : List Char → List (List Char)
  | [] => [[]]
  | '.' :: cs => [] :: splitDots cs
  | c :: cs =>
    match splitDots cs with
    | [] => [[c]]
    | part :: parts => (c :: part) :: parts

/-- A character of a name. -/
def isNameChar (c : Char) : Bool := c.isAlphanum || c == '_' || c == '-'

/-- A path of names with dots between them. -/
def path? (cs : List Char) : Option (List String) :=
  (splitDots cs).mapM fun part =>
    let name := strip part
    if !name.isEmpty && name.all isNameChar then some (String.ofList name) else none

/-- The character that a short escape stands for. -/
def escape? : Char → Option Char
  | '"' => some '"'
  | '\\' => some '\\'
  | 'n' => some '\n'
  | 't' => some '\t'
  | 'r' => some '\r'
  | 'b' => some '\x08'
  | 'f' => some '\x0c'
  | _ => none

/-- The inside of a text up to its closing quote, and what follows. -/
def textBody : List Char → Option (List Char × List Char)
  | [] => none
  | '"' :: rest => some ([], rest)
  | '\\' :: c :: rest => do
    let d ← escape? c
    let (text, rest) ← textBody rest
    return (d :: text, rest)
  | c :: rest =>
    if c < ' ' && c != '\t' then none
    else (textBody rest).map fun (text, rest) => (c :: text, rest)

/-- The inside of a text between single quotes, which has no escapes, and what follows. -/
def plainBody : List Char → Option (List Char × List Char)
  | [] => none
  | '\'' :: rest => some ([], rest)
  | c :: rest =>
    if c < ' ' && c != '\t' then none
    else (plainBody rest).map fun (text, rest) => (c :: text, rest)

/-- Digits, perhaps with single underscores between them. -/
def isDigits (cs : List Char) : Bool :=
  let bare (c : Option Char) : Bool := c.any Text.isDigit
  bare cs.head? && bare cs.getLast? && (cs.zip (cs.drop 1)).all fun (a, b) =>
    (a != '_' || Text.isDigit b) && (b != '_' || Text.isDigit a)

/-- Digits without leading zeros. -/
def isWhole (cs : List Char) : Bool :=
  isDigits cs && (cs.head? != some '0' || cs.length == 1)

/-- A number without its sign. -/
def unsigned : List Char → List Char
  | '+' :: cs => cs
  | '-' :: cs => cs
  | cs => cs

/-- The characters without underscores. -/
def bareText (cs : List Char) : String := String.ofList (cs.filter (· != '_'))

/-- A whole number: digits without leading zeros, perhaps with a sign before them. -/
def number? (cs : List Char) : Option Int :=
  if isWhole (unsigned cs) then Text.int64? (bareText cs) else none

/-- An exponent, perhaps with a sign in it. -/
def isExponent : List Char → Bool
  | 'e' :: cs => isDigits (unsigned cs)
  | 'E' :: cs => isDigits (unsigned cs)
  | _ => false

/-- A number that is not whole: it has a part after a point, or an exponent, or both. -/
def isReal (cs : List Char) : Bool :=
  let inNumeral (c : Char) : Bool := Text.isDigit c || c == '_'
  let whole := cs.takeWhile inNumeral
  isWhole whole && match cs.dropWhile inNumeral with
    | '.' :: rest =>
      let after := rest.dropWhile inNumeral
      isDigits (rest.takeWhile inNumeral) && (after.isEmpty || isExponent after)
    | rest => isExponent rest

/-- A number that is not whole, or a word for one that is none. -/
def real? (cs : List Char) : Option Double :=
  if isReal (unsigned cs) || ["inf", "nan"].contains (String.ofList (unsigned cs)) then
    Double.ofText? (bareText cs)
  else none

/-- A value and nothing after it but a comment. -/
def value? (cs : List Char) : Option RawValue :=
  match cs.dropWhile isSpace with
  | '"' :: rest => do
    let (text, rest) ← textBody rest
    if isRemark rest then some (.text (String.ofList text)) else none
  | '\'' :: rest => do
    let (text, rest) ← plainBody rest
    if isRemark rest then some (.text (String.ofList text)) else none
  | cs =>
    match strip (cs.takeWhile (· != '#')) with
    | ['t', 'r', 'u', 'e'] => some (.truth true)
    | ['f', 'a', 'l', 's', 'e'] => some (.truth false)
    | digits => (number? digits).map .number <|> (real? digits).map .real

/-- What a line says, if it says anything. -/
def line? (cs : List Char) : Option Line :=
  if isRemark cs then some .blank
  else match cs.dropWhile isSpace with
    | '[' :: rest =>
      match rest.dropWhile (· != ']') with
      | ']' :: after =>
        if isRemark after then (path? (rest.takeWhile (· != ']'))).map .table else none
      | _ => none
    | cs =>
      match cs.dropWhile (· != '=') with
      | '=' :: after => do
        let path ← path? (cs.takeWhile (· != '='))
        let value ← value? after
        return .entry path value
      | _ => none

/-! ## Files -/

/-- What has been read of a file. -/
structure Reading where
  /-- The table that keys belong to. -/
  current : List String := []
  /-- The tables that have been opened. -/
  tables : List (List String) := []
  /-- The values, in their order. -/
  values : List (List String × RawValue) := []
  deriving DecidableEq, Repr

/-- One path is the other or leads to it. -/
def overlap (a b : List String) : Bool := a.isPrefixOf b || b.isPrefixOf a

/-- What has been read after one more line, unless it gives a name a second time. -/
def Reading.add? (r : Reading) : Line → Option Reading
  | .blank => some r
  | .table path =>
    if r.tables.contains path || r.values.any fun (p, _) => p.isPrefixOf path then none
    else some { r with current := path, tables := path :: r.tables }
  | .entry path v =>
    let full := r.current ++ path
    if r.values.any (fun (p, _) => overlap p full) || r.tables.any (full.isPrefixOf ·) then none
    else some { r with values := r.values ++ [(full, v)] }

/-- The values that a file sets, in their order, if it can be read. -/
def parse? (s : String) : Option (List (List String × RawValue)) := do
  let lines ← (Text.lines s.toList).mapM line?
  let reading ← lines.foldlM Reading.add? {}
  return reading.values

end Broadband.Settings.File
