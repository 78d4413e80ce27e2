import Broadband.Text.Escaped

/-!
# Texts in JSON

A text stands between double quotes, and what must not stand there as it is, is written as an
escape. Reading goes in two steps, because one character may be written as two escapes, the halves
of a surrogate pair: `units?` takes the text apart up to its closing quote, `decode?` puts the
halves together. The second step may fail where the first succeeds, and a reader that skips a text
takes the first only.
-/

namespace Broadband.Json

/-! ## Reading -/

/-- A piece of a written text: a character, or a number that an escape gives. -/
inductive Piece
  | char (c : Char)
  | code (n : Nat)
  deriving DecidableEq, Repr

/-- The value of a hexadecimal digit. -/
def hexValue? (c : Char) : Option Nat :=
  if '0' ≤ c ∧ c ≤ '9' then some (c.toNat - '0'.toNat)
  else if 'a' ≤ c ∧ c ≤ 'f' then some (c.toNat - 'a'.toNat + 10)
  else if 'A' ≤ c ∧ c ≤ 'F' then some (c.toNat - 'A'.toNat + 10)
  else none

/-- The number that hexadecimal digits give. -/
def hexNumber? (cs : List Char) : Option Nat :=
  cs.foldlM (fun n c => (hexValue? c).map (n * 16 + ·)) 0

/-- The character that a one-letter escape stands for. -/
def escape? : Char → Option Char
  | '"' => some '"'
  | '\\' => some '\\'
  | '/' => some '/'
  | 'b' => some '\x08'
  | 'f' => some '\x0c'
  | 'n' => some '\n'
  | 'r' => some '\r'
  | 't' => some '\t'
  | _ => none

/-- The pieces of a text after its opening quote, and what follows its closing quote. -/
def units? : List Char → Option (List Piece × List Char)
  | [] => none
  | '"' :: rest => some ([], rest)
  | '\\' :: 'u' :: a :: b :: c :: d :: rest => do
    let n ← hexNumber? [a, b, c, d]
    let (ps, rest) ← units? rest
    return (.code n :: ps, rest)
  | '\\' :: c :: rest => do
    let c ← escape? c
    let (ps, rest) ← units? rest
    return (.char c :: ps, rest)
  | c :: rest =>
    if c.toNat < 0x20 then none
    else do
      let (ps, rest) ← units? rest
      return (.char c :: ps, rest)

/-- The first half of a surrogate pair. -/
def isHigh (n : Nat) : Bool := 0xD800 ≤ n && n < 0xDC00

/-- The second half of a surrogate pair. -/
def isLow (n : Nat) : Bool := 0xDC00 ≤ n && n < 0xE000

/-- The characters of some pieces; half a pair is none. -/
def decode? : List Piece → Option (List Char)
  | [] => some []
  | .char c :: ps => (decode? ps).map (c :: ·)
  | .code high :: .code low :: ps =>
    if isHigh high then
      if isLow low then
        (decode? ps).map (Char.ofNat (0x10000 + (high - 0xD800) * 0x400 + (low - 0xDC00)) :: ·)
      else none
    else if isLow high then none
    else (decode? (.code low :: ps)).map (Char.ofNat high :: ·)
  | .code n :: ps =>
    if isHigh n || isLow n then none else (decode? ps).map (Char.ofNat n :: ·)

/-! ## Writing -/

/-- A character as it is written. -/
def written (c : Char) : List Char :=
  match c with
  | '"' => ['\\', '"']
  | '\\' => ['\\', '\\']
  | '\x08' => ['\\', 'b']
  | '\x0c' => ['\\', 'f']
  | '\n' => ['\\', 'n']
  | '\r' => ['\\', 'r']
  | '\t' => ['\\', 't']
  | c =>
    if c.toNat < 0x20 then
      ['\\', 'u', '0', '0', Text.hexDigit (c.toNat / 16), Text.hexDigit (c.toNat % 16)]
    else [c]

/-- A text as it is written. -/
def quoted (s : String) : String :=
  String.ofList ('"' :: s.toList.flatMap written ++ ['"'])

end Broadband.Json
