/-!
# Decimal numerals

Numbers in queries, settings and arguments are decimal numerals with an optional sign. A numeral
is accepted only when its value fits the width of the place it stands in; what it spells (leading
zeros, an explicit plus sign) is not kept.
-/

namespace Broadband.Text

/-! ## Widths -/

/-- The value fits a signed word of 64 bits. -/
def fitsInt64 (n : Int) : Bool := -9223372036854775808 ≤ n && n ≤ 9223372036854775807

/-- The value fits a signed word of 32 bits. -/
def fitsInt32 (n : Int) : Bool := -2147483648 ≤ n && n ≤ 2147483647

/-- The value fits an unsigned word of 64 bits. -/
def fitsNat64 (n : Nat) : Bool := n ≤ 18446744073709551615

/-! ## Reading -/

/-- One of the ten ASCII digits. -/
def isDigit (c : Char) : Bool := '0' ≤ c && c ≤ '9'

/-- The value of a run of digits, read from the left. -/
def digitsValue (cs : List Char) : Nat :=
  cs.foldl (fun n c => n * 10 + (c.toNat - '0'.toNat)) 0

/-- The value of a text that is one or more digits and nothing else. -/
def digits? (cs : List Char) : Option Nat :=
  if !cs.isEmpty && cs.all isDigit then some (digitsValue cs) else none

/-- A numeral that may carry a plus sign. -/
def natural? (s : String) : Option Nat :=
  match s.toList with
  | '+' :: cs => digits? cs
  | cs => digits? cs

/-- A numeral that may carry a plus or a minus sign. -/
def integer? (s : String) : Option Int :=
  match s.toList with
  | '+' :: cs => (digits? cs).map Int.ofNat
  | '-' :: cs => (digits? cs).map fun n => -Int.ofNat n
  | cs => (digits? cs).map Int.ofNat

/-- A signed numeral whose value fits 64 bits. -/
def int64? (s : String) : Option Int := (integer? s).filter fitsInt64

/-- A signed numeral whose value fits 32 bits. -/
def int32? (s : String) : Option Int := (integer? s).filter fitsInt32

/-- An unsigned numeral whose value fits 64 bits. -/
def nat64? (s : String) : Option Nat := (natural? s).filter fitsNat64

end Broadband.Text
