import Broadband.Text.Numeral

/-!
# Numbers in double precision

A number with a point or an exponent is kept in 64 bits, that is with 53 binary digits. Everything
here is exact: a fraction is rounded once, to the nearest such number, and of two that are as near
to the even one. A number is written with the fewest decimal digits that read back as the same
number.
-/

namespace Broadband

/-- A number in double precision. The value of a finite one is its mantissa times two to its
exponent. -/
inductive Double
  | nan
  | infinite (negative : Bool)
  | finite (negative : Bool) (mantissa : Nat) (exponent : Int)
  deriving DecidableEq, Repr

namespace Double

/-! ## Rounding -/

/-- A quotient rounded to the nearest natural number, a half to the even one. -/
def roundDiv (n d : Nat) : Nat :=
  let q := n / d
  let r := n % d
  if 2 * r < d then q
  else if d < 2 * r then q + 1
  else q + q % 2

/-- A fraction times a power. -/
def scale (base n d : Nat) (e : Int) : Nat × Nat :=
  if 0 ≤ e then (n * base.pow e.toNat, d) else (n, d * base.pow (-e).toNat)

/-- The least exponent. -/
def leastExponent : Int := -1074

/-- The greatest exponent. -/
def greatestExponent : Int := 971

/-- The exponent at which a positive fraction has 53 binary digits, or the least one. -/
def exponentFor (n d : Nat) : Int :=
  let e := max ((n.log2 : Int) - d.log2 - 53) leastExponent
  let (a, b) := scale 2 n d (-e)
  if Nat.pow 2 53 ≤ a / b then e + 1 else e

/-- The mantissa and the exponent nearest to a fraction. -/
def nearest (n d : Nat) : Nat × Int :=
  if n = 0 then (0, leastExponent)
  else
    let e := exponentFor n d
    let (a, b) := scale 2 n d (-e)
    let m := roundDiv a b
    if m = Nat.pow 2 53 then (Nat.pow 2 52, e + 1) else (m, e)

/-! ## Reading -/

/-- The number of decimal digits of a natural number. -/
def digitCount (n : Nat) : Nat := (toString n).length

/-- The number nearest to digits times a power of ten. Powers that lie beyond all numbers are not
worked out. -/
def ofDecimal (negative : Bool) (digits : Nat) (power : Int) : Double :=
  let places : Int := digitCount digits + power
  if digits = 0 ∨ places < -400 then finite negative 0 leastExponent
  else if 400 < places then infinite negative
  else
    let (n, d) := scale 10 digits 1 power
    let (m, e) := nearest n d
    if greatestExponent < e then infinite negative else finite negative m e

/-- The power that an exponent gives: none is zero. -/
def power? : List Char → Option Int
  | [] => some 0
  | 'e' :: cs => Text.integer? (String.ofList cs)
  | 'E' :: cs => Text.integer? (String.ofList cs)
  | _ => none

/-- A numeral without its sign: digits with a point among them or at an end, and an exponent. -/
def unsigned? (negative : Bool) (cs : List Char) : Option Double := do
  let whole := cs.takeWhile Text.isDigit
  let rest := cs.dropWhile Text.isDigit
  let (part, rest) := match rest with
    | '.' :: cs => (cs.takeWhile Text.isDigit, cs.dropWhile Text.isDigit)
    | cs => ([], cs)
  let power ← power? rest
  if whole.isEmpty && part.isEmpty then none
  else some (ofDecimal negative (Text.digitsValue (whole ++ part)) (power - part.length))

/-- A number without its sign, as a word or as a numeral. -/
def magnitude? (negative : Bool) (cs : List Char) : Option Double :=
  match String.ofList (cs.map Char.toLower) with
  | "inf" | "infinity" => some (infinite negative)
  | "nan" => some nan
  | _ => unsigned? negative cs

/-- The number that a text gives. -/
def ofText? (s : String) : Option Double :=
  match s.toList with
  | '+' :: cs => magnitude? false cs
  | '-' :: cs => magnitude? true cs
  | cs => magnitude? false cs

/-! ## Whole numbers -/

/-- A quotient rounded to the nearest natural number, a half upwards. -/
def roundUpDiv (n d : Nat) : Nat := (2 * n + d) / (2 * d)

/-- The nearest whole number of a finite number, a half away from zero. -/
def round (negative : Bool) (mantissa : Nat) (exponent : Int) : Int :=
  let (n, d) := scale 2 mantissa 1 exponent
  if negative then -(roundUpDiv n d : Int) else roundUpDiv n d

/-! ## Writing -/

/-- The natural number at or below a fraction, or the next one, whichever passes a test; of two that
do, the nearer, and the greater if they are as near. -/
def closest? (n d : Nat) (test : Nat → Bool) : Option Nat :=
  let low := n / d
  match test low, test (low + 1) with
  | true, true => some (if 2 * (n % d) < d then low else low + 1)
  | true, false => some low
  | false, true => some (low + 1)
  | false, false => none

/-- The digits and the power of ten of a positive number at a number of digits, if they read back. -/
def decimal? (mantissa : Nat) (exponent : Int) (count : Nat) : Option (Nat × Int) :=
  let (n, d) := scale 2 mantissa 1 exponent
  let places : Int := if d ≤ n then digitCount (n / d) else 1 - (digitCount (d / n) : Int)
  let power := places - count
  let (a, b) := scale 10 n d (-power)
  let readsBack (digits : Nat) : Bool :=
    let (x, y) := scale 10 digits 1 power
    nearest x y = (mantissa, exponent)
  (closest? a b readsBack).map fun digits => (digits, power)

/-- The fewest digits of a positive number that read back, and their power of ten. Seventeen always
do. -/
def shortest (mantissa : Nat) (exponent : Int) : Nat × Int :=
  (((List.range 17).map (· + 1)).findSome? (decimal? mantissa exponent)).getD (0, 0)

/-- Digits times a power of ten without an exponent: zeros before or after them, and a point only
before a part that is not zero. -/
def positional (digits : Nat) (power : Int) : List Char :=
  let ds := (toString digits).toList
  if 0 ≤ power then ds ++ List.replicate power.toNat '0'
  else
    let places := (-power).toNat
    let filled := List.replicate (places + 1 - ds.length) '0' ++ ds
    let whole := filled.take (filled.length - places)
    let part := (((filled.drop (filled.length - places)).reverse).dropWhile (· == '0')).reverse
    if part.isEmpty then whole else whole ++ '.' :: part

/-- The text of a number. -/
def toText : Double → String
  | nan => "NaN"
  | infinite negative => if negative then "-inf" else "inf"
  | finite negative mantissa exponent =>
    let (digits, power) := if mantissa = 0 then (0, 0) else shortest mantissa exponent
    (if negative then "-" else "") ++ String.ofList (positional digits power)

end Double

end Broadband
