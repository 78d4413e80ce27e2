/-!
# Sets of characters as ranges

A property of characters is a table of ranges of code points here, so that it can be read against
the standard that defines it.
-/

namespace Broadband.Text

/-- The code point of a character lies in one of the ranges, both ends included. -/
def inRanges (ranges : List (Nat × Nat)) (c : Char) : Bool :=
  ranges.any fun (lo, hi) => lo ≤ c.toNat && c.toNat ≤ hi

end Broadband.Text
