import Broadband.Text.Ranges

/-!
# Blank characters

The query language, the session and the service all skip blanks, and they mean the same set by
it: the characters with the Unicode property `White_Space`. The set is small and closed, so it is
a table here; everything that trims or skips goes through `isBlank`.
-/

namespace Broadband.Text

/-! ## The property -/

/-- The ranges of code points with the property `White_Space`, ascending, both ends included. -/
def blankRanges : List (Nat × Nat) :=
  [(0x09, 0x0D), (0x20, 0x20), (0x85, 0x85), (0xA0, 0xA0), (0x1680, 0x1680), (0x2000, 0x200A),
   (0x2028, 0x2029), (0x202F, 0x202F), (0x205F, 0x205F), (0x3000, 0x3000)]

/-- A character with the Unicode property `White_Space`. -/
def isBlank (c : Char) : Bool := inRanges blankRanges c

/-! ## Trimming -/

/-- The text without the blanks it starts with. -/
def trimStart (s : String) : String :=
  String.ofList (s.toList.dropWhile isBlank)

/-- The text without the blanks at either end. -/
def trim (s : String) : String :=
  String.ofList ((s.toList.dropWhile isBlank).reverse.dropWhile isBlank).reverse

end Broadband.Text
