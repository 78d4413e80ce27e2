import Broadband.Text.CharWidth

/-!
# Ligatures

In some scripts certain characters in a row are drawn as one. A text is looked at from its end, so
a ligature is what its last characters are, as long as the characters before them may still join.
`Ligature.ofEnd?` says where one ends and `Ligature.before?` what the character before it adds.
-/

namespace Broadband.Text

/-- The character that asks for a ligature where none would be. -/
def joiner : Char := '\u200D'

/-- The ranges of code points that take no room but are letters or stand apart, so that Arabic
letters do not join across them. -/
def opaqueRanges : List (Nat × Nat) :=
  [(0x605, 0x605), (0x890, 0x891), (0x8E2, 0x8E2), (0x9BE, 0x9BE), (0x9D7, 0x9D7), (0xB3E, 0xB3E),
   (0xB57, 0xB57), (0xBBE, 0xBBE), (0xBD7, 0xBD7), (0xCC0, 0xCC0), (0xCC2, 0xCC2), (0xCC7, 0xCC8),
   (0xCCA, 0xCCB), (0xCD5, 0xCD6), (0xD3E, 0xD3E), (0xD4E, 0xD4E), (0xD57, 0xD57), (0xDCF, 0xDCF),
   (0xDDF, 0xDDF), (0x1160, 0x11FF), (0x1715, 0x1715), (0x1734, 0x1734), (0x180E, 0x180E),
   (0x1B35, 0x1B35), (0x1B3B, 0x1B3B), (0x1B3D, 0x1B3D), (0x1B43, 0x1B44), (0x1BAA, 0x1BAA),
   (0x1BF2, 0x1BF3), (0x200C, 0x200D), (0x2065, 0x2069), (0x302E, 0x302F), (0x3164, 0x3164),
   (0xA8FA, 0xA8FA), (0xA953, 0xA953), (0xA9C0, 0xA9C0), (0xD7B0, 0xD7C6), (0xD7CB, 0xD7FB),
   (0xFF9E, 0xFFA0), (0xFFF0, 0xFFF8), (0x111C0, 0x111C0), (0x111C2, 0x111C3), (0x11235, 0x11235),
   (0x1133E, 0x1133E), (0x1134D, 0x1134D), (0x11357, 0x11357), (0x113B8, 0x113B8),
   (0x113C2, 0x113C2), (0x113C5, 0x113C5), (0x113C7, 0x113C9), (0x113CF, 0x113CF),
   (0x113D1, 0x113D1), (0x114B0, 0x114B0), (0x114BD, 0x114BD), (0x115AF, 0x115AF),
   (0x116B6, 0x116B6), (0x11930, 0x11930), (0x1193D, 0x1193D), (0x1193F, 0x1193F),
   (0x11941, 0x11941), (0x11A3A, 0x11A3A), (0x11A84, 0x11A89), (0x11D46, 0x11D46),
   (0x11F02, 0x11F02), (0x11F41, 0x11F41), (0x16FF0, 0x16FF1), (0x1D165, 0x1D166),
   (0x1D16D, 0x1D172), (0xE0000, 0xE0000), (0xE0002, 0xE001F), (0xE0080, 0xE00FF),
   (0xE01F0, 0xE0FFF)]

/-- A mark that Arabic letters join across. -/
def isArabicMark (c : Char) : Bool := charWidth c == 0 && !inRanges opaqueRanges c

/-- A combining character that is left out, and that all other letters join across. -/
def isTransparent (c : Char) : Bool :=
  inRanges [(0x34F, 0x34F), (0x17B4, 0x17B5), (0x180B, 0x180D), (0x180F, 0x180F), (0xFE00, 0xFE0F),
    (0xE0100, 0xE01EF)] c

/-- The end of a ligature; `joined` says that a joiner stands before it. -/
inductive Ligature
  /-- An Arabic alef, which a lam before it takes in. -/
  | alef
  /-- A Hebrew lamed, which an alef and a joiner take in. -/
  | lamed (joined : Bool)
  /-- A Buginese ya. -/
  | ya (joined : Bool)
  /-- A Buginese ya after the sign for i and a joiner, which an a takes in. -/
  | signYa
  /-- A Tifinagh consonant, which another takes in. -/
  | tifinagh (joined : Bool)
  /-- A Tifinagh consonant after the joiner of its script. -/
  | joinedTifinagh
  /-- The second part of a Lisu tone. -/
  | tone
  /-- An Old Turkic i. -/
  | orkhon (joined : Bool)
  /-- A Khmer letter that has a form below the line. -/
  | khmer
  /-- The Kirat Rai vowel e. -/
  | kiratE
  /-- The Kirat Rai vowel ai. -/
  | kiratAi
  deriving DecidableEq, Repr

namespace Ligature

/-- An Arabic alef of any form. -/
def isAlef (c : Char) : Bool :=
  inRanges [(0x622, 0x623), (0x625, 0x625), (0x627, 0x627), (0x671, 0x673), (0x675, 0x675),
    (0x773, 0x774), (0x870, 0x882)] c

/-- An Arabic lam of any form. -/
def isLam (c : Char) : Bool :=
  inRanges [(0x644, 0x644), (0x6B5, 0x6B8), (0x76A, 0x76A), (0x8A6, 0x8A6), (0x8C7, 0x8C7)] c

/-- A Khmer letter that has a form below the line. -/
def isKhmer (c : Char) : Bool :=
  inRanges [(0x1780, 0x1782), (0x1784, 0x1787), (0x1789, 0x178C), (0x178E, 0x1793),
    (0x1795, 0x1798), (0x179B, 0x179D), (0x17A0, 0x17A0), (0x17A2, 0x17A2), (0x17A7, 0x17A7),
    (0x17AB, 0x17AC), (0x17AF, 0x17AF)] c

/-- A Tifinagh consonant. -/
def isTifinagh (c : Char) : Bool := inRanges [(0x2D31, 0x2D65), (0x2D6F, 0x2D6F)] c

/-- The ligature that a character may be the last of. -/
def ofEnd? (c : Char) : Option Ligature :=
  if isAlef c then some alef
  else if c == '\u05DC' then some (lamed false)
  else if isKhmer c then some khmer
  else if c == '\u1A10' then some (ya false)
  else if isTifinagh c then some (tifinagh false)
  else if inRanges [(0xA4FC, 0xA4FD)] c then some tone
  else if c.toNat == 0x10C03 then some (orkhon false)
  else if c.toNat == 0x16D67 then some kiratE
  else if c.toNat == 0x16D68 then some kiratAi
  else none

/-- The ligature with a joiner before it. -/
def join : Ligature → Ligature
  | lamed _ => lamed true
  | ya _ => ya true
  | tifinagh _ => tifinagh true
  | orkhon _ => orkhon true
  | l => l

/-- What a letter before the end of a ligature adds to its width, and what the end of the ligature
is then, if it goes on. -/
def letter? (l : Ligature) (c : Char) : Option (Int × Option Ligature) :=
  match l with
  | alef => if isLam c then some (0, none) else none
  | lamed joined => if joined && c == '\u05D0' then some (0, none) else none
  | ya joined => if joined && c == '\u1A17' then some (0, some signYa) else none
  | signYa => if c == '\u1A15' then some (0, none) else none
  | tifinagh joined =>
    if c == '\u2D7F' then some (1, some joinedTifinagh)
    else if joined && isTifinagh c then some (0, none)
    else none
  | joinedTifinagh => if isTifinagh c then some (-1, none) else none
  | tone => if inRanges [(0xA4F8, 0xA4FB)] c then some (0, none) else none
  | orkhon joined => if joined && c.toNat == 0x10C32 then some (0, none) else none
  | khmer => if c == '\u17D2' then some (-1, none) else none
  | kiratE =>
    if c.toNat == 0x16D63 || c.toNat == 0x16D69 then some (0, none)
    else if c.toNat == 0x16D67 then some (0, some kiratAi)
    else if c.toNat == 0x16D68 then some (1, some kiratE)
    else none
  | kiratAi => if c.toNat == 0x16D63 then some (0, none) else none

/-- What a character before the end of a ligature adds to its width, and what the end of the
ligature is then; nothing if the character has no part in it. -/
def before? (l : Ligature) (c : Char) : Option (Int × Option Ligature) :=
  if l = alef then
    if isArabicMark c then some (0, some alef) else l.letter? c
  else if c == joiner then some (0, some l.join)
  else if isTransparent c then some (0, some l)
  else l.letter? c

end Ligature

end Broadband.Text
