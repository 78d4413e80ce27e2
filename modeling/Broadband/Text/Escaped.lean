import Broadband.Text.Combining
import Broadband.Text.Ignorable
import Broadband.Text.Undrawn

/-!
# Texts made visible

A text is shown between double quotes with everything in it that cannot be seen, or could be
mistaken, written as an escape: quotes and backslashes, line ends and tabs, and by their code point
all other characters that are not drawn on their own.
-/

namespace Broadband.Text

/-- A character that could be mistaken: it attaches to the one before it or may be left out. The
voice marks of narrow Katakana attach but are drawn as characters of their own. -/
def isElusive (c : Char) : Bool :=
  (isCombining c && c != '\uFF9E' && c != '\uFF9F') || isIgnorable c

/-- A digit of a code point. -/
def hexDigit (n : Nat) : Char :=
  if n < 10 then Char.ofNat ('0'.toNat + n) else Char.ofNat ('a'.toNat + (n - 10))

/-- A number in base sixteen, in small letters and without leading zeros. -/
def hexadecimal (n : Nat) : List Char :=
  if n < 16 then [hexDigit n] else hexadecimal (n / 16) ++ [hexDigit (n % 16)]

/-- A character as it is shown. -/
def escapedChar (c : Char) : List Char :=
  if c = '\x00' then ['\\', '0']
  else if c = '\t' then ['\\', 't']
  else if c = '\r' then ['\\', 'r']
  else if c = '\n' then ['\\', 'n']
  else if c = '"' then ['\\', '"']
  else if c = '\\' then ['\\', '\\']
  else if isElusive c || isUndrawn c then
    ['\\', 'u', '\x7b'] ++ hexadecimal c.toNat ++ ['\x7d']
  else [c]

/-- A text as it is shown. -/
def escaped (s : String) : String :=
  "\"" ++ String.ofList (s.toList.flatMap escapedChar) ++ "\""

end Broadband.Text
