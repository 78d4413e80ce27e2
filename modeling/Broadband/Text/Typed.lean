import Broadband.Text.Combining
import Broadband.Text.Emoji

/-!
# Typed lines

A line may hold backspaces as they were typed. A backspace takes back the character before it
together with what is attached to it.
-/

namespace Broadband.Text

/-- A character that is attached to the one before it. -/
def isAttached (c : Char) : Bool := isCombining c || isModifier c || c == '\u200D'

/-- The characters kept so far, the last first, without the last one and what is attached to it. -/
def takeBack : List Char → List Char
  | [] => []
  | c :: kept => if isAttached c && !kept.isEmpty then takeBack kept else kept

/-- A line with its backspaces carried out. -/
def typed (cs : List Char) : List Char :=
  (cs.foldl (fun kept c => if c == '\x08' then takeBack kept else c :: kept) []).reverse

end Broadband.Text
