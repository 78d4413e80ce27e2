import Broadband.Text.Emoji
import Broadband.Text.Ligature

/-!
# The width of a text on a line

The width of a text is that of its characters, but some characters in a row are drawn as one: the
parts of a ligature, an emoji with its modifier, a flag, emoji that a joiner puts together. And a
selector changes the character before it. So a text is looked at from its end, and at each character
it is known what follows it, as far as that matters.
-/

namespace Broadband.Text

/-! ## Selectors -/

/-- What a selector asks for. -/
inductive Selector
  /-- The wide form of a quotation mark. -/
  | wideQuote
  /-- A sign among the letters. -/
  | text
  /-- An emoji. -/
  | emoji
  deriving DecidableEq, Repr

/-- What a character asks for as a selector. -/
def Selector.ofChar? (c : Char) : Option Selector :=
  if c == '\uFE01' then some .wideQuote
  else if c == '\uFE0E' then some .text
  else if c == '\uFE0F' then some .emoji
  else none

/-- A quotation mark that has a wide form. -/
def isQuote (c : Char) : Bool := inRanges [(0x2018, 0x2019), (0x201C, 0x201D)] c

/-! ## What follows a character -/

/-- What stands between a character and the emoji that a joiner has put it to, from the joiner on
back; `selected` says that a selector of the emoji style is the last of it. -/
inductive Joined
  | start (selected : Bool)
  | keycap (selected : Bool)
  | flagLetter
  | evenFlagLetters
  | oddFlagLetters
  /-- The tags of the flag of a region: letters, and digits before them. -/
  | tags (letters digits : Nat)
  deriving DecidableEq, Repr

/-- What follows a character, as far as it changes the room that the character takes. -/
inductive Following
  | nothing
  | selector (s : Selector)
  | ligature (l : Ligature) (s : Option Selector)
  | modifier
  | flagLetter
  | flagLetters
  | emoji
  | joined (j : Joined)
  deriving DecidableEq, Repr

namespace Following

/-- A joiner that puts an emoji to what follows. -/
def atJoiner (c : Char) : Option (Int × Following) :=
  if c == joiner then some (0, joined (.start false)) else none

/-- A selector that asks for this follows. -/
def selects (f : Following) (s : Selector) : Bool :=
  match f with
  | selector t => s = t
  | ligature _ t => t = some s
  | joined (.start selected) => selected && s = .emoji
  | joined (.keycap selected) => selected && s = .emoji
  | _ => false

/-- What follows a selector. Ligatures are formed across it. -/
def select (f : Following) (s : Selector) : Following :=
  match f with
  | ligature l _ => ligature l (some s)
  | joined (.start _) => if s = .emoji then joined (.start true) else selector s
  | joined (.keycap _) => if s = .emoji then joined (.keycap true) else selector s
  | _ => selector s

/-- What follows if a selector there has no meaning. -/
def unselect (f : Following) : Following :=
  match f with
  | selector _ => nothing
  | ligature l _ => ligature l none
  | joined (.start true) => nothing
  | joined (.keycap true) => nothing
  | f => f

end Following

namespace Joined

/-- What a tag before others leads to. The flag of a region has a code of two letters or three
digits for the country and up to four letters for the region. -/
def tag? (letters digits : Nat) (c : Char) : Option Following :=
  if inRanges [(0xE0061, 0xE007A)] c then
    if digits = 0 ∧ letters < 6 then some (.joined (tags (letters + 1) 0)) else none
  else if inRanges [(0xE0030, 0xE0039)] c then
    if digits < 3 ∧ letters ≤ 4 then some (.joined (tags letters (digits + 1))) else none
  else if c.toNat == 0x1F3F4 then
    if digits = 3 ∨ (digits = 0 ∧ 3 ≤ letters) then some .emoji else none
  else none

/-- What a character adds that a joiner has put to an emoji, and what follows the one before it. -/
def before? (j : Joined) (c : Char) : Option (Int × Following) :=
  match j with
  | start _ =>
    if c == '\u20E3' then some (0, .joined (keycap false))
    else if isFlagLetter c then some (1, .joined flagLetter)
    else if isModifier c then some (0, .modifier)
    else if c.toNat == 0xE007F then some (0, .joined (tags 0 0))
    else if isEmoji c then some (0, .emoji)
    else none
  | keycap _ => none
  | flagLetter => if isFlagLetter c then some (-1, .joined evenFlagLetters) else none
  | evenFlagLetters =>
    if isFlagLetter c then some (3, .joined oddFlagLetters) else Following.atJoiner c
  | oddFlagLetters =>
    if isFlagLetter c then some (-1, .joined evenFlagLetters) else Following.atJoiner c
  | tags letters digits => (tag? letters digits c).map (0, ·)

end Joined

namespace Following

/-- What a character adds that is drawn together with what follows it, and what follows the one
before it. -/
def before? (f : Following) (c : Char) : Option (Int × Following) :=
  match f with
  | ligature l _ =>
    (l.before? c).map fun (w, rest) => (w, rest.elim nothing (ligature · none))
  | modifier => if isModifiable c then some (0, emoji) else atJoiner c
  | flagLetter => if isFlagLetter c then some (1, flagLetters) else none
  | flagLetters => if isFlagLetter c then some (1, flagLetters) else atJoiner c
  | emoji => atJoiner c
  | joined j => j.before? c
  | _ => none

/-- What a character takes by itself, and what it is for the one before it. -/
def ofChar (c : Char) : Int × Following :=
  match Ligature.ofEnd? c with
  | some l => (1, ligature l none)
  | none =>
    if isFlagLetter c then (1, flagLetter)
    else if isModifier c then (2, modifier)
    else if isEmoji c then (2, emoji)
    else (charWidth c, nothing)

/-- What a character adds to the width of what follows it, and what follows the one before it. -/
def add (f : Following) (c : Char) : Int × Following :=
  if f.selects .emoji && isSelectable c then
    (match f with | joined _ => 0 | _ => 2, emoji)
  else
    let f := if f.selects .emoji then f.unselect else f
    if c.toNat ≤ 0xA0 then (1, nothing)
    else
      match Selector.ofChar? c with
      | some s => (0, f.select s)
      | none =>
        if f.selects .text && isTextual c then (1, nothing)
        else if f.selects .wideQuote && isQuote c then (2, nothing)
        else (f.unselect.before? c).getD (ofChar c)

end Following

/-! ## Texts -/

/-- The width of a text, and what its start is for a character before it. -/
def widthBefore : List Char → Int × Following
  | [] => (0, .nothing)
  | c :: cs =>
    let (n, f) := widthBefore cs
    let (w, g) := f.add c
    (n + w, g)

/-- The number of places that a text on one line takes. -/
def width (cs : List Char) : Nat := (widthBefore cs).1.toNat

end Broadband.Text
