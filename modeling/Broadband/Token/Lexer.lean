import Broadband.Text.Blank
import Broadband.Text.Numeral
import Broadband.Token

/-!
# From text to tokens

A cursor stands in a text; `Cursor.next` skips the blanks in front of it and reads the lexeme that
follows. What the lexeme is depends on the characters ahead alone, so that decision is the function
`Lexeme.read` on a list of characters, and the cursor only keeps count of what has been passed.

A cursor can be asked again after a fault. A character that starts no lexeme is not passed, so the
fault repeats; a string without an end takes the rest of the text with it, so the end of the text
follows. `Cursor.next` takes at least one character for every token except the end of the text
(`next_rest_lt`), which is why `Cursor.tokens` comes to an end.

Span's `Lexer` is the cursor, its `next_token` is `Cursor.next`, and the `read_string`,
`read_number` and `read_identifier` that it calls are the cases of `Lexeme.read`.
-/

namespace Broadband

/-! ## Lexemes -/

/-- A letter, a digit or an underscore of ASCII: what a word is made of. Span's `is_ident_char`. -/
def isWordChar (c : Char) : Bool := c.isAlpha || Text.isDigit c || c == '_'

namespace Lexeme

/-- Why a text cannot be cut into lexemes. -/
inductive Cause
  | unexpected (c : Char)
  | unterminated
  deriving DecidableEq, Repr

/-- What is wrong, in words. -/
def Cause.message : Cause → String
  | .unexpected c => "Unexpected character: " ++ String.ofList [c]
  | .unterminated => "Unterminated string"

/-- What a text without leading blanks starts with. A lexeme is given by what it means and by how
many characters spell it. -/
inductive Reading
  | nothing
  | lexeme (kind : Token.Kind) (text : String) (length : Nat)
  | fault (cause : Cause)
  deriving DecidableEq, Repr

/-- The inside of a string: its decoded characters up to the closing quote, and how many characters
they and the quote take. A backslash is an escape before the quote that delimits the string and
before another backslash, and an ordinary character elsewhere. Span's `read_string`. -/
def stringBody (quote : Char) : List Char → Option (List Char × Nat)
  | [] => none
  | [c] => if c = quote then some ([], 1) else none
  | c :: d :: cs =>
    if c = quote then some ([], 1)
    else if c = '\\' && (d = quote || d = '\\') then
      (stringBody quote cs).map fun (text, n) => (d :: text, n + 2)
    else
      (stringBody quote (d :: cs)).map fun (text, n) => (c :: text, n + 1)

/-- The text starts with a generation of mobile network, `5g` or `4g`, as a whole word. Span's
`is_generation_flag`. -/
def startsGeneration : List Char → Bool
  | c :: g :: cs =>
    (c = '5' || c = '4') && (g = 'g' || g = 'G') && !(cs.head?.any isWordChar)
  | _ => false

/-- The token that a word is: a keyword in any case, else an identifier. -/
def ofWord (word : List Char) : Reading :=
  let capitals := String.ofList (word.map Char.toUpper)
  match Keyword.ofText? capitals with
  | some k => .lexeme .keyword k.text word.length
  | none => .lexeme .identifier (String.ofList (word.map Char.toLower)) word.length

/-- What a text without leading blanks starts with. -/
def read : List Char → Reading
  | [] => .nothing
  | c :: cs =>
    if c = '(' then .lexeme .openParen "(" 1
    else if c = ')' then .lexeme .closeParen ")" 1
    else if c = ',' then .lexeme .comma "," 1
    else if c = '"' || c = '\'' then
      match stringBody c cs with
      | some (text, n) => .lexeme .string (String.ofList text) (n + 1)
      | none => .fault .unterminated
    else if startsGeneration (c :: cs) then .lexeme .identifier (String.ofList [c, 'g']) 2
    else if Text.isDigit c then
      let digits := c :: cs.takeWhile Text.isDigit
      .lexeme .number (String.ofList digits) digits.length
    else if (c = '!' || c = '>' || c = '<') && cs.head? = some '=' then
      .lexeme .operator (String.ofList [c, '=']) 2
    else if c = '=' || c = '>' || c = '<' then .lexeme .operator (String.ofList [c]) 1
    else if isWordChar c then ofWord (c :: cs.takeWhile isWordChar)
    else .fault (.unexpected c)

/-- A lexeme is spelled by at least one character. -/
theorem length_pos {cs : List Char} {kind : Token.Kind} {text : String} {n : Nat}
    (h : read cs = .lexeme kind text n) : 0 < n := by
  cases cs with
  | nil => simp [read] at h
  | cons c cs =>
    simp only [read, ofWord] at h
    grind

/-- Only an empty text starts with nothing. -/
theorem ne_nil_of_lexeme {cs : List Char} {kind : Token.Kind} {text : String} {n : Nat}
    (h : read cs = .lexeme kind text n) : cs ≠ [] := by
  rintro rfl
  simp [read] at h

end Lexeme

/-! ## Cursors -/

/-- A lexeme that could not be read, and where it starts. Span's `LexerError`. -/
structure LexicalError where
  cause : Lexeme.Cause
  position : Position
  deriving DecidableEq, Repr

namespace LexicalError

/-- What is wrong. -/
def message (e : LexicalError) : String := e.cause.message

/-- What is wrong and where. -/
def describe (e : LexicalError) : String := e.message ++ " at " ++ e.position.describe

end LexicalError

/-- A place in a text together with the characters that follow it. Span's `Lexer`. -/
structure Cursor where
  rest : List Char
  position : Position := {}
  deriving DecidableEq, Repr

namespace Cursor

/-- The start of a text. -/
def ofText (s : String) : Cursor := ⟨s.toList, {}⟩

/-- The cursor after the next `n` characters. -/
def skip (cur : Cursor) (n : Nat) : Cursor :=
  ⟨cur.rest.drop n, cur.position.advanceBy (cur.rest.take n)⟩

/-- The cursor after the blanks ahead. Span's `skip_whitespace`. -/
def skipBlanks (cur : Cursor) : Cursor :=
  cur.skip (cur.rest.takeWhile Text.isBlank).length

/-- The token ahead, or why there is none, and the cursor after it. Span's `next_token`. -/
def next (cur : Cursor) : Except LexicalError Token × Cursor :=
  let start := cur.skipBlanks
  match Lexeme.read start.rest with
  | .nothing => (.ok ⟨.endOfText, "", start.position⟩, start)
  | .lexeme kind text n => (.ok ⟨kind, text, start.position⟩, start.skip n)
  | .fault .unterminated =>
    (.error ⟨.unterminated, start.position⟩, start.skip start.rest.length)
  | .fault (.unexpected c) => (.error ⟨.unexpected c, start.position⟩, start)

/-- Skipping never adds characters. -/
theorem skip_rest_length_le (cur : Cursor) (n : Nat) :
    (cur.skip n).rest.length ≤ cur.rest.length := by
  simp [skip]

/-- A token other than the end of the text takes at least one character. -/
theorem next_rest_lt {cur after : Cursor} {t : Token} (h : cur.next = (.ok t, after))
    (ht : t.kind ≠ .endOfText) : after.rest.length < cur.rest.length := by
  have blanks := cur.skip_rest_length_le (cur.rest.takeWhile Text.isBlank).length
  simp only [next] at h
  split at h
  · obtain ⟨rfl, _⟩ := by simpa using h
    simp at ht
  · rename_i kind text n hread
    have hpos := Lexeme.length_pos hread
    have hne := List.length_pos_iff.2 (Lexeme.ne_nil_of_lexeme hread)
    obtain ⟨_, rfl⟩ := by simpa using h
    simp only [skip, skipBlanks, List.length_drop] at blanks hne ⊢
    omega
  · simp at h
  · simp at h

/-- The tokens ahead up to and including the end of the text, or the first fault. -/
def tokens (cur : Cursor) : Except LexicalError (List Token) :=
  match _h : cur.next with
  | (.error e, _) => .error e
  | (.ok t, after) =>
    if _ht : t.kind = .endOfText then .ok [t]
    else after.tokens.map (t :: ·)
termination_by cur.rest.length
decreasing_by exact next_rest_lt _h _ht

/-- The outcomes of asking for the next token `n` times over. -/
def outcomes : Nat → Cursor → List (Except LexicalError Token)
  | 0, _ => []
  | n + 1, cur => cur.next.1 :: outcomes n cur.next.2

end Cursor

/-- The tokens of a text. Span's `tokenize`. -/
def tokenize (s : String) : Except LexicalError (List Token) := (Cursor.ofText s).tokens

end Broadband
