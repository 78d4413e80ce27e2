import Broadband.Text.Numeral

/-!
# Media types

A request says in a media type what its body is: a type and a subtype, which may end in a suffix,
and parameters. Only the types count here, but a media type with malformed parameters is none.
-/

namespace Broadband.Service

/-! ## Tokens -/

/-- A character that words of a media type are made of. -/
def isTokenChar (c : Char) : Bool :=
  Text.isDigit c || ('a' ≤ c && c ≤ 'z') || ('A' ≤ c && c ≤ 'Z') || "!#$%&'*+-.^_`|~".toList.contains c

/-- A character that may stand between quotes. -/
def isQuotable (c : Char) : Bool := ' ' ≤ c && c ≤ '~'

/-! ## Parameters -/

/-- Where the reading of parameters stands. -/
inductive ParameterState
  | beforeName
  | inName
  | beforeValue
  | inValue
  | afterOpening
  | inQuotes
  | afterQuotes
  deriving DecidableEq, Repr

namespace ParameterState

/-- What a character leads to. A quote right after the opening one belongs to the value. -/
def next? : ParameterState → Char → Option ParameterState
  | beforeName, c =>
    if c == ' ' then some beforeName else if isTokenChar c then some inName else none
  | inName, c => if c == '=' then some beforeValue else if isTokenChar c then some inName else none
  | beforeValue, c =>
    if c == '"' then some afterOpening else if isTokenChar c then some inValue else none
  | inValue, c => if c == ';' then some beforeName else if isTokenChar c then some inValue else none
  | afterOpening, c => if isQuotable c then some inQuotes else none
  | inQuotes, c => if c == '"' then some afterQuotes else if isQuotable c then some inQuotes else none
  | afterQuotes, c =>
    if c == ';' then some beforeName else if c == ' ' then some afterQuotes else none

/-- The parameters may end here. -/
def mayEnd : ParameterState → Bool
  | beforeName | beforeValue | inValue | afterQuotes => true
  | inName | afterOpening | inQuotes => false

end ParameterState

/-- Parameters, after the first semicolon, are well formed. -/
def areParameters (cs : List Char) : Bool :=
  (cs.foldlM ParameterState.next? .beforeName).any ParameterState.mayEnd

/-! ## Types -/

/-- A media type in lower case. -/
structure MediaType where
  type : String
  subtype : String
  /-- What follows the last plus sign of the subtype. -/
  suffix : Option String
  deriving DecidableEq, Repr

namespace MediaType

/-- A subtype and its suffix. A plus sign at the start begins no suffix. -/
def splitSuffix (cs : List Char) : List Char × Option (List Char) :=
  let suffix := (cs.reverse.takeWhile (· != '+')).reverse
  match cs.take (cs.length - suffix.length - 1) with
  | [] => (cs, none)
  | subtype => (subtype, some suffix)

/-- Letters in lower case. -/
def lower (cs : List Char) : String := String.ofList (cs.map Char.toLower)

/-- The media type that a text gives. -/
def ofText? (s : String) : Option MediaType :=
  match s.toList.takeWhile isTokenChar, s.toList.dropWhile isTokenChar with
  | c :: type, '/' :: rest =>
    let word := rest.takeWhile isTokenChar
    let (subtype, suffix) := splitSuffix word
    let found := some ⟨lower (c :: type), lower subtype, suffix.map lower⟩
    match rest.dropWhile isTokenChar with
    | [] => found
    | ';' :: parameters => if !word.isEmpty && areParameters parameters then found else none
    | _ => none
  | _, _ => none

/-- The media type of a JSON body. -/
def isJson (m : MediaType) : Bool :=
  m.type == "application" && (m.subtype == "json" || m.suffix == some "json")

end MediaType

end Broadband.Service
