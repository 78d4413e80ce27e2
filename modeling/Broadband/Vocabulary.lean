/-!
# The vocabulary of broadband statistics

What a query can ask about is a small closed world: six access technologies, five things to count,
seven ways to group, and so on. Each of these is a type of its own here, and each of its values has
a canonical word and possibly a synonym in the other of the two languages (Norwegian and English)
that queries are written in. The words of one type are all different, so a word determines its
value; the same word may well mean different things in two types (`tett` is a grouping and a
segment of the population).

In Span these types are `TechFlag`, `Metric`, `Grouping`, `Output` (here `Figures`), `SortField`
(`SortKey`), `SortDirection` (`Direction`), `PopulationFlag` (`Segment`) and `Field`, each with its
`from_name` and `name`.
-/

namespace Broadband

/-! ## Words -/

/-- A closed list of values, each with a canonical word and further words that mean the same. -/
class Vocabulary (α : Type) where
  /-- Every value, in the order in which they are listed to a reader. -/
  values : List α
  /-- The canonical word. -/
  name : α → String
  /-- The other words for the same value. -/
  synonyms : α → List String

namespace Vocabulary

variable {α : Type} [Vocabulary α]

/-- Every word for a value, the canonical one first. -/
def wordsFor (a : α) : List String := name a :: synonyms a

/-- Every word of the vocabulary, value by value. -/
def allWords (α : Type) [Vocabulary α] : List String :=
  (values : List α).flatMap wordsFor

/-- The value that a word means. Span's `from_name`. -/
def ofWord? (word : String) : Option α :=
  values.find? fun a => (wordsFor a).contains word

end Vocabulary

/-! ## Technologies -/

/-- A way in which an address can be connected. Span's `TechFlag`. -/
inductive Technology
  | fiber
  | cable
  | dsl
  | fiveG
  | fourG
  | fixedWireless
  deriving DecidableEq, Repr

namespace Technology

instance : Vocabulary Technology where
  values := [.fiber, .cable, .dsl, .fiveG, .fourG, .fixedWireless]
  name
    | .fiber => "fiber"
    | .cable => "cable"
    | .dsl => "dsl"
    | .fiveG => "5g"
    | .fourG => "4g"
    | .fixedWireless => "fwa"
  synonyms
    | .cable => ["kabel"]
    | .fixedWireless => ["ftb"]
    | _ => []

/-- The value that the data files hold in their technology column. Span's `column_value`. -/
def stored (t : Technology) : String := Vocabulary.name t

/-- The technology that a stored value stands for. Span's `from_column_value`. -/
def ofStored? (s : String) : Option Technology :=
  (Vocabulary.values : List Technology).find? fun t => t.stored == s

end Technology

/-! ## What is counted, grouped and shown -/

/-- What a query counts. -/
inductive Metric
  | homes
  | addresses
  | buildings
  | cabins
  | subscriptions
  deriving DecidableEq, Repr

instance : Vocabulary Metric where
  values := [.homes, .addresses, .buildings, .cabins, .subscriptions]
  name
    | .homes => "hus"
    | .addresses => "adr"
    | .buildings => "bygg"
    | .cabins => "fritid"
    | .subscriptions => "ab"
  synonyms
    | .homes => ["homes"]
    | .addresses => ["addresses"]
    | .buildings => ["buildings"]
    | .cabins => ["cabins"]
    | .subscriptions => ["subscriptions"]

/-- What one row of the answer stands for. -/
inductive Grouping
  | national
  | county
  | municipality
  | postal
  | urban
  | provider
  | technology
  deriving DecidableEq, Repr

instance : Vocabulary Grouping where
  values := [.national, .county, .municipality, .postal, .urban, .provider, .technology]
  name
    | .national => "total"
    | .county => "fylke"
    | .municipality => "kom"
    | .postal => "postnr"
    | .urban => "tett"
    | .provider => "tilb"
    | .technology => "tek"
  synonyms
    | .national => ["national"]
    | .county => ["county"]
    | .municipality => ["municipality"]
    | .postal => ["postal"]
    | .urban => ["urban"]
    | .provider => ["provider"]
    | .technology => ["tech"]

/-- Which figures the answer shows: absolute numbers, shares, or both. Span's `Output`. -/
inductive Figures
  | count
  | percent
  | both
  deriving DecidableEq, Repr

instance : Vocabulary Figures where
  values := [.count, .percent, .both]
  name
    | .count => "count"
    | .percent => "andel"
    | .both => "begge"
  synonyms
    | .count => []
    | .percent => ["percent"]
    | .both => ["both"]

namespace Figures

/-- The answer holds absolute numbers. -/
def showsCount : Figures → Bool
  | .count | .both => true
  | .percent => false

/-- The answer holds shares. -/
def showsPercent : Figures → Bool
  | .percent | .both => true
  | .count => false

end Figures

/-- What the rows of the answer are sorted by. Span's `SortField`. -/
inductive SortKey
  | count
  | percent
  | group
  deriving DecidableEq, Repr

instance : Vocabulary SortKey where
  values := [.count, .percent, .group]
  name
    | .count => "count"
    | .percent => "andel"
    | .group => "group"
  synonyms
    | .count => []
    | .percent => ["percent"]
    | .group => ["gruppe"]

/-! ## What is selected -/

/-- A segment of the population that a query can restrict itself to. Span's `PopulationFlag`. -/
inductive Segment
  | urban
  | rural
  | residential
  | business
  deriving DecidableEq, Repr

instance : Vocabulary Segment where
  values := [.urban, .rural, .residential, .business]
  name
    | .urban => "tett"
    | .rural => "spredt"
    | .residential => "private"
    | .business => "business"
  synonyms
    | .urban => ["urban"]
    | .rural => ["rural"]
    | .residential => ["privat"]
    | .business => ["bedrift"]

/-- The segment is one of customers, and so is known of subscriptions only. -/
def Segment.isOwnership : Segment → Bool
  | .residential | .business => true
  | .urban | .rural => false

/-- A property of coverage, of an address or of a subscription that can be compared. -/
inductive Field
  | technology
  | download
  | upload
  | provider
  | county
  | municipality
  | buildingType
  | postal
  deriving DecidableEq, Repr

instance : Vocabulary Field where
  values := [.technology, .download, .upload, .provider, .county, .municipality, .buildingType,
    .postal]
  name
    | .technology => "tek"
    | .download => "nedhast"
    | .upload => "opphast"
    | .provider => "tilb"
    | .county => "fylke"
    | .municipality => "kom"
    | .buildingType => "type"
    | .postal => "postnr"
  synonyms
    | .technology => ["tech"]
    | .download => ["speed"]
    | .upload => ["upload"]
    | .provider => ["provider"]
    | .county => ["county"]
    | .municipality => ["municipality"]
    | .buildingType => ["bygtype"]
    | .postal => ["postal"]

namespace Field

/-- The field is a speed, which queries give in Mbit/s. -/
def isSpeed : Field → Bool
  | .download | .upload => true
  | _ => false

/-- The field says where an address lies. -/
def isGeographic : Field → Bool
  | .county | .municipality | .postal => true
  | _ => false

end Field

/-! ## Order -/

/-- The direction of a sort. Span's `SortDirection`. -/
inductive Direction
  | asc
  | desc
  deriving DecidableEq, Repr

namespace Direction

/-- The word for the direction in a query. -/
def ofWord? : String → Option Direction
  | "asc" => some .asc
  | "desc" => some .desc
  | _ => none

/-- The word for the direction in a statement. -/
def keyword : Direction → String
  | .asc => "ASC"
  | .desc => "DESC"

end Direction

end Broadband
