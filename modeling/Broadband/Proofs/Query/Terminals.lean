import Broadband.Proofs.Query.Grammar
import Broadband.Query.Parser

/-!
# What the parser takes a token for

The parser asks a token what it is by looking its text up, the grammar says what the text has to be.
Here the two are shown to agree, one statement for each question that the parser can ask. A word is
found by going through a vocabulary, so the agreement rests on two facts about each vocabulary: its
list of values is complete, and no word belongs to two of them.
-/

namespace Broadband

/-! ## Vocabularies -/

namespace Vocabulary

/-- Every value is listed, and a word belongs to one value only. -/
class Unambiguous (α : Type) [Vocabulary α] : Prop where
  mem_values (a : α) : a ∈ (values : List α)
  disjoint : ∀ a ∈ (values : List α), ∀ b ∈ (values : List α),
    ∀ w ∈ wordsFor a, w ∈ wordsFor b → a = b

variable {α : Type} [Vocabulary α]

/-- Looking a word up finds the value that it belongs to, and nothing else. -/
theorem ofWord?_eq_some_iff [Unambiguous α] {w : String} {a : α} :
    ofWord? w = some a ↔ w ∈ wordsFor a := by
  constructor
  · intro h
    simpa using List.find?_some h
  · intro h
    have hsome : (ofWord? w : Option α).isSome := by
      refine List.find?_isSome.2 ⟨a, Unambiguous.mem_values a, ?_⟩
      simpa using h
    obtain ⟨b, hb⟩ := Option.isSome_iff_exists.1 hsome
    have hw : w ∈ wordsFor b := by simpa using List.find?_some hb
    rw [hb, Unambiguous.disjoint b (Unambiguous.mem_values b) a (Unambiguous.mem_values a) w hw h]

instance : Unambiguous Technology := ⟨fun a => by cases a <;> decide, by decide⟩
instance : Unambiguous Metric := ⟨fun a => by cases a <;> decide, by decide⟩
instance : Unambiguous Grouping := ⟨fun a => by cases a <;> decide, by decide⟩
instance : Unambiguous Figures := ⟨fun a => by cases a <;> decide, by decide⟩
instance : Unambiguous SortKey := ⟨fun a => by cases a <;> decide, by decide⟩
instance : Unambiguous Segment := ⟨fun a => by cases a <;> decide, by decide⟩
instance : Unambiguous Field := ⟨fun a => by cases a <;> decide, by decide⟩

/-- No field has the word of a technology. -/
theorem technology_of_field {w : String} {field : Field} (h : w ∈ wordsFor field) :
    (ofWord? w : Option Technology) = none := by
  have hall : ∀ f ∈ (values : List Field), ∀ w ∈ wordsFor f,
      (ofWord? w : Option Technology) = none := by decide
  exact hall field (Unambiguous.mem_values field) w h

/-- No field has the word of a segment. -/
theorem segment_of_field {w : String} {field : Field} (h : w ∈ wordsFor field) :
    (ofWord? w : Option Segment) = none := by
  have hall : ∀ f ∈ (values : List Field), ∀ w ∈ wordsFor f,
      (ofWord? w : Option Segment) = none := by decide
  exact hall field (Unambiguous.mem_values field) w h

end Vocabulary

/-! ## Numerals -/

namespace Text

variable {s : String}

theorem int64?_eq_some_iff {n : Int} :
    int64? s = some n ↔
      integer? s = some n ∧ -9223372036854775808 ≤ n ∧ n ≤ 9223372036854775807 := by
  rw [int64?, Option.filter_eq_some_iff, fitsInt64, Bool.and_eq_true, decide_eq_true_iff,
    decide_eq_true_iff]

theorem int32?_eq_some_iff {n : Int} :
    int32? s = some n ↔ integer? s = some n ∧ -2147483648 ≤ n ∧ n ≤ 2147483647 := by
  rw [int32?, Option.filter_eq_some_iff, fitsInt32, Bool.and_eq_true, decide_eq_true_iff,
    decide_eq_true_iff]

theorem nat64?_eq_some_iff {n : Nat} :
    nat64? s = some n ↔ natural? s = some n ∧ n ≤ 18446744073709551615 := by
  rw [nat64?, Option.filter_eq_some_iff, fitsNat64, decide_eq_true_iff]

end Text

/-! ## Keywords, words and symbols -/

open Grammar

variable {t : Token}

theorem Token.keyword?_eq_some_iff {k : Keyword} : t.keyword? = some k ↔ IsKeyword t k := by
  rw [Token.keyword?, Option.ite_none_right_eq_some, Keyword.ofText?_eq_some_iff]
  exact ⟨fun h => ⟨h.1, h.2⟩, fun h => ⟨h.kind, h.text⟩⟩

/-- A token of another kind is no keyword. -/
theorem Token.keyword?_of_kind (h : t.kind ≠ .keyword) : t.keyword? = none :=
  if_neg h

/-- A token of another kind is no word. -/
theorem Token.identifier?_of_kind (h : t.kind ≠ .identifier) {α : Type}
    (meaning : String → Option α) : t.identifier? meaning = none :=
  if_neg h

theorem Token.identifier?_eq_some_iff {α : Type} [Vocabulary α] [Vocabulary.Unambiguous α] {a : α} :
    t.identifier? Vocabulary.ofWord? = some a ↔ IsWord t a := by
  rw [Token.identifier?, Option.ite_none_right_eq_some, Vocabulary.ofWord?_eq_some_iff]
  exact ⟨fun h => ⟨h.1, h.2⟩, fun h => ⟨h.kind, h.text⟩⟩

theorem Token.identifier?_direction_iff {d : Direction} :
    t.identifier? Direction.ofWord? = some d ↔ IsDirection t d := by
  rw [Token.identifier?]
  constructor
  · intro h
    obtain ⟨hkind, hword⟩ := Option.ite_none_right_eq_some.1 h
    unfold Direction.ofWord? at hword
    split at hword
    · obtain rfl := Option.some.inj hword
      exact .asc hkind ‹_›
    · obtain rfl := Option.some.inj hword
      exact .desc hkind ‹_›
    · cases hword
  · rintro (⟨hkind, htext⟩ | ⟨hkind, htext⟩) <;> rw [if_pos hkind, htext] <;> rfl

namespace Parser

theorem comparison?_eq_some_iff {op : Comparison} : comparison? t = some op ↔ IsSymbol t op := by
  have hsymbol : Comparison.ofSymbol? t.text = some op ↔ t.text = op.symbol := by
    constructor
    · intro h
      have hop : op.symbol = t.text := by simpa using List.find?_some h
      exact hop.symm
    · intro h
      rw [h]
      cases op <;> decide
  rw [comparison?, Option.ite_none_right_eq_some, hsymbol]
  exact ⟨fun h => ⟨h.1, h.2⟩, fun h => ⟨h.kind, h.text⟩⟩

theorem quantifier?_eq_some_iff {q : Quantifier} :
    quantifier? t = some q ↔ IsKeyword t q.keyword := by
  rw [← Token.keyword?_eq_some_iff, quantifier?]
  constructor
  · intro h
    split at h <;> first | (obtain rfl := Option.some.inj h; assumption) | cases h
  · intro h
    rw [h]
    cases q <;> rfl

/-! ## Numbers and values -/

theorem value?_eq_some_iff {v : Value} : value? t = some v ↔ IsValue t v := by
  constructor
  · intro h
    unfold value? at h
    split at h
    · obtain ⟨n, hn, rfl⟩ := Option.map_eq_some_iff.1 h
      rw [Text.int64?_eq_some_iff] at hn
      exact .number ‹_› hn.1 hn.2
    · obtain rfl := Option.some.inj h
      exact .string ‹_›
    · obtain ⟨tech, htech, rfl⟩ := Option.map_eq_some_iff.1 h
      exact .technology ⟨‹_›, Vocabulary.ofWord?_eq_some_iff.1 htech⟩
    · cases h
  · intro h
    cases h with
    | number hkind htext hfits =>
      have hn := Text.int64?_eq_some_iff.2 ⟨htext, hfits⟩
      simp only [value?, hkind, hn, Option.map_some]
    | string hkind => simp only [value?, hkind]
    | technology hword =>
      have htech := Vocabulary.ofWord?_eq_some_iff.2 hword.text
      simp only [value?, hword.kind, htech, Option.map_some]

theorem year?_eq_some_iff {y : Int} : year? t = some y ↔ IsYear t y := by
  rw [year?, Option.ite_none_right_eq_some, Text.int32?_eq_some_iff]
  exact ⟨fun h => ⟨h.1, h.2.1, h.2.2⟩, fun h => ⟨h.kind, h.text, h.fits⟩⟩

theorem limit?_eq_some_iff {n : Nat} : limit? t = some n ↔ IsLimit t n := by
  rw [limit?, Option.ite_none_right_eq_some, Text.nat64?_eq_some_iff]
  exact ⟨fun h => ⟨h.1, h.2.1, h.2.2⟩, fun h => ⟨h.kind, h.text, h.fits⟩⟩

/-- A word, or the keyword `COUNT` in its place. -/
theorem wordOrCount_eq_some_iff {α : Type} [Vocabulary α] [Vocabulary.Unambiguous α] {count a : α} :
    (if t.keyword? = some .count then some count else t.identifier? Vocabulary.ofWord?) = some a ↔
      SpellsWordOrCount count [t] a := by
  by_cases h : t.keyword? = some .count
  · have hk := Token.keyword?_eq_some_iff.1 h
    rw [if_pos h, Option.some_inj]
    constructor
    · rintro rfl
      exact .count hk
    · intro hs
      cases hs with
      | word hword => exact absurd (hword.kind.symm.trans hk.kind) (by decide)
      | count _ => rfl
  · rw [if_neg h, Token.identifier?_eq_some_iff]
    constructor
    · exact .word
    · intro hs
      cases hs with
      | word hword => exact hword
      | count hk => exact absurd (Token.keyword?_eq_some_iff.2 hk) h

end Parser

end Broadband
