import Broadband.Proofs.Numeral
import Broadband.Proofs.Token.Decomposition

/-!
# Writing lexemes

The other side of `Broadband.Token.Lexer`: a writer has a list of pieces in mind (words, symbols,
numbers, strings, marks) and puts them on paper with blanks in between. What the writer may choose,
which blanks and which of the two quotes, is a `Style`; what the pieces mean is not a matter of
style. The main statement is `Style.tokens_write`: whatever the style, cutting the written text
gives back the pieces, one token each, and the end of the text.

What is written is a text taken apart: every piece spells its token (`Piece.spells`), and it is not
cut short because a blank or nothing follows it. So the pieces with their gaps are a faithful
decomposition of the text, and what its tokens are is known of all of those.
-/

namespace Broadband

open Text (isBlank)

/-! ## Pieces and their spelling -/

/-- The two marks that a string may stand between. -/
inductive Quote
  | single
  | double
  deriving DecidableEq, Repr

/-- The character of a quote. -/
def Quote.char : Quote → Char
  | .single => '\''
  | .double => '"'

/-- A lexeme as a writer has it in mind. A word may be a keyword, a word of a vocabulary or a
generation of mobile network. -/
inductive Piece
  | word (s : String)
  | symbol (op : Comparison)
  | number (n : Nat)
  | string (s : String)
  | openParen
  | closeParen
  | comma
  deriving DecidableEq, Repr

/-- The inside of a string: a backslash stands before the quote that delimits it and before every
backslash. -/
def escape (quote : Char) : List Char → List Char
  | [] => []
  | c :: cs =>
    if c = quote ∨ c = '\\' then '\\' :: c :: escape quote cs else c :: escape quote cs

namespace Piece

/-- The characters of a piece, strings between the given quote. -/
def spell (quote : Quote) : Piece → List Char
  | .word s => s.toList
  | .symbol op => op.symbol.toList
  | .number n => (toString n).toList
  | .string s => quote.char :: (escape quote.char s.toList ++ [quote.char])
  | .openParen => ['(']
  | .closeParen => [')']
  | .comma => [',']

/-- What a word is: a keyword in any case, else an identifier. -/
def wordToken (s : String) : Token :=
  match Keyword.ofText? (String.ofList (s.toList.map Char.toUpper)) with
  | some k => ⟨.keyword, k.text, {}⟩
  | none => ⟨.identifier, String.ofList (s.toList.map Char.toLower), {}⟩

/-- The token that a piece stands for, placed nowhere in particular. -/
def token : Piece → Token
  | .word s => wordToken s
  | .symbol op => ⟨.operator, op.symbol, {}⟩
  | .number n => ⟨.number, toString n, {}⟩
  | .string s => ⟨.string, s, {}⟩
  | .openParen => ⟨.openParen, "(", {}⟩
  | .closeParen => ⟨.closeParen, ")", {}⟩
  | .comma => ⟨.comma, ",", {}⟩

/-- No piece stands for the end of a text. -/
theorem token_kind_ne_endOfText (p : Piece) : p.token.kind ≠ .endOfText := by
  cases p with
  | word s =>
    simp only [token, wordToken]
    split <;> simp
  | _ => simp [token]

end Piece

/-- The token without its place. -/
def Token.unplaced (t : Token) : Token := { t with position := {} }

/-- The token of a piece has no place that it could lose. -/
theorem Piece.unplaced_token (p : Piece) : p.token.unplaced = p.token := by
  cases p with
  | word s =>
    simp only [token, wordToken]
    split <;> rfl
  | _ => rfl

/-! ## Styles -/

/-- What a writer may choose: the quote of each string, and the blanks before each piece and behind
the last one. Two pieces are always kept apart; in front of the first no blank is needed. -/
structure Style where
  quote : Nat → Quote := fun _ => .double
  gap : Nat → List Char := fun i => if i = 0 then [] else [' ']
  trail : List Char := []
  gap_blank : ∀ i, ∀ c ∈ gap i, isBlank c = true := by
    intro i c hc
    split at hc <;> simp_all [Text.isBlank, Text.inRanges, Text.blankRanges]
  gap_ne_nil : ∀ i, gap (i + 1) ≠ [] := by simp
  trail_blank : ∀ c ∈ trail, isBlank c = true := by simp

namespace Style

/-- The characters of pieces of which the first is number `i`. -/
def chars (st : Style) : Nat → List Piece → List Char
  | _, [] => st.trail
  | i, p :: ps => st.gap i ++ (p.spell (st.quote i) ++ st.chars (i + 1) ps)

/-- The text of some pieces. -/
def write (st : Style) (ps : List Piece) : String := String.ofList (st.chars 0 ps)

end Style

/-! ## What the pieces spell -/

/-- The piece can be put on paper as it is: a word is a run of letters or a generation of mobile
network. -/
def Piece.Legible : Piece → Prop
  | .word s => (s.toList ≠ [] ∧ ∀ c ∈ s.toList, c.isAlpha = true) ∨ s = "5g" ∨ s = "4g"
  | _ => True

instance : DecidablePred Piece.Legible
  | .word s =>
    letI : Decidable (∀ c ∈ s.toList, c.isAlpha = true) := List.decidableBAll _ _
    inferInstanceAs
      (Decidable ((s.toList ≠ [] ∧ ∀ c ∈ s.toList, c.isAlpha = true) ∨ s = "5g" ∨ s = "4g"))
  | .symbol _ | .number _ | .string _ | .openParen | .closeParen | .comma => isTrue trivial

/-- Putting the escapes in is undone by reading them. -/
theorem decodes_escape (quote : Char) (s : List Char) :
    Lexeme.Decodes quote (escape quote s) s := by
  induction s with
  | nil => exact .nil
  | cons c cs ih =>
    by_cases hc : c = quote ∨ c = '\\'
    · rw [escape, if_pos hc]
      exact .escape hc ih
    · rw [escape, if_neg hc]
      obtain ⟨hquote, hbackslash⟩ := not_or.1 hc
      exact .plain hquote hbackslash ih

namespace Piece

/-- A word spells the token that `wordToken` says. -/
theorem spells_wordToken {s : String} (h : Lexeme.Word s.toList) :
    Lexeme.Spells (wordToken s).kind (wordToken s).text s.toList := by
  rw [wordToken]
  cases hk : Keyword.ofText? (String.ofList (s.toList.map Char.toUpper)) with
  | some k => exact .keyword k h (Keyword.ofText?_eq_some_iff.1 hk)
  | none =>
    refine .identifier h fun k hk' => ?_
    rw [Keyword.ofText?_eq_some_iff.2 hk'] at hk
    cases hk

theorem word_of_letters {s : String} (hne : s.toList ≠ []) (h : ∀ c ∈ s.toList, c.isAlpha = true) :
    Lexeme.Word s.toList where
  ne_nil := hne
  chars c hc := isWordChar_of_isAlpha (h c hc)
  first c hc := isDigit_of_isAlpha (h c (List.mem_of_mem_head? hc))

/-- Every legible piece spells the token that it stands for. -/
theorem spells {p : Piece} (h : p.Legible) (quote : Quote) :
    Lexeme.Spells p.token.kind p.token.text (p.spell quote) := by
  cases p with
  | word s =>
    rcases h with ⟨hne, hs⟩ | rfl | rfl
    · exact spells_wordToken (word_of_letters hne hs)
    · exact .generation ⟨.inl rfl, .inl rfl⟩
    · exact .generation ⟨.inr rfl, .inl rfl⟩
  | symbol op => exact .operator op
  | number n =>
    have hdigits : ∀ d ∈ (toString n).toList, Text.isDigit d = true :=
      fun d => Text.isDigit_of_mem_toString
    have hnumber := Lexeme.Spells.number (Text.toList_toString_ne_nil n) hdigits
    rwa [String.ofList_toList] at hnumber
  | string s =>
    have hquote : quote.char = '"' ∨ quote.char = '\'' := by cases quote <;> decide
    have hstring := Lexeme.Spells.string hquote (decodes_escape quote.char s.toList)
    rwa [String.ofList_toList] at hstring
  | openParen => exact .openParen
  | closeParen => exact .closeParen
  | comma => exact .comma

end Piece

/-! ## Cutting a written text -/

namespace Style

/-- What follows a piece stands apart from it. -/
theorem apart_chars (st : Style) (i : Nat) (ps : List Piece) : Apart (st.chars (i + 1) ps) := by
  intro c hc
  cases ps with
  | nil => exact st.trail_blank c (List.mem_of_mem_head? hc)
  | cons p ps =>
    obtain ⟨d, ds, hd⟩ := List.exists_cons_of_ne_nil (st.gap_ne_nil i)
    simp only [chars, hd, List.cons_append, List.head?_cons, Option.mem_def,
      Option.some.injEq] at hc
    exact st.gap_blank (i + 1) c (by simp [hd, hc])

/-- The written text taken apart into its pieces, of which the first is number `i`. -/
def decomposition (st : Style) : Nat → List Piece → Decomposition
  | _, [] => .ending st.trail
  | i, p :: ps =>
    .lexeme (st.gap i) (p.spell (st.quote i)) p.token.kind p.token.text
      (st.decomposition (i + 1) ps)

theorem chars_decomposition (st : Style) (i : Nat) (ps : List Piece) :
    (st.decomposition i ps).chars = st.chars i ps := by
  induction ps generalizing i with
  | nil => rfl
  | cons p ps ih => rw [decomposition, Decomposition.chars, ih, chars]

theorem faithful_decomposition (st : Style) {ps : List Piece} (h : ∀ p ∈ ps, p.Legible) (i : Nat) :
    (st.decomposition i ps).Faithful := by
  induction ps generalizing i with
  | nil => exact .ending st.trail_blank
  | cons p ps ih =>
    obtain ⟨hp, hps⟩ := List.forall_mem_cons.1 h
    refine .lexeme (st.gap_blank i) (Piece.spells hp (st.quote i)) (Lexeme.maximal_of_apart ?_)
      (ih hps (i + 1))
    rw [chars_decomposition]
    exact st.apart_chars i ps

/-- Where the text stands only moves its tokens. -/
theorem tokens_decomposition (st : Style) (ps : List Piece) (i : Nat) (pos : Position) :
    ∃ ts e, (st.decomposition i ps).tokens pos = ts ++ [e] ∧
      ts.map Token.unplaced = ps.map Piece.token ∧ e.kind = .endOfText := by
  induction ps generalizing i pos with
  | nil => exact ⟨[], _, rfl, rfl, rfl⟩
  | cons p ps ih =>
    obtain ⟨ts, e, hts, hmap, hkind⟩ :=
      ih (i + 1) ((pos.advanceBy (st.gap i)).advanceBy (p.spell (st.quote i)))
    refine ⟨⟨p.token.kind, p.token.text, pos.advanceBy (st.gap i)⟩ :: ts, e, ?_, ?_, hkind⟩
    · rw [decomposition, Decomposition.tokens, hts, List.cons_append]
    · rw [List.map_cons, List.map_cons, hmap, ← p.unplaced_token]
      rfl

/-- **Cutting undoes writing.** Whatever the style, the tokens of a written text are those of its
pieces, followed by the end of the text. -/
theorem tokens_write (st : Style) {ps : List Piece} (h : ∀ p ∈ ps, p.Legible) :
    ∃ ts e, tokenize (st.write ps) = .ok (ts ++ [e]) ∧
      ts.map Token.unplaced = ps.map Piece.token ∧ e.kind = .endOfText := by
  obtain ⟨ts, e, hts, hmap, hkind⟩ := st.tokens_decomposition ps 0 {}
  refine ⟨ts, e, ?_, hmap, hkind⟩
  rw [write, ← st.chars_decomposition 0 ps, ← hts]
  exact tokenize_of_faithful (st.faithful_decomposition h 0)

end Style

end Broadband
