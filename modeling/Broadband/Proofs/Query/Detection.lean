import Broadband.Compile
import Broadband.Proofs.Query.Acceptance
import Broadband.Proofs.Token.Decomposition
import Mathlib.Data.List.Basic

/-!
# Telling queries from other texts

`looksLikeQuery` looks at the first few characters of a text and never asks the lexer or the parser.
That it turns no query away rests on two things. What it looks for is the word `HAS` behind blanks,
as a whole word (`looksLikeQuery_eq_true_iff`). And in a query the requirement follows at once,
which starts with a word or a parenthesis (`Grammar.Opens`). A word cannot touch the one before it,
so after `HAS` there is a blank or the parenthesis, which is just what `looksLikeQuery` admits.
-/

namespace Broadband

open Text (isBlank isDigit)

/-! ## What a requirement starts with -/

namespace Grammar

/-- The token is a word or an opening parenthesis. -/
def Opens (t : Token) : Prop := (t.kind = .keyword ∨ t.kind = .identifier) ∨ t.kind = .openParen

variable {ts : List Token}

theorem Spells.opens {rank : Rank} {c : Criterion} (h : Spells rank ts c) :
    ∃ t us, ts = t :: us ∧ Opens t := by
  induction h with
  | @technology t _ word => exact ⟨t, [], rfl, .inl (.inr word.kind)⟩
  | @compare t u v _ _ _ left _ _ => exact ⟨t, [u, v], rfl, .inl (.inr left.kind)⟩
  | @not t ts _ keyword _ _ => exact ⟨t, ts, rfl, .inl (.inl keyword.kind)⟩
  | @paren t u ts _ opening _ _ _ => exact ⟨t, ts ++ [u], rfl, .inr opening⟩
  | operand _ ih => exact ih
  | term _ ih => exact ih
  | @and _ us t _ _ _ _ _ ih _ =>
    obtain ⟨first, rest, rfl, hopens⟩ := ih
    exact ⟨first, rest ++ t :: us, rfl, hopens⟩
  | @or _ us t _ _ _ _ _ ih _ =>
    obtain ⟨first, rest, rfl, hopens⟩ := ih
    exact ⟨first, rest ++ t :: us, rfl, hopens⟩

theorem SpellsRequirement.opens {r : Requirement} (h : SpellsRequirement ts r) :
    ∃ t us, ts = t :: us ∧ Opens t := by
  cases h with
  | single only => exact only.opens
  | @quantified t u v us _ _ keyword _ _ _ =>
    exact ⟨t, u :: (us ++ [v]), rfl, .inl (.inl keyword.kind)⟩

/-- A query starts with `HAS` and what opens its requirement. -/
theorem SpellsQuery.has_opens {q : Query} (h : SpellsQuery ts q) :
    ∃ t u us, ts = t :: u :: us ∧ IsKeyword t .has ∧ Opens u := by
  obtain ⟨-, ⟨has, requirement, -, -, -⟩, -, -, -, -, -, -⟩ := h
  obtain ⟨u, us, rfl, hopens⟩ := requirement.opens
  exact ⟨_, u, _, rfl, has, hopens⟩

end Grammar

/-! ## The word `HAS` -/

/-- The characters spell the word that a query starts with, in any case. -/
def SpellsHas (w : List Char) : Prop := w.map Char.toUpper = ['H', 'A', 'S']

/-- What may follow the first word of a query: a blank, a parenthesis or nothing. -/
def MayFollowHas (rest : List Char) : Prop := ∀ c ∈ rest.head?, isBlank c = true ∨ c = '('

variable {w rest : List Char}

theorem SpellsHas.isAlpha (h : SpellsHas w) : ∀ c ∈ w, c.isAlpha = true := by
  intro c hc
  have hupper : c.toUpper ∈ ['H', 'A', 'S'] := h ▸ List.mem_map_of_mem hc
  have hletters : ['H', 'A', 'S'].all Char.isAlpha = true := rfl
  have hcapital := isAlpha_iff_toNat.1 (List.all_eq_true.1 hletters _ hupper)
  rw [toNat_toUpper] at hcapital
  rw [isAlpha_iff_toNat]
  grind

theorem SpellsHas.word (h : SpellsHas w) : Lexeme.Word w where
  ne_nil := by
    rintro rfl
    cases h
  chars c hc := isWordChar_of_isAlpha (h.isAlpha c hc)
  first c hc := isDigit_of_isAlpha (h.isAlpha c (List.mem_of_mem_head? hc))

/-- It is read as the keyword. -/
theorem SpellsHas.spells (h : SpellsHas w) : Lexeme.Spells .keyword Keyword.has.text w :=
  .keyword .has h.word (by rw [h]; rfl)

/-- Only it is read as the keyword. -/
theorem spellsHas_of_spells (h : Lexeme.Spells .keyword Keyword.has.text w) : SpellsHas w := by
  generalize htext : Keyword.has.text = text at h
  cases h with
  | keyword k _ hk =>
    rw [← htext] at hk
    rw [SpellsHas, ← String.toList_ofList (l := w.map Char.toUpper), hk]
    rfl

theorem MayFollowHas.maximal (h : MayFollowHas rest) : Lexeme.Maximal .keyword w rest := by
  intro c hc
  rcases h c hc with hblank | rfl
  · exact isWordChar_of_isBlank hblank
  · rfl

/-- The text is the word behind blanks, and nothing goes on with the word. -/
theorem looksLikeQuery_eq_true_iff {s : String} :
    looksLikeQuery s = true ↔
      ∃ gap w rest, s.toList = gap ++ (w ++ rest) ∧ Blanks gap ∧ SpellsHas w ∧
        MayFollowHas rest := by
  constructor
  · intro h
    rw [looksLikeQuery] at h
    split at h
    · next a b c rest hdrop =>
      rw [Bool.and_eq_true, beq_iff_eq] at h
      refine ⟨s.toList.takeWhile isBlank, [a, b, c], rest, ?_,
        fun d hd => List.mem_takeWhile_imp hd, h.1, ?_⟩
      · rw [show [a, b, c] ++ rest = s.toList.dropWhile isBlank from hdrop.symm,
          List.takeWhile_append_dropWhile]
      · intro d hd
        have hfollows := h.2
        rw [Option.mem_def.1 hd] at hfollows
        simpa using hfollows
    · cases h
  · rintro ⟨gap, w, rest, hs, hgap, hword, hrest⟩
    have hread := Lexeme.read_of_spells hword.spells hrest.maximal
    obtain ⟨a, b, c, rfl⟩ : ∃ a b c, w = [a, b, c] := List.length_eq_three.1 (by
      rw [← List.length_map (f := Char.toUpper), hword]
      rfl)
    rw [looksLikeQuery, hs, Cursor.dropWhile_isBlank_of_read hgap hread]
    have hfollows : (rest.head?.all fun c => isBlank c || c == '(') = true := by
      cases rest with
      | nil => rfl
      | cons d rest => simpa using hrest d rfl
    exact Bool.and_eq_true_iff.2 ⟨beq_iff_eq.2 hword, hfollows⟩

/-! ## Queries and their first characters -/

/-- A word starts with a character of words. -/
theorem Lexeme.Spells.head?_isWordChar {kind : Token.Kind} {text : String} (h : Spells kind text w)
    (hkind : kind = .keyword ∨ kind = .identifier) : ∃ c ∈ w.head?, isWordChar c = true := by
  have hword : ∀ {w : List Char}, Word w → ∃ c ∈ w.head?, isWordChar c = true := by
    intro w hw
    obtain ⟨c, cs, rfl⟩ := List.exists_cons_of_ne_nil hw.ne_nil
    exact ⟨c, rfl, hw.chars c List.mem_cons_self⟩
  cases h with
  | keyword _ hw _ => exact hword hw
  | identifier hw _ => exact hword hw
  | @generation d g hgeneration =>
    refine ⟨d, rfl, ?_⟩
    rcases hgeneration.1 with rfl | rfl <;> rfl
  | _ => rcases hkind with h | h <;> cases h

/-- After the first word of a query, only a blank or a parenthesis can follow. -/
theorem mayFollowHas_of_opens {rest : Decomposition} {p : Position} {t : Token} {ts : List Token}
    (hrest : rest.Faithful) (hmax : Lexeme.Maximal .keyword w rest.chars)
    (htokens : rest.tokens p = t :: ts) (hopens : Grammar.Opens t) : MayFollowHas rest.chars := by
  cases hrest with
  | ending hblanks => exact fun c hc => .inl (hblanks c (List.mem_of_mem_head? hc))
  | @lexeme gap v kind text rest hgap hspells _ _ =>
    intro c hc
    cases gap with
    | cons d gap =>
      obtain rfl := Option.some.inj hc
      exact .inl (hgap d List.mem_cons_self)
    | nil =>
      obtain ⟨rfl, -⟩ := List.cons.inj htokens
      rcases hopens with hword | hparen
      · -- the two lexemes touch, and then the second is no word
        obtain ⟨d, hd, hwordChar⟩ := hspells.head?_isWordChar hword
        have hhead : d ∈ (v ++ rest.chars).head? := by
          rw [Option.mem_def, List.head?_append, Option.mem_def.1 hd]
          rfl
        rw [hmax d hhead] at hwordChar
        cases hwordChar
      · obtain rfl : kind = .openParen := hparen
        cases hspells with
        | openParen => exact .inr (Option.some.inj hc).symm

theorem Query.tokens_of_parse {s : String} {q : Query} (h : Query.parse s = .ok q) :
    ∃ ts, tokenize s = .ok ts ∧ Query.ofTokens ts = .ok q := by
  rw [Query.parse] at h
  split at h
  · cases h
  · next ts htokens =>
    split at h
    · cases h
    · next q' hquery =>
      obtain rfl := Except.ok.inj h
      exact ⟨ts, htokens, hquery⟩

/-- A text that is read as a query starts with `HAS` and what may follow it. -/
theorem looksLikeQuery_of_parse {s : String} {q : Query} (h : Query.parse s = .ok q) :
    looksLikeQuery s = true := by
  obtain ⟨ts, htokenize, hquery⟩ := Query.tokens_of_parse h
  obtain ⟨d, hd, hs, rfl⟩ := exists_faithful_of_tokenize htokenize
  have hspells := Query.spells_of_ofTokens (d.tokens_eq_append hd {}) hquery
  obtain ⟨t, u, us, htokens, hhas, hopens⟩ := hspells.has_opens
  rw [looksLikeQuery_eq_true_iff]
  cases hd with
  | ending _ => cases htokens
  | @lexeme gap w kind text rest hgap hfirst hmax hrest =>
    obtain ⟨rfl, hafter⟩ := List.cons.inj htokens
    obtain ⟨rfl, rfl⟩ : kind = .keyword ∧ text = Keyword.has.text := ⟨hhas.kind, hhas.text⟩
    exact ⟨gap, w, rest.chars, (Decomposition.chars_of_text hs).symm, hgap,
      spellsHas_of_spells hfirst, mayFollowHas_of_opens hrest hmax hafter hopens⟩

/-- A text that starts so has `HAS` as its first token. -/
theorem next_of_looksLikeQuery {s : String} (h : looksLikeQuery s = true) :
    ∃ t after, (Cursor.ofText s).next = (.ok t, after) ∧ Grammar.IsKeyword t .has := by
  obtain ⟨gap, w, rest, hs, hgap, hword, hrest⟩ := looksLikeQuery_eq_true_iff.1 h
  have hnext := Cursor.next_of_spells hgap hword.spells hrest.maximal {}
  rw [← hs] at hnext
  exact ⟨_, _, hnext, ⟨rfl, rfl⟩⟩

/-- **Detection turns no query away.** Every text that is read as a query is taken for one; and of a
text that is taken for one, the first token that the lexer gives is the keyword `HAS`. -/
theorem looksLikeQuery_of_parse_and_next (s : String) :
    (∀ q, Query.parse s = .ok q → looksLikeQuery s = true) ∧
      (looksLikeQuery s = true →
        ∃ t after, (Cursor.ofText s).next = (.ok t, after) ∧ Grammar.IsKeyword t .has) :=
  ⟨fun _ => looksLikeQuery_of_parse, next_of_looksLikeQuery⟩

/-- A query behind a blank that is not of ASCII, with a parenthesis that touches its first word. -/
def Decomposition.touching : Decomposition :=
  .lexeme ['\u00A0'] ['h', 'A', 's'] .keyword "HAS" <| .lexeme [] ['('] .openParen "(" <|
  .lexeme [] ['5', 'g'] .identifier "5g" <| .lexeme [] [')'] .closeParen ")" <|
  .lexeme [] ['C', 'O', 'U', 'N', 'T'] .keyword "COUNT" <|
  .lexeme [' '] ['h', 'u', 's'] .identifier "hus" <| .ending []

theorem looksLikeQuery_touching :
    (∃ q, Query.parse "\u00A0hAs(5g)COUNT hus" = .ok q) ∧
      looksLikeQuery "\u00A0hAs(5g)COUNT hus" = true ∧
      ∃ t after, (Cursor.ofText "\u00A0hAs(5g)COUNT hus").next = (.ok t, after) ∧
        Grammar.IsKeyword t .has := by
  have hfaithful : Decomposition.touching.Faithful := by decide +kernel
  have htext : Decomposition.touching.text = "\u00A0hAs(5g)COUNT hus" := by decide +kernel
  have htokens : tokenize "\u00A0hAs(5g)COUNT hus" = .ok (Decomposition.touching.tokens {}) := by
    rw [← htext, tokenize_of_faithful hfaithful]
  obtain ⟨q, hq⟩ : ∃ q, Query.parse "\u00A0hAs(5g)COUNT hus" = .ok q := by
    rw [Query.parse, htokens]
    exact ⟨_, rfl⟩
  obtain ⟨hcomplete, hsound⟩ := looksLikeQuery_of_parse_and_next "\u00A0hAs(5g)COUNT hus"
  exact ⟨⟨q, hq⟩, hcomplete q hq, hsound (hcomplete q hq)⟩

end Broadband
