import Broadband.Proofs.Token.Layout
import Broadband.Proofs.Token.LetterCase
import Broadband.Proofs.Token.Places

/-!
# Tokens without the end of their text

A parser may be given tokens without the one for the end of the text. It then takes the text to end
behind the last token it has (`Token.endAfter`), and where that is it can only guess from the token:
as many bytes and columns further on as the token's text has. For most tokens the text is what was
written, up to the case of letters, so in a text with no blanks at its end the guess is right. A
string was written with quotes, and perhaps with backslashes and over several lines, none of which
are in its text; behind a string the guess is short by two bytes at least.

The end of a text decides nothing but the place of an error at the end (`Parser.State.run_of_ends`).
So the query is the same with and without the last token, and so is every error that comes earlier;
an error at the end says the same, and says it of the right place unless the last token is a string
(`Query.ofTokens_dropLast`).
-/

namespace Broadband

open Text (isBlank isDigit)

open List (Forall₂)

/-! ## Places on one line -/

namespace Position

theorem offset_advanceBy (p : Position) (cs : List Char) :
    (p.advanceBy cs).offset = p.offset + (String.ofList cs).utf8ByteSize := by
  induction cs generalizing p with
  | nil => rfl
  | cons c cs ih =>
    have hstep : (p.advance c).offset = p.offset + c.utf8Size := by
      rw [advance]
      split <;> rfl
    change ((p.advance c).advanceBy cs).offset = _
    rw [ih, hstep, utf8ByteSize_ofList_cons]
    omega

/-- Without line feeds, columns are characters. -/
theorem advanceBy_of_line {cs : List Char} (h : '\n' ∉ cs) (p : Position) :
    p.advanceBy cs = ⟨p.offset + (String.ofList cs).utf8ByteSize, p.line,
      p.column + cs.length⟩ := by
  have hoffset := p.offset_advanceBy cs
  have hline : (p.advanceBy cs).line = p.line ∧ (p.advanceBy cs).column = p.column + cs.length := by
    clear hoffset
    induction cs generalizing p with
    | nil => exact ⟨rfl, rfl⟩
    | cons c cs ih =>
      rw [List.mem_cons, not_or] at h
      have hstep : p.advance c = ⟨p.offset + c.utf8Size, p.line, p.column + 1⟩ := by
        rw [advance, if_neg (Ne.symm h.1)]
      obtain ⟨hl, hc⟩ := ih h.2 (p.advance c)
      change ((p.advance c).advanceBy cs).line = _ ∧ ((p.advance c).advanceBy cs).column = _
      rw [hl, hc, hstep, List.length_cons]
      constructor
      · rfl
      · dsimp only
        omega
  cases hp : p.advanceBy cs with
  | mk offset line column =>
    rw [hp] at hoffset hline
    rw [mk.injEq]
    exact ⟨hoffset, hline⟩

end Position

/-! ## How long a lexeme is -/

namespace Lexeme

variable {kind : Token.Kind} {text : String} {w : List Char}

theorem newline_notMem_of_isWordChar (h : ∀ c ∈ w, isWordChar c = true) : '\n' ∉ w := by
  intro hmem
  exact absurd (h '\n' hmem) (by decide)

/-- Other than a string, a token has the letters that it was written with. -/
theorem Spells.sameLetters (h : Spells kind text w) (hkind : kind ≠ .string) :
    Forall₂ SameLetter w text.toList ∧ '\n' ∉ w := by
  have hsame : ∀ cs : List Char, Forall₂ SameLetter cs cs :=
    fun cs => List.forall₂_same.2 fun _ _ => rfl
  cases h with
  | openParen => exact ⟨hsame _, by decide⟩
  | closeParen => exact ⟨hsame _, by decide⟩
  | comma => exact ⟨hsame _, by decide⟩
  | operator op => exact ⟨hsame _, by cases op <;> decide⟩
  | number _ hdigits =>
    rw [String.toList_ofList]
    refine ⟨hsame _, fun hmem => absurd (hdigits '\n' hmem) (by decide)⟩
  | @generation d g hgeneration =>
    obtain ⟨hd, hg⟩ := hgeneration
    rw [String.toList_ofList]
    refine ⟨.cons rfl (.cons ?_ .nil), ?_⟩
    · rcases hg with rfl | rfl <;> rfl
    · rcases hd with rfl | rfl <;> rcases hg with rfl | rfl <;> decide
  | keyword k hword htext =>
    rw [← htext, String.toList_ofList]
    refine ⟨List.forall₂_map_right_iff.2 (List.forall₂_same.2 fun c _ => ?_),
      newline_notMem_of_isWordChar hword.chars⟩
    exact SameLetter.toUpper_self c
  | identifier hword _ =>
    rw [String.toList_ofList]
    refine ⟨List.forall₂_map_right_iff.2 (List.forall₂_same.2 fun c _ => ?_),
      newline_notMem_of_isWordChar hword.chars⟩
    exact SameLetter.toLower_self c
  | string => exact absurd rfl hkind

/-- Other than a string, a lexeme is as long as its text. -/
theorem Spells.advanceBy (h : Spells kind text w) (hkind : kind ≠ .string) (p : Position) :
    p.advanceBy w = ⟨p.offset + text.utf8ByteSize, p.line, p.column + text.length⟩ := by
  obtain ⟨hletters, hline⟩ := h.sameLetters hkind
  have hlength : w.length = text.length := hletters.length_eq.trans String.length_toList
  have hsize : (String.ofList w).utf8ByteSize = text.utf8ByteSize := by
    have hoffset : (p.advanceBy text.toList).offset = (p.advanceBy w).offset := by
      rw [advanceBy_of_sameLetters hletters]
    rw [Position.offset_advanceBy, Position.offset_advanceBy, String.ofList_toList] at hoffset
    omega
  rw [Position.advanceBy_of_line hline, hlength, hsize]

/-- A character of a string takes as many bytes where it is written, and one more if it is
escaped. -/
theorem Decodes.utf8ByteSize_le {quote : Char} {inside text : List Char}
    (h : Decodes quote inside text) :
    (String.ofList text).utf8ByteSize ≤ (String.ofList inside).utf8ByteSize := by
  induction h with
  | nil => exact Nat.le_refl _
  | escape _ _ ih =>
    rw [utf8ByteSize_ofList_cons, utf8ByteSize_ofList_cons, utf8ByteSize_ofList_cons]
    omega
  | backslash _ _ _ ih =>
    rw [utf8ByteSize_ofList_cons, utf8ByteSize_ofList_cons '\\']
    omega
  | plain _ _ _ ih =>
    rw [utf8ByteSize_ofList_cons, utf8ByteSize_ofList_cons]
    omega

/-- A string is longer than its text, if only by its quotes. -/
theorem Spells.offset_advanceBy_string (h : Spells .string text w) (p : Position) :
    p.offset + text.utf8ByteSize + 2 ≤ (p.advanceBy w).offset := by
  rw [Position.offset_advanceBy]
  cases h with
  | @string quote inside text hquote hdecodes =>
    have hinside := hdecodes.utf8ByteSize_le
    have hpos := quote.utf8Size_pos
    rw [utf8ByteSize_ofList_cons, String.ofList_append, String.utf8ByteSize_append,
      utf8ByteSize_ofList_cons]
    omega

end Lexeme

/-! ## The last token -/

namespace Decomposition

/-- In a text that has tokens and does not end in blanks, the end is directly behind the last of
them. -/
theorem exists_last {d : Decomposition} (h : d.Faithful)
    (hend : ∀ c ∈ d.chars.getLast?, isBlank c = false) (p : Position) :
    d.tokens p = [⟨.endOfText, "", p⟩] ∧ d.chars = [] ∨
      ∃ us t w, d.tokens p = us ++ [t] ++ [⟨.endOfText, "", t.position.advanceBy w⟩] ∧
        Lexeme.Spells t.kind t.text w ∧ p.advanceBy d.chars = t.position.advanceBy w := by
  induction h generalizing p with
  | @ending trail htrail =>
    left
    have hnil : trail = [] := by
      by_contra hne
      have hlast := List.getLast?_eq_some_getLast hne
      have hblank := htrail _ (List.getLast_mem hne)
      rw [hend _ hlast] at hblank
      cases hblank
    rw [hnil]
    exact ⟨rfl, rfl⟩
  | @lexeme gap w kind text rest _ hspells _ _ ih =>
    right
    have hlast : ∀ c ∈ rest.chars.getLast?, isBlank c = false := by
      intro c hc
      refine hend c ?_
      rw [chars, List.getLast?_append, List.getLast?_append, hc]
      rfl
    have hafter : p.advanceBy (gap ++ (w ++ rest.chars))
        = ((p.advanceBy gap).advanceBy w).advanceBy rest.chars := by
      simp only [Position.advanceBy, List.foldl_append]
    rw [tokens, chars, hafter]
    rcases ih hlast ((p.advanceBy gap).advanceBy w) with
      ⟨htokens, hchars⟩ | ⟨us, t, v, htokens, ht, hplace⟩
    · refine ⟨[], ⟨kind, text, p.advanceBy gap⟩, w, ?_, hspells, ?_⟩
      · rw [htokens]
        rfl
      · rw [hchars]
        rfl
    · refine ⟨⟨kind, text, p.advanceBy gap⟩ :: us, t, v, ?_, ht, hplace⟩
      rw [htokens]
      rfl

end Decomposition

/-- The end of a text that is guessed from its last token. -/
theorem Token.endAfter_append (us : List Token) (t : Token) :
    Token.endAfter (us ++ [t]) = ⟨.endOfText, "", ⟨t.position.offset + t.text.utf8ByteSize,
      t.position.line, t.position.column + t.text.length⟩⟩ := by
  rw [Token.endAfter, List.getLast?_append]
  rfl

/-! ## Runs and where they end -/

namespace Parser.State

/-- A token for the end may be given among the tokens or apart from them. -/
theorem run_append_end {e : Token} (he : e.kind = .endOfText) (stop : Token) (s : State)
    (us : List Token) : run stop s (us ++ [e]) = run e s us := by
  induction us generalizing s with
  | nil =>
    rw [List.nil_append, run.eq_2, if_pos he, run]
  | cons u us ih =>
    rw [List.cons_append, run, run]
    by_cases hu : u.kind = .endOfText
    · rw [if_pos hu, if_pos hu]
    · rw [if_neg hu, if_neg hu]
      cases s.next? u with
      | some s' => exact ih s'
      | none => rfl

/-- **What the end of a text decides.** Two runs over the same tokens with ends at different places
complete the same query, or stop at the same token, or stop at the end for the same reason. -/
theorem run_of_ends {e e' : Token} (h : e'.unplaced = e.unplaced) (s : State) (us : List Token) :
    (∃ q, run e s us = .ok q ∧ run e' s us = .ok q) ∨
      (∃ c, ∃ u ∈ us, run e s us = .error ⟨c, u⟩ ∧ run e' s us = .error ⟨c, u⟩) ∨
      ∃ c, run e s us = .error ⟨c, e⟩ ∧ run e' s us = .error ⟨c, e'⟩ := by
  induction us generalizing s with
  | nil =>
    have hcomplaint : s.complaint e' = s.complaint e := by
      rw [← s.complaint_unplaced e', h, s.complaint_unplaced]
    rw [run, run, finish, finish, hcomplaint]
    cases s.query? with
    | some q => exact .inl ⟨q, rfl, rfl⟩
    | none => exact .inr (.inr ⟨_, rfl, rfl⟩)
  | cons u us ih =>
    rw [run, run]
    by_cases hu : u.kind = .endOfText
    · rw [if_pos hu, if_pos hu, finish]
      cases s.query? with
      | some q => exact .inl ⟨q, rfl, rfl⟩
      | none => exact .inr (.inl ⟨_, u, List.mem_cons_self, rfl, rfl⟩)
    · rw [if_neg hu, if_neg hu]
      cases s.next? u with
      | none => exact .inr (.inl ⟨_, u, List.mem_cons_self, rfl, rfl⟩)
      | some s' =>
        rcases ih s' with hok | ⟨c, v, hv, hrun, hrun'⟩ | hend
        · exact .inl hok
        · exact .inr (.inl ⟨c, v, List.mem_cons_of_mem u hv, hrun, hrun'⟩)
        · exact .inr (.inr hend)

end Parser.State

/-! ## The main statement -/

/-- The tokens of a text that does not end in blanks: behind those that are written comes the end,
which is at the place that is guessed for it, or at least two bytes further on if a string is
last. -/
theorem exists_end_of_tokenize {s : String} {ts : List Token} (h : tokenize s = .ok ts)
    (hend : ∀ c ∈ s.toList.getLast?, isBlank c = false) :
    ∃ us, ts = us ++ [⟨.endOfText, "", .behind s.toList⟩] ∧ (∀ u ∈ us, u.kind ≠ .endOfText) ∧
      ((∀ t ∈ us.getLast?, t.kind ≠ .string) →
        Token.endAfter us = ⟨.endOfText, "", .behind s.toList⟩) ∧
      ∀ t ∈ us.getLast?, t.kind = .string →
        (Token.endAfter us).position.offset + 2 ≤ (Position.behind s.toList).offset := by
  obtain ⟨d, hd, rfl, rfl⟩ := exists_faithful_of_tokenize h
  have hchars : d.text.toList = d.chars := (Decomposition.chars_of_text rfl).symm
  rw [hchars] at hend ⊢
  have hplace : Position.advanceBy {} d.chars = .behind d.chars :=
    Position.advanceBy_behind [] d.chars
  obtain ⟨us, e, htokens, -, hus⟩ := d.tokens_eq_append hd {}
  rcases Decomposition.exists_last hd hend {} with
    ⟨hnone, hempty⟩ | ⟨vs, t, w, hlast, hspells, hbehind⟩
  · -- a text without tokens is empty
    refine ⟨[], ?_, List.forall_mem_nil _, fun _ => ?_, fun t ht => by cases ht⟩
    · rw [hnone, hempty]
      rfl
    · rw [hempty]
      rfl
  · rw [hplace] at hbehind
    have hinit : us = vs ++ [t] := by
      rw [htokens] at hlast
      exact (List.append_inj' hlast rfl).1
    have hlast? : ∀ u ∈ (vs ++ [t]).getLast?, u = t := by
      intro u hu
      rw [List.getLast?_append] at hu
      exact (Option.some.inj hu).symm
    refine ⟨vs ++ [t], by rw [hlast, hbehind], hinit ▸ hus, fun hplain => ?_,
      fun u hu hstring => ?_⟩
    · have hkind : t.kind ≠ .string := hplain t (by rw [List.getLast?_append]; rfl)
      rw [Token.endAfter_append, hbehind, hspells.advanceBy hkind]
    · obtain rfl := hlast? u hu
      rw [Token.endAfter_append, hbehind]
      rw [hstring] at hspells
      exact hspells.offset_advanceBy_string u.position

/-- **Tokens without their end.** Take the tokens of a text that does not end in blanks, and leave
out the last one, which is the end of the text. The query that they spell is the same, and so is an
error at any token. An error at the end of the text stands directly behind the text; without its
token it says the same, and of the same place unless the last token is a string. Then it is taken to
stand behind the string's text, which is at least two bytes too early. -/
theorem Query.ofTokens_dropLast {s : String} {ts : List Token} (h : tokenize s = .ok ts)
    (hend : ∀ c ∈ s.toList.getLast?, isBlank c = false) :
    (∀ q, Query.ofTokens ts.dropLast = .ok q ↔ Query.ofTokens ts = .ok q) ∧
      (∀ e, Query.ofTokens ts = .error e → e.found.kind ≠ .endOfText →
        Query.ofTokens ts.dropLast = .error e) ∧
      ∀ e, Query.ofTokens ts = .error e → e.found.kind = .endOfText →
        e.position = .behind s.toList ∧
        ∃ e', Query.ofTokens ts.dropLast = .error e' ∧ e'.message = e.message ∧
          ((∀ t ∈ ts.dropLast.getLast?, t.kind ≠ .string) → e' = e) ∧
          ∀ t ∈ ts.dropLast.getLast?, t.kind = .string →
            e'.position = ⟨t.position.offset + t.text.utf8ByteSize, t.position.line,
              t.position.column + t.text.length⟩ ∧
            e'.position.offset + 2 ≤ e.position.offset := by
  obtain ⟨us, rfl, hus, hguess, hshort⟩ := exists_end_of_tokenize h hend
  have hwith : Query.ofTokens (us ++ [⟨.endOfText, "", .behind s.toList⟩])
      = Parser.State.run ⟨.endOfText, "", .behind s.toList⟩ .start us :=
    Parser.State.run_append_end rfl _ .start us
  have hwithout : Query.ofTokens us = Parser.State.run (Token.endAfter us) .start us := rfl
  have hunplaced : (Token.endAfter us).unplaced
      = (Token.mk .endOfText "" (.behind s.toList)).unplaced := by
    rw [Token.endAfter]
    cases us.getLast? <;> rfl
  rw [List.dropLast_concat, hwith, hwithout]
  rcases Parser.State.run_of_ends hunplaced .start us with
    ⟨q, hrun, hrun'⟩ | ⟨c, u, hu, hrun, hrun'⟩ | ⟨c, hrun, hrun'⟩
  · rw [hrun, hrun']
    exact ⟨fun _ => Iff.rfl, fun e he => (by cases he), fun e he => (by cases he)⟩
  · rw [hrun, hrun']
    refine ⟨fun _ => Iff.rfl, fun e he _ => he, fun e he hkind => ?_⟩
    obtain rfl := Except.error.inj he
    exact absurd hkind (hus u hu)
  · rw [hrun, hrun']
    refine ⟨fun q => ⟨fun hq => (by cases hq), fun hq => (by cases hq)⟩, fun e he hkind => ?_,
      fun e he _ => ?_⟩
    · obtain rfl := Except.error.inj he
      exact absurd rfl hkind
    · obtain rfl := Except.error.inj he
      refine ⟨rfl, ⟨c, Token.endAfter us⟩, rfl, ?_, fun hplain => ?_, fun t ht hstring => ⟨?_, ?_⟩⟩
      · have herror : SyntaxError.unplaced ⟨c, Token.endAfter us⟩
            = SyntaxError.unplaced ⟨c, ⟨.endOfText, "", .behind s.toList⟩⟩ :=
          congrArg (SyntaxError.mk c) hunplaced
        rw [← SyntaxError.message_unplaced, herror, SyntaxError.message_unplaced]
      · rw [hguess hplain]
      · rw [SyntaxError.position, Token.endAfter, Option.mem_def.1 ht]
      · exact hshort t ht hstring

/-- A query that breaks off behind a string. -/
def Decomposition.brokenOff : Decomposition :=
  .lexeme [] ['H', 'A', 'S'] .keyword "HAS" <|
  .lexeme [' '] ['t', 'i', 'l', 'b'] .identifier "tilb" <|
  .lexeme [' '] ['='] .operator "=" <| .lexeme [' '] ['"', 'x', '"'] .string "x" <| .ending []

theorem Query.ofTokens_dropLast_brokenOff :
    ∃ ts, tokenize "HAS tilb = \"x\"" = .ok ts ∧
      Query.ofTokens ts
        = .error ⟨.expected (.keyword .count), ⟨.endOfText, "", ⟨14, 1, 15⟩⟩⟩ ∧
      ∃ e, Query.ofTokens ts.dropLast = .error e ∧
        e.message = "Expected keyword 'COUNT', got end of input" ∧ e.position = ⟨12, 1, 13⟩ := by
  have htokens : tokenize "HAS tilb = \"x\"" = .ok (Decomposition.brokenOff.tokens {}) :=
    tokenize_of_faithful (d := .brokenOff) (by decide +kernel)
  have herror : Query.ofTokens (Decomposition.brokenOff.tokens {})
      = .error ⟨.expected (.keyword .count), ⟨.endOfText, "", ⟨14, 1, 15⟩⟩⟩ := by decide +kernel
  have hlast : ∀ c ∈ "HAS tilb = \"x\"".toList.getLast?, isBlank c = false := by
    intro c hc
    obtain rfl : '"' = c := Option.some.inj hc
    rfl
  obtain ⟨e, he, hmessage, -, hstring⟩ := ((ofTokens_dropLast htokens hlast).2.2 _ herror rfl).2
  refine ⟨_, htokens, herror, e, he, hmessage, ?_⟩
  exact (hstring ⟨.string, "x", ⟨11, 1, 12⟩⟩ rfl rfl).1

end Broadband
