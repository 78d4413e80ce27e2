import Broadband.Compile
import Broadband.Proofs.Token.Decomposition
import Mathlib.Data.List.DropRight
import Mathlib.Data.List.Forall2

/-!
# Letter case

Outside of strings a letter may be written in either case. Two texts are compared that have the same
characters, except that letters of ASCII which stand in no string literal may differ in case
(`Recased`). Where the literals are is a matter of the lexer itself, so `markLiterals` follows its
run: what it reads as a string is a literal, an unterminated one goes on to the end of the text, and
behind a character that it does not take it reads no further, so nothing there is one.

Both texts are read in step. Which lexeme stands at a place does not depend on the case of the
letters ahead (`Lexeme.read_of_sameLetters`), unless it is a string, and then the two texts agree in
all of it. So the cursors that read them stay at the same place and give the same tokens
(`Cursor.Recased.next`), however often they are asked.
-/

namespace Broadband

open Text (isBlank isDigit)

open List (Forall₂)

/-! ## The same letter -/

/-- The same character, or the same letter of ASCII in the other case. -/
def SameLetter (c c' : Char) : Prop := c'.toLower = c.toLower

instance : DecidableRel SameLetter := fun _ _ => inferInstanceAs (Decidable (_ = _))

namespace SameLetter

variable {c c' : Char}

theorem iff_toNat :
    SameLetter c c' ↔
      (if 65 ≤ c'.toNat ∧ c'.toNat ≤ 90 then c'.toNat + 32 else c'.toNat)
        = if 65 ≤ c.toNat ∧ c.toNat ≤ 90 then c.toNat + 32 else c.toNat := by
  rw [SameLetter, ← Char.toNat_inj, toNat_toLower, toNat_toLower]

theorem eq_or_isAlpha (h : SameLetter c c') : c' = c ∨ c.isAlpha = true ∧ c'.isAlpha = true := by
  rw [iff_toNat] at h
  rw [isAlpha_iff_toNat, isAlpha_iff_toNat, ← Char.toNat_inj]
  grind

theorem toUpper_eq (h : SameLetter c c') : c'.toUpper = c.toUpper := by
  rw [iff_toNat] at h
  rw [← Char.toNat_inj, toNat_toUpper, toNat_toUpper]
  grind

theorem toLower_self (c : Char) : SameLetter c c.toLower := by
  rw [iff_toNat, toNat_toLower]
  grind

theorem toUpper_self (c : Char) : SameLetter c c.toUpper := by
  rw [iff_toNat, toNat_toUpper]
  grind

/-- A class of characters that does not tell letters apart does not tell cases apart. -/
theorem class_eq (h : SameLetter c c') {p : Char → Bool} {b : Bool}
    (hp : ∀ d : Char, d.isAlpha = true → p d = b) : p c' = p c := by
  rcases h.eq_or_isAlpha with rfl | ⟨hc, hc'⟩
  · rfl
  · rw [hp c hc, hp c' hc']

/-- The letter of a generation of mobile network. -/
theorem toLower_eq_g_iff : c.toLower = 'g' ↔ c = 'g' ∨ c = 'G' := by
  have hsmall : 'g'.toNat = 103 := rfl
  have hcapital : 'G'.toNat = 71 := rfl
  rw [← Char.toNat_inj, ← Char.toNat_inj, ← Char.toNat_inj, toNat_toLower, hsmall, hcapital]
  grind

/-- Letters of ASCII are one byte long and end no line. -/
theorem advance_eq (h : SameLetter c c') (p : Position) : p.advance c' = p.advance c := by
  rcases h.eq_or_isAlpha with rfl | ⟨hc, hc'⟩
  · rfl
  · have hline : ∀ {d : Char}, d.isAlpha = true → d ≠ '\n' := by
      rintro _ hd rfl
      cases hd
    have hsize : ∀ {d : Char}, d.isAlpha = true → d.utf8Size = 1 := by
      intro d hd
      have hletter := isAlpha_iff_toNat.1 hd
      rw [Char.utf8Size_eq_one_iff, UInt32.le_iff_toNat_le]
      change d.toNat ≤ 127
      omega
    rw [Position.advance, Position.advance, if_neg (hline hc), if_neg (hline hc'), hsize hc,
      hsize hc']

end SameLetter

/-- No letter is a blank. -/
theorem isBlank_of_isAlpha {c : Char} (h : c.isAlpha = true) : isBlank c = false := by
  rw [Bool.eq_false_iff]
  intro hblank
  have hword := isWordChar_of_isBlank hblank
  simp [isWordChar, h] at hword

/-! ## The same letters -/

section

variable {cs cs' : List Char}

theorem head?_of_sameLetters (h : Forall₂ SameLetter cs cs') {p : Char → Bool} {b : Bool}
    (hp : ∀ d : Char, d.isAlpha = true → p d = b) : cs'.head?.any p = cs.head?.any p := by
  cases h with
  | nil => rfl
  | cons hc _ => exact hc.class_eq hp

theorem head?_eq_some_of_sameLetters (h : Forall₂ SameLetter cs cs') {d : Char}
    (hd : d.isAlpha = false) :
    cs'.head? = some d ↔ cs.head? = some d := by
  cases h with
  | nil => rfl
  | @cons c c' _ _ hc _ =>
    have hclass : (c' == d) = (c == d) := hc.class_eq (p := (· == d)) (b := false) fun e he => by
      rw [beq_eq_false_iff_ne]
      rintro rfl
      rw [hd] at he
      cases he
    rw [List.head?_cons, List.head?_cons, Option.some.injEq, Option.some.injEq, ← beq_iff_eq,
      hclass, beq_iff_eq]

/-- A run of characters of a class ends at the same place. -/
theorem takeWhile_sameLetters (h : Forall₂ SameLetter cs cs') {p : Char → Bool} {b : Bool}
    (hp : ∀ d : Char, d.isAlpha = true → p d = b) :
    Forall₂ SameLetter (cs.takeWhile p) (cs'.takeWhile p) := by
  induction h with
  | nil => exact .nil
  | @cons c c' _ _ hc _ ih =>
    rw [List.takeWhile_cons, List.takeWhile_cons, hc.class_eq hp]
    split
    · exact .cons hc ih
    · exact .nil

/-- Characters that are no letters are the same. -/
theorem eq_of_sameLetters (h : Forall₂ SameLetter cs cs') (hcs : ∀ c ∈ cs, c.isAlpha = false) :
    cs' = cs := by
  induction h with
  | nil => rfl
  | @cons c c' cs cs' hc _ ih =>
    obtain ⟨hhead, htail⟩ := List.forall_mem_cons.1 hcs
    rcases hc.eq_or_isAlpha with rfl | ⟨halpha, -⟩
    · rw [ih htail]
    · rw [hhead] at halpha
      cases halpha

theorem map_of_sameLetters {α : Type} {f : Char → α} (hf : ∀ {c c'}, SameLetter c c' → f c' = f c)
    (h : Forall₂ SameLetter cs cs') : cs'.map f = cs.map f := by
  induction h with
  | nil => rfl
  | cons hc _ ih => rw [List.map_cons, List.map_cons, hf hc, ih]

theorem advanceBy_of_sameLetters (h : Forall₂ SameLetter cs cs') (p : Position) :
    p.advanceBy cs' = p.advanceBy cs := by
  induction h generalizing p with
  | nil => rfl
  | cons hc _ ih =>
    rw [Position.advanceBy, Position.advanceBy, List.foldl_cons, List.foldl_cons, hc.advance_eq]
    exact ih _

end

namespace Lexeme

variable {cs cs' w w' : List Char}

theorem ofWord_of_sameLetters (h : Forall₂ SameLetter w w') : ofWord w' = ofWord w := by
  rw [ofWord, ofWord, map_of_sameLetters SameLetter.toUpper_eq h,
    map_of_sameLetters (f := Char.toLower) id h, h.length_eq]

theorem startsGeneration_of_sameLetters {c : Char} (h : Forall₂ SameLetter cs cs') :
    startsGeneration (c :: cs') = startsGeneration (c :: cs) := by
  cases h with
  | nil => rfl
  | @cons g g' _ _ hg htail =>
    have hletter : (decide (g' = 'g') || decide (g' = 'G'))
        = (decide (g = 'g') || decide (g = 'G')) := by
      simp only [← Bool.decide_or, ← SameLetter.toLower_eq_g_iff]
      rw [show g'.toLower = g.toLower from hg]
    rw [startsGeneration, startsGeneration, hletter,
      head?_of_sameLetters htail fun _ => isWordChar_of_isAlpha]

/-- **Which lexeme stands at a place** does not depend on the case of the letters ahead, unless it
is a string. -/
theorem read_of_sameLetters (h : Forall₂ SameLetter cs cs')
    (hquote : ∀ c ∈ cs.head?, c ≠ '"' ∧ c ≠ '\'') : read cs' = read cs := by
  cases h with
  | nil => rfl
  | @cons c c' cs cs' hc hcs =>
    have hword := takeWhile_sameLetters hcs fun _ => isWordChar_of_isAlpha
    rcases hc.eq_or_isAlpha with rfl | ⟨halpha, halpha'⟩
    · have hdigits : cs'.takeWhile isDigit = cs.takeWhile isDigit := by
        refine eq_of_sameLetters (takeWhile_sameLetters hcs fun _ => isDigit_of_isAlpha)
          fun d hd => ?_
        rw [Bool.eq_false_iff]
        intro halpha
        have hdigit : isDigit d = true := List.mem_takeWhile_imp hd
        rw [isDigit_of_isAlpha halpha] at hdigit
        cases hdigit
      have hnext : (cs'.head? = some '=') = (cs.head? = some '=') :=
        propext (head?_eq_some_of_sameLetters hcs rfl)
      have hstring : (decide (c' = '"') || decide (c' = '\'')) = false := by
        simpa using hquote c' rfl
      simp only [read, hstring, startsGeneration_of_sameLetters hcs, hdigits, hnext,
        ofWord_of_sameLetters (.cons hc hword), Bool.false_eq_true, if_false]
    · rw [read_of_isWordChar (isWordChar_of_isAlpha halpha) (isDigit_of_isAlpha halpha),
        read_of_isWordChar (isWordChar_of_isAlpha halpha') (isDigit_of_isAlpha halpha'),
        ofWord_of_sameLetters (.cons hc hword)]

end Lexeme

/-! ## Literals -/

/-- The characters of a text, each with whether it stands in a string literal. The lexer delimits
them: a string without an end takes the rest of the text, and behind a character that starts no
lexeme nothing is read. -/
def markLiterals (cs : List Char) : List (Char × Bool) :=
  let gap := cs.takeWhile isBlank
  let tail := cs.dropWhile isBlank
  match _h : Lexeme.read tail with
  | .nothing => cs.map (·, false)
  | .lexeme kind _ n =>
    gap.map (·, false) ++ ((tail.take n).map (·, kind == .string) ++ markLiterals (tail.drop n))
  | .fault .unterminated => gap.map (·, false) ++ tail.map (·, true)
  | .fault (.unexpected _) => cs.map (·, false)
termination_by cs.length
decreasing_by
  have hpos := Lexeme.length_pos _h
  have hne : 0 < (cs.dropWhile isBlank).length :=
    List.length_pos_iff.2 (Lexeme.ne_nil_of_lexeme _h)
  have hle : (cs.dropWhile isBlank).length ≤ cs.length := (List.dropWhile_suffix isBlank).length_le
  rw [List.length_drop]
  omega

/-- What may be written for a marked character: itself, and outside of literals the same letter. -/
def MayStandFor (m : Char × Bool) (c' : Char) : Prop := if m.2 then c' = m.1 else SameLetter m.1 c'

instance (m : Char × Bool) (c' : Char) : Decidable (MayStandFor m c') :=
  inferInstanceAs (Decidable (if m.2 then c' = m.1 else SameLetter m.1 c'))

/-- The second text is the first with letters in another case, though none that stands in a
literal. -/
def Recased (cs cs' : List Char) : Prop := Forall₂ MayStandFor (markLiterals cs) cs'

section

variable {cs cs' : List Char} {kind : Token.Kind} {text : String} {n : Nat} {c : Char}

theorem drop_length_takeWhile (p : Char → Bool) (cs : List Char) :
    cs.drop (cs.takeWhile p).length = cs.dropWhile p := by
  have happend := List.takeWhile_append_dropWhile (p := p) (l := cs)
  conv_lhs => arg 2; rw [← happend]
  exact List.drop_left

theorem takeWhile_dropWhile_isBlank (cs : List Char) :
    (cs.dropWhile isBlank).takeWhile isBlank = [] := by
  rw [List.takeWhile_eq_nil_iff]
  intro hne
  exact List.dropWhile_get_zero_not isBlank cs hne

theorem map_fst_markLiterals (cs : List Char) : (markLiterals cs).map Prod.fst = cs := by
  have hchars : ∀ (ds : List Char) (b : Bool), (ds.map (·, b)).map Prod.fst = ds := fun ds b => by
    rw [List.map_map]
    exact List.map_id ds
  fun_induction markLiterals cs with
  | case1 => exact hchars _ _
  | case2 cs gap tail kind text n hread ih =>
    rw [List.map_append, List.map_append, hchars, hchars, ih, List.take_append_drop,
      List.takeWhile_append_dropWhile]
  | case3 => rw [List.map_append, hchars, hchars, List.takeWhile_append_dropWhile]
  | case4 => exact hchars _ _

/-- Blanks are in no literal. -/
theorem markLiterals_skipBlanks (cs : List Char) :
    markLiterals cs
      = (cs.takeWhile isBlank).map (·, false) ++ markLiterals (cs.dropWhile isBlank) := by
  have hwhole : cs.map (·, false)
      = (cs.takeWhile isBlank).map (·, false) ++ (cs.dropWhile isBlank).map (·, false) := by
    rw [← List.map_append, List.takeWhile_append_dropWhile]
  rw [markLiterals, markLiterals, takeWhile_dropWhile_isBlank, List.dropWhile_idempotent, hwhole]
  split <;> rfl

theorem markLiterals_of_lexeme (h : cs.dropWhile isBlank = cs)
    (hread : Lexeme.read cs = .lexeme kind text n) :
    markLiterals cs = (cs.take n).map (·, kind == .string) ++ markLiterals (cs.drop n) := by
  have hnone := takeWhile_dropWhile_isBlank cs
  rw [h] at hnone
  rw [markLiterals, h, hnone]
  split <;> simp_all

theorem markLiterals_of_unterminated (h : cs.dropWhile isBlank = cs)
    (hread : Lexeme.read cs = .fault .unterminated) : markLiterals cs = cs.map (·, true) := by
  have hnone := takeWhile_dropWhile_isBlank cs
  rw [h] at hnone
  rw [markLiterals, h, hnone]
  split <;> simp_all

theorem Recased.sameLetters (h : Recased cs cs') : Forall₂ SameLetter cs cs' := by
  have hpairs : Forall₂ (fun m c' => SameLetter m.1 c') (markLiterals cs) cs' := by
    refine List.Forall₂.imp (fun m c' hm => ?_) h
    rw [MayStandFor] at hm
    split at hm
    · exact congrArg _ hm
    · exact hm
  rw [← map_fst_markLiterals cs, List.forall₂_map_left_iff]
  exact hpairs

theorem Recased.refl (cs : List Char) : Recased cs cs := by
  have hpairs : Forall₂ MayStandFor (markLiterals cs) ((markLiterals cs).map Prod.fst) := by
    rw [List.forall₂_map_right_iff, List.forall₂_same]
    intro m _
    rw [MayStandFor]
    split <;> rfl
  rwa [map_fst_markLiterals] at hpairs

/-- The blanks ahead are the same, and what follows them is written in another case. -/
theorem Recased.skipBlanks (h : Recased cs cs') :
    cs'.takeWhile isBlank = cs.takeWhile isBlank ∧
      Recased (cs.dropWhile isBlank) (cs'.dropWhile isBlank) := by
  have hblanks : cs'.takeWhile isBlank = cs.takeWhile isBlank := by
    refine eq_of_sameLetters (takeWhile_sameLetters h.sameLetters fun _ => isBlank_of_isAlpha)
      fun c hc => ?_
    rw [Bool.eq_false_iff]
    intro halpha
    have hblank : isBlank c = true := List.mem_takeWhile_imp hc
    rw [isBlank_of_isAlpha halpha] at hblank
    cases hblank
  refine ⟨hblanks, ?_⟩
  rw [Recased, markLiterals_skipBlanks] at h
  have hafter := List.forall₂_drop ((cs.takeWhile isBlank).map (·, false)).length h
  rw [List.drop_left, List.length_map, ← hblanks, drop_length_takeWhile] at hafter
  exact hafter

/-- In a literal nothing differs. -/
theorem eq_of_forall₂_mayStandFor (h : Forall₂ MayStandFor (cs.map (·, true)) cs') : cs' = cs := by
  rw [List.forall₂_map_left_iff] at h
  have hflip : Forall₂ Eq cs' cs := .flip h
  rwa [List.forall₂_eq_eq_eq] at hflip

/-- Only a string starts with a quote. -/
theorem Lexeme.head?_ne_quote (hstring : ∀ text n, read cs ≠ .lexeme .string text n)
    (hopen : read cs ≠ .fault .unterminated) : ∀ c ∈ cs.head?, c ≠ '"' ∧ c ≠ '\'' := by
  intro c hc
  obtain ⟨tail, rfl⟩ := List.head?_eq_some_iff.1 hc
  rw [← not_or]
  intro hquote
  have hstart : (decide (c = '"') || decide (c = '\'')) = true := by simpa using hquote
  have hother : c ≠ '(' ∧ c ≠ ')' ∧ c ≠ ',' := by rcases hquote with rfl | rfl <;> decide
  cases hbody : stringBody c tail with
  | none => exact hopen (by simp only [read, hother, if_false, hstart, if_true, hbody])
  | some body =>
    exact hstring _ _ (by simp only [read, hother, if_false, hstart, if_true, hbody]; rfl)

/-- **One lexeme.** It is the same in both texts, and what follows it is written in another case. -/
theorem Recased.lexeme (h : Recased cs cs') (hcs : cs.dropWhile isBlank = cs)
    (hread : Lexeme.read cs = .lexeme kind text n) :
    Lexeme.read cs' = .lexeme kind text n ∧ Recased (cs.drop n) (cs'.drop n) := by
  obtain ⟨w, rest, hsplit, rfl, hspells, hmax⟩ := Lexeme.read_eq_lexeme_iff.1 hread
  have hmarks := h
  rw [Recased, markLiterals_of_lexeme hcs hread, hsplit, List.take_left, List.drop_left] at hmarks
  have hlength : (w.map (·, kind == .string)).length = w.length := List.length_map _
  have hafter := List.forall₂_drop (w.map (·, kind == .string)).length hmarks
  rw [List.drop_left, hlength] at hafter
  have hbefore := List.forall₂_take (w.map (·, kind == .string)).length hmarks
  rw [List.take_left, hlength] at hbefore
  constructor
  · -- in a string nothing differs, and what else is read does not depend on case
    by_cases hstring : kind = .string
    · subst hstring
      have hsame : cs'.take w.length = w := eq_of_forall₂_mayStandFor hbefore
      rw [← List.take_append_drop w.length cs', hsame]
      exact Lexeme.read_of_spells hspells trivial
    · have hquote : ∀ c ∈ cs.head?, c ≠ '"' ∧ c ≠ '\'' :=
        Lexeme.head?_ne_quote (by simp [hread, hstring]) (by simp [hread])
      rw [Lexeme.read_of_sameLetters h.sameLetters hquote, hread]
  · rw [hsplit, List.drop_left]
    exact hafter

end

/-- The characters of a text that has been taken apart, each with whether its lexeme is a string. -/
def Decomposition.marks : Decomposition → List (Char × Bool)
  | .ending trail => trail.map (·, false)
  | .lexeme gap w kind _ rest => gap.map (·, false) ++ (w.map (·, kind == .string) ++ rest.marks)

/-- The literals of a text that has tokens are its strings. -/
theorem markLiterals_chars {d : Decomposition} (h : d.Faithful) :
    markLiterals d.chars = d.marks := by
  induction h with
  | @ending trail hblanks =>
    rw [Decomposition.chars, markLiterals, List.dropWhile_eq_nil_iff.2 hblanks]
    rfl
  | @lexeme gap w kind text rest hgap hspells hmax _ ih =>
    have hread := Lexeme.read_of_spells hspells hmax
    have hfront : (w ++ rest.chars).dropWhile isBlank = w ++ rest.chars :=
      Cursor.dropWhile_isBlank_of_read (List.forall_mem_nil _) hread
    rw [Decomposition.chars, markLiterals_skipBlanks, Cursor.takeWhile_isBlank_of_read hgap hread,
      Cursor.dropWhile_isBlank_of_read hgap hread, markLiterals_of_lexeme hfront hread,
        List.take_left,
      List.drop_left, ih]
    rfl

/-! ## Two cursors in step -/

namespace Cursor

/-- The cursors are at the same place, and the texts ahead of them differ in letter case alone. -/
structure Recased (cur cur' : Cursor) : Prop where
  rest : Broadband.Recased cur.rest cur'.rest
  position : cur'.position = cur.position

variable {cur cur' : Cursor}

theorem Recased.skip (h : cur.Recased cur') {n : Nat}
    (hrest : Broadband.Recased (cur.rest.drop n) (cur'.rest.drop n)) :
    (cur.skip n).Recased (cur'.skip n) := by
  refine ⟨hrest, ?_⟩
  rw [Cursor.skip, Cursor.skip, h.position,
    advanceBy_of_sameLetters (List.forall₂_take n h.rest.sameLetters)]

theorem Recased.skipBlanks (h : cur.Recased cur') : cur.skipBlanks.Recased cur'.skipBlanks := by
  obtain ⟨hblanks, hrest⟩ := h.rest.skipBlanks
  rw [Cursor.skipBlanks, Cursor.skipBlanks, hblanks]
  apply h.skip
  rw [drop_length_takeWhile, ← hblanks, drop_length_takeWhile]
  exact hrest

/-- **One step.** The cursors give the same token or the same error, and they stay in step. -/
theorem Recased.next (h : cur.Recased cur') :
    ∃ after', cur'.next = (cur.next.1, after') ∧ cur.next.2.Recased after' := by
  have hstart := h.skipBlanks
  have hfront : cur.skipBlanks.rest.dropWhile isBlank = cur.skipBlanks.rest := by
    rw [Cursor.skipBlanks, Cursor.skip, drop_length_takeWhile, List.dropWhile_idempotent]
  rw [Cursor.next, Cursor.next]
  generalize cur.skipBlanks = start at hstart hfront
  generalize cur'.skipBlanks = start' at hstart
  -- outside of strings the texts are read alike
  have hread' : (∀ text n, Lexeme.read start.rest ≠ .lexeme .string text n) →
      Lexeme.read start.rest ≠ .fault .unterminated →
        Lexeme.read start'.rest = Lexeme.read start.rest :=
    fun hstring hopen =>
      Lexeme.read_of_sameLetters hstart.rest.sameLetters (Lexeme.head?_ne_quote hstring hopen)
  cases hread : Lexeme.read start.rest with
  | nothing =>
    rw [hread' (by simp [hread]) (by simp [hread]), hread, hstart.position]
    exact ⟨_, rfl, hstart⟩
  | lexeme kind text n =>
    obtain ⟨hsame, hafter⟩ := hstart.rest.lexeme hfront hread
    rw [hsame, hstart.position]
    exact ⟨_, rfl, hstart.skip hafter⟩
  | fault cause =>
    cases cause with
    | unterminated =>
      have hsame := hstart.rest
      rw [Broadband.Recased, markLiterals_of_unterminated hfront hread] at hsame
      rw [eq_of_forall₂_mayStandFor hsame, hread, hstart.position]
      refine ⟨_, rfl, hstart.skip ?_⟩
      rw [eq_of_forall₂_mayStandFor hsame]
      exact .refl _
    | unexpected c =>
      rw [hread' (by simp [hread]) (by simp [hread]), hread, hstart.position]
      exact ⟨_, rfl, hstart⟩

/-- **A whole run.** The tokens up to the end of the text, or up to the first error, are the
same. -/
theorem Recased.tokens (h : cur.Recased cur') : cur'.tokens = cur.tokens := by
  fun_induction Cursor.tokens cur generalizing cur' with
  | case1 cur e after hnext =>
    obtain ⟨after', hnext', -⟩ := h.next
    rw [hnext] at hnext'
    exact tokens_of_error hnext'
  | case2 cur t after hnext hend =>
    obtain ⟨after', hnext', -⟩ := h.next
    rw [hnext] at hnext'
    exact tokens_of_end hnext' hend
  | case3 cur t after hnext hend ih =>
    obtain ⟨after', hnext', hafter⟩ := h.next
    rw [hnext] at hnext' hafter
    rw [tokens_of_next hnext' hend, ih hafter]

end Cursor

/-! ## The main statement -/

/-- **Letter case outside of strings does not matter.** A text in which letters outside of its
string literals change case has the same tokens at the same places, or the same lexical error. So it
has the same statement, or it is refused with the same error. -/
theorem compile_of_recased {s s' : String} (h : Recased s.toList s'.toList) :
    tokenize s' = tokenize s ∧ ∀ o : Options, compile s' o = compile s o := by
  have hcursor : (Cursor.ofText s).Recased (Cursor.ofText s') := ⟨h, rfl⟩
  have htokens : tokenize s' = tokenize s := hcursor.tokens
  refine ⟨htokens, fun o => ?_⟩
  rw [compile, compile, Query.parse, Query.parse, htokens]

/-- A query with a keyword in either case, a generation and a string that holds letters and a
quote. -/
def Decomposition.mixedCase : Decomposition :=
  .lexeme [] ['h', 'a', 's'] .keyword "HAS" <| .lexeme [' '] ['5', 'G'] .identifier "5g" <|
  .lexeme [' '] ['I', 'N'] .keyword "IN" <|
  .lexeme [' '] ['f', 'y', 'l', 'k', 'e'] .identifier "fylke" <|
  .lexeme [] ['='] .operator "=" <| .lexeme [] ['\'', 'M', '\\', '\'', 'm', '\''] .string "M'm" <|
  .lexeme [] ['C', 'o', 'u', 'n', 't'] .keyword "COUNT" <|
  .lexeme [' '] ['h', 'u', 's'] .identifier "hus" <|
  .ending []

theorem compile_mixedCase :
    Recased "has 5G IN fylke='M\\'m'Count hus".toList "HAS 5g in FylkE='M\\'m'COUNT HUS".toList ∧
      ∃ sql, compile "has 5G IN fylke='M\\'m'Count hus" { year := some 2024 } = .ok sql ∧
        compile "HAS 5g in FylkE='M\\'m'COUNT HUS" { year := some 2024 } = .ok sql := by
  have hfaithful : Decomposition.mixedCase.Faithful := by decide +kernel
  have hcase : Recased "has 5G IN fylke='M\\'m'Count hus".toList
      "HAS 5g in FylkE='M\\'m'COUNT HUS".toList := by
    rw [show "has 5G IN fylke='M\\'m'Count hus".toList = Decomposition.mixedCase.chars from rfl,
      Recased, markLiterals_chars hfaithful]
    decide +kernel
  have htext : Decomposition.mixedCase.text = "has 5G IN fylke='M\\'m'Count hus" := by
    decide +kernel
  have htokens : tokenize "has 5G IN fylke='M\\'m'Count hus"
      = .ok (Decomposition.mixedCase.tokens {}) := by
    rw [← htext, tokenize_of_faithful hfaithful]
  obtain ⟨sql, hsql⟩ : ∃ sql,
      compile "has 5G IN fylke='M\\'m'Count hus" { year := some 2024 } = .ok sql := by
    rw [compile, Query.parse, htokens]
    exact ⟨_, rfl⟩
  exact ⟨hcase, sql, hsql, ((compile_of_recased hcase).2 _).trans hsql⟩

end Broadband
