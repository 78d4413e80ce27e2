import Broadband.Comparison
import Broadband.Proofs.Checks
import Broadband.Proofs.Token.Characters
import Mathlib.Data.List.TakeWhile
import Mathlib.Tactic.ByContra

/-!
# Taking a text apart

What the lexer does to a text, said without the lexer. A text is taken apart into lexemes with
blanks in front of each of them and behind the last one. A lexeme spells its token
(`Lexeme.Spells`), and it is not cut short (`Lexeme.Maximal`): a word goes on as long as there are
characters for it, a number as long as there are digits, and the digit of a generation of mobile
network takes its letter along. A `Decomposition` that keeps to this is `Faithful`.

The main statement is that the tokens of a text are those of its faithful decomposition, of which
there is at most one. Both halves rest on `Lexeme.read_eq_lexeme_iff`: at any place the lexer reads
just the lexeme that stands there. So no character is lost, and none is counted towards two lexemes.
-/

namespace Broadband

open Text (isBlank isDigit)

/-! ## How a lexeme is spelled -/

/-- A keyword is found by its text. -/
theorem Keyword.ofText?_eq_some_iff {s : String} {k : Keyword} :
    Keyword.ofText? s = some k ↔ s = k.text := by
  constructor
  · intro h
    have hk : k.text = s := by simpa using List.find?_some h
    exact hk.symm
  · rintro rfl
    cases k <;> decide

/-- What may follow a lexeme without touching it: a blank or nothing. -/
def Apart (rest : List Char) : Prop := ∀ c ∈ rest.head?, isBlank c = true

namespace Lexeme

/-- The characters of a word: no digit comes first. -/
structure Word (w : List Char) : Prop where
  ne_nil : w ≠ []
  chars : ∀ c ∈ w, isWordChar c = true
  first : ∀ c ∈ w.head?, isDigit c = false

/-- The digit and the letter of a generation of mobile network. -/
def Generation (d g : Char) : Prop := (d = '5' ∨ d = '4') ∧ (g = 'g' ∨ g = 'G')

/-- The inside of a string between two of the same quotes, and the text that it stands for. -/
inductive Decodes (quote : Char) : List Char → List Char → Prop
  | nil : Decodes quote [] []
  /-- A backslash is an escape before the quote and before another backslash. -/
  | escape {c : Char} {inside text : List Char} :
      c = quote ∨ c = '\\' → Decodes quote inside text →
        Decodes quote ('\\' :: c :: inside) (c :: text)
  /-- Before any other character it is kept. -/
  | backslash {c : Char} {inside text : List Char} :
      c ≠ quote → c ≠ '\\' → Decodes quote (c :: inside) text →
        Decodes quote ('\\' :: c :: inside) ('\\' :: text)
  | plain {c : Char} {inside text : List Char} :
      c ≠ quote → c ≠ '\\' → Decodes quote inside text → Decodes quote (c :: inside) (c :: text)

/-- The characters spell a token of the kind and with the text. -/
inductive Spells : Token.Kind → String → List Char → Prop
  | openParen : Spells .openParen "(" ['(']
  | closeParen : Spells .closeParen ")" [')']
  | comma : Spells .comma "," [',']
  | operator (op : Comparison) : Spells .operator op.symbol op.symbol.toList
  | number {ds : List Char} : ds ≠ [] → (∀ d ∈ ds, isDigit d = true) →
      Spells .number (String.ofList ds) ds
  | generation {d g : Char} : Generation d g → Spells .identifier (String.ofList [d, 'g']) [d, g]
  | keyword {w : List Char} (k : Keyword) : Word w → String.ofList (w.map Char.toUpper) = k.text →
      Spells .keyword k.text w
  | identifier {w : List Char} : Word w →
      (∀ k : Keyword, String.ofList (w.map Char.toUpper) ≠ k.text) →
        Spells .identifier (String.ofList (w.map Char.toLower)) w
  | string {quote : Char} {inside text : List Char} : quote = '"' ∨ quote = '\'' →
      Decodes quote inside text →
        Spells .string (String.ofList text) (quote :: (inside ++ [quote]))

/-- A lexeme is not cut short by what follows it. -/
def Maximal (kind : Token.Kind) (w rest : List Char) : Prop :=
  match kind with
  | .keyword | .identifier => ∀ c ∈ rest.head?, isWordChar c = false
  | .number =>
    (∀ c ∈ rest.head?, isDigit c = false) ∧
      -- a single digit that is a generation together with the letter behind it is no number
      ∀ d g tail, w = [d] → rest = g :: tail → Generation d g →
        ∃ c ∈ tail.head?, isWordChar c = true
  | .operator => w = ['>'] ∨ w = ['<'] → rest.head? ≠ some '='
  | _ => True

theorem Spells.kind_ne_endOfText {kind : Token.Kind} {text : String} {w : List Char}
    (h : Spells kind text w) : kind ≠ .endOfText := by
  cases h <;> decide

/-- A lexeme in front of a blank is not cut short. -/
theorem maximal_of_apart {kind : Token.Kind} {w rest : List Char} (h : Apart rest) :
    Maximal kind w rest := by
  have hletter : ∀ c ∈ rest.head?, c ≠ '=' ∧ c ≠ 'g' ∧ c ≠ 'G' := by
    intro c hc
    have hblank := h c hc
    refine ⟨?_, ?_, ?_⟩ <;> rintro rfl <;> cases hblank
  cases kind with
  | keyword => exact fun c hc => isWordChar_of_isBlank (h c hc)
  | identifier => exact fun c hc => isWordChar_of_isBlank (h c hc)
  | number =>
    refine ⟨fun c hc => isDigit_of_isBlank (h c hc), ?_⟩
    rintro d g tail - rfl ⟨-, hg⟩
    obtain ⟨-, hsmall, hcapital⟩ := hletter g rfl
    rcases hg with hg | hg
    · exact absurd hg hsmall
    · exact absurd hg hcapital
  | operator => exact fun _ hc => (hletter '=' hc).1 rfl
  | _ => trivial

/-! ## What the lexer reads -/

/-- A generation of mobile network starts with its number. -/
theorem startsGeneration_cons_of_ne {c : Char} (h₅ : c ≠ '5') (h₄ : c ≠ '4') (cs : List Char) :
    startsGeneration (c :: cs) = false := by
  cases cs with
  | nil => rfl
  | cons g cs => simp [startsGeneration, h₅, h₄]

/-- A blank starts no lexeme. -/
theorem read_of_isBlank {c : Char} (h : isBlank c = true) (cs : List Char) :
    read (c :: cs) = .fault (.unexpected c) := by
  have hb := toNat_of_isBlank h
  have hne : ∀ d : Char, 33 ≤ d.toNat → d.toNat ≤ 132 → c ≠ d := by
    rintro d h₁ h₂ rfl
    omega
  have hw := isWordChar_of_isBlank h
  have hd := isDigit_of_isBlank h
  have hg := startsGeneration_cons_of_ne (hne '5' (by decide) (by decide))
    (hne '4' (by decide) (by decide)) cs
  simp [read, hg, hne, hw, hd]

/-- A digit that starts no generation of mobile network starts a number. -/
theorem read_of_isDigit {c : Char} {cs : List Char} (h : isDigit c = true)
    (hg : startsGeneration (c :: cs) = false) :
    read (c :: cs) = .lexeme .number (String.ofList (c :: cs.takeWhile isDigit))
      (c :: cs.takeWhile isDigit).length := by
  have hne : ∀ d : Char, isDigit d = false → c ≠ d := by
    rintro d hd rfl
    simp [h] at hd
  simp [read, hg, h, hne '(' rfl, hne ')' rfl, hne ',' rfl, hne '"' rfl, hne '\'' rfl]

/-- A class of characters ends where something else follows. -/
theorem takeWhile_append_of_head? {p : Char → Bool} {w rest : List Char} (hw : ∀ c ∈ w, p c = true)
    (hrest : ∀ c ∈ rest.head?, p c = false) : (w ++ rest).takeWhile p = w := by
  have hstop : rest.takeWhile p = [] := by
    cases rest with
    | nil => rfl
    | cons c rest => rw [List.takeWhile_cons, hrest c rfl]; rfl
  rw [List.takeWhile_append_of_pos hw, hstop, List.append_nil]

/-- Where a class of characters has ended, something else follows. -/
theorem head?_dropWhile {p : Char → Bool} {cs : List Char} :
    ∀ c ∈ (cs.dropWhile p).head?, p c = false := by
  intro c hc
  have hstop := List.head?_dropWhile_not p cs
  rw [Option.mem_def.1 hc] at hstop
  exact hstop

theorem startsGeneration_eq_true_iff {d g : Char} {tail : List Char} :
    startsGeneration (d :: g :: tail) = true ↔
      Generation d g ∧ ∀ c ∈ tail.head?, isWordChar c = false := by
  rw [startsGeneration, Generation]
  cases tail with
  | nil => simp
  | cons c tail => simp

/-- A character of a word that is no digit starts a word. -/
theorem read_of_isWordChar {c : Char} (hw : isWordChar c = true) (hd : isDigit c = false)
    (cs : List Char) : read (c :: cs) = ofWord (c :: cs.takeWhile isWordChar) := by
  have hne : ∀ d : Char, isWordChar d = false → c ≠ d := by
    rintro d hd rfl
    simp [hw] at hd
  have hdigit : ∀ d : Char, isDigit d = true → c ≠ d := by
    rintro d hd' rfl
    simp [hd] at hd'
  have hg := startsGeneration_cons_of_ne (hdigit '5' rfl) (hdigit '4' rfl) cs
  simp [read, hg, hw, hd, hne '(' rfl, hne ')' rfl, hne ',' rfl, hne '"' rfl, hne '\'' rfl,
    hne '!' rfl, hne '=' rfl, hne '>' rfl, hne '<' rfl]

/-- Reading the inside of a string gives the text that it stands for, up to the quote that closes
it. -/
theorem stringBody_of_decodes {quote : Char} (hquote : quote ≠ '\\') {inside text : List Char}
    (h : Decodes quote inside text) (rest : List Char) :
    stringBody quote (inside ++ quote :: rest) = some (text, inside.length + 1) := by
  induction h with
  | nil => cases rest <;> simp [stringBody]
  | escape hc _ ih => simp [stringBody, hquote.symm, hc, ih]
  | @backslash c inside text hq hb _ ih =>
    rw [List.cons_append] at ih
    simp [stringBody, hquote.symm, hq, hb, ih]
  | @plain c inside text hq hb _ ih =>
    -- something follows inside the string, if only the quote that closes it
    obtain ⟨d, ds, hd⟩ : ∃ d ds, inside ++ quote :: rest = d :: ds :=
      List.exists_cons_of_ne_nil (by simp)
    rw [hd] at ih
    simp [hd, stringBody, hq, hb, ih]

/-- What is read as the inside of a string is one. -/
theorem decodes_of_stringBody {quote : Char} {cs text : List Char} {n : Nat}
    (h : stringBody quote cs = some (text, n)) :
    ∃ inside rest, cs = inside ++ quote :: rest ∧ n = inside.length + 1 ∧
      Decodes quote inside text := by
  fun_induction stringBody quote cs generalizing text n with
  | case1 => cases h
  | case2 =>
    obtain ⟨rfl, rfl⟩ := by simpa using h
    exact ⟨[], [], rfl, rfl, .nil⟩
  | case3 => cases h
  | case4 d cs =>
    obtain ⟨rfl, rfl⟩ := by simpa using h
    exact ⟨[], d :: cs, rfl, rfl, .nil⟩
  | case5 c d cs hq hescape ih =>
    obtain ⟨⟨text, n⟩, hbody, heq⟩ := Option.map_eq_some_iff.1 h
    obtain ⟨rfl, rfl⟩ := Prod.mk.inj heq
    obtain ⟨inside, rest, rfl, rfl, hdecodes⟩ := ih hbody
    obtain ⟨rfl, hd⟩ : c = '\\' ∧ (d = quote ∨ d = '\\') := by simpa using hescape
    exact ⟨'\\' :: d :: inside, rest, rfl, rfl, .escape hd hdecodes⟩
  | case6 c d cs hq hescape ih =>
    obtain ⟨⟨text, n⟩, hbody, heq⟩ := Option.map_eq_some_iff.1 h
    obtain ⟨rfl, rfl⟩ := Prod.mk.inj heq
    obtain ⟨inside, rest, hcs, rfl, hdecodes⟩ := ih hbody
    refine ⟨c :: inside, rest, by rw [hcs]; rfl, rfl, ?_⟩
    by_cases hc : c = '\\'
    · -- the character behind a backslash that is kept does not close the string
      obtain ⟨hdq, hdb⟩ : d ≠ quote ∧ d ≠ '\\' := by simpa [hc] using hescape
      cases inside with
      | nil => exact absurd (List.cons.inj hcs).1 hdq
      | cons e inside =>
        obtain ⟨rfl, -⟩ := List.cons.inj hcs
        rw [hc]
        exact .backslash hdq hdb hdecodes
    · exact .plain hq hc hdecodes

section

variable {kind : Token.Kind} {text : String} {w rest cs : List Char} {n : Nat}

theorem read_of_word (hw : Word w) (hrest : ∀ c ∈ rest.head?, isWordChar c = false) :
    read (w ++ rest) = ofWord w := by
  obtain ⟨c, cs, rfl⟩ := List.exists_cons_of_ne_nil hw.ne_nil
  obtain ⟨hc, hcs⟩ := List.forall_mem_cons.1 hw.chars
  rw [List.cons_append, read_of_isWordChar hc (hw.first c rfl), takeWhile_append_of_head? hcs hrest]

/-- **A lexeme that stands in a text is read**, and no more than it. -/
theorem read_of_spells (h : Spells kind text w) (hmax : Maximal kind w rest) :
    read (w ++ rest) = .lexeme kind text w.length := by
  cases h with
  | openParen => rfl
  | closeParen => rfl
  | comma => rfl
  | operator op =>
    cases op <;>
      simp_all [Comparison.symbol, Maximal, read, startsGeneration_cons_of_ne, isDigit]
  | number hne hdigits =>
    obtain ⟨d, ds, rfl⟩ := List.exists_cons_of_ne_nil hne
    obtain ⟨hd, hds⟩ := List.forall_mem_cons.1 hdigits
    obtain ⟨hrest, hnumber⟩ := hmax
    have hg : startsGeneration (d :: (ds ++ rest)) = false := by
      rw [Bool.eq_false_iff]
      intro hg
      cases ds with
      | nil =>
        cases rest with
        | nil => cases hg
        | cons g tail =>
          obtain ⟨hgeneration, htail⟩ := startsGeneration_eq_true_iff.1 hg
          obtain ⟨c, hc, hword⟩ := hnumber d g tail rfl rfl hgeneration
          rw [htail c hc] at hword
          cases hword
      | cons e ds =>
        -- a digit is not the letter
        obtain ⟨⟨-, hletter⟩, -⟩ := startsGeneration_eq_true_iff.1 hg
        have he := hds e List.mem_cons_self
        rcases hletter with rfl | rfl <;> cases he
    rw [List.cons_append, read_of_isDigit hd hg, takeWhile_append_of_head? hds hrest]
  | @generation d g hgeneration =>
    have hg : startsGeneration (d :: g :: rest) = true :=
      startsGeneration_eq_true_iff.2 ⟨hgeneration, hmax⟩
    rcases hgeneration.1 with rfl | rfl <;> simp [read, hg]
  | keyword k hword htext =>
    rw [read_of_word hword hmax, ofWord, Keyword.ofText?_eq_some_iff.2 htext]
  | identifier hword htext =>
    have hnone : Keyword.ofText? (String.ofList (w.map Char.toUpper)) = none := by
      rw [Option.eq_none_iff_forall_ne_some]
      exact fun k hk => htext k (Keyword.ofText?_eq_some_iff.1 hk)
    rw [read_of_word hword hmax, ofWord, hnone]
  | @string quote inside text hquote hdecodes =>
    have hbody := stringBody_of_decodes (by rcases hquote with rfl | rfl <;> decide) hdecodes rest
    have happend : quote :: (inside ++ [quote]) ++ rest = quote :: (inside ++ quote :: rest) := by
      simp
    rw [happend, List.length_cons, List.length_append]
    rcases hquote with rfl | rfl <;> simp [read, hbody]

/-- A lexeme of the kind, with the text and of the length stands at the start of a text. -/
def Stands (cs : List Char) (kind : Token.Kind) (text : String) (n : Nat) : Prop :=
  ∃ w rest, cs = w ++ rest ∧ w.length = n ∧ Spells kind text w ∧ Maximal kind w rest

variable {c : Char}

theorem stands_string {inside : List Char} (hquote : c = '"' ∨ c = '\'')
    (h : stringBody c cs = some (inside, n)) :
    Stands (c :: cs) .string (String.ofList inside) (n + 1) := by
  obtain ⟨inside, rest, rfl, rfl, hdecodes⟩ := decodes_of_stringBody h
  refine ⟨c :: (inside ++ [c]), rest, ?_, ?_, .string hquote hdecodes, trivial⟩
  · rw [List.cons_append, List.append_assoc, List.singleton_append]
  · rw [List.length_cons, List.length_append, List.length_singleton]

theorem stands_generation (h : startsGeneration (c :: cs) = true) :
    Stands (c :: cs) .identifier (String.ofList [c, 'g']) 2 := by
  cases cs with
  | nil => cases h
  | cons g tail =>
    obtain ⟨hgeneration, htail⟩ := startsGeneration_eq_true_iff.1 h
    exact ⟨[c, g], tail, rfl, rfl, .generation hgeneration, htail⟩

theorem stands_number (hd : isDigit c = true) (hg : startsGeneration (c :: cs) = false) :
    Stands (c :: cs) .number (String.ofList (c :: cs.takeWhile isDigit))
      (c :: cs.takeWhile isDigit).length := by
  have hdigits : ∀ d ∈ c :: cs.takeWhile isDigit, isDigit d = true :=
    List.forall_mem_cons.2 ⟨hd, fun d hd => List.mem_takeWhile_imp hd⟩
  refine ⟨c :: cs.takeWhile isDigit, cs.dropWhile isDigit, ?_, rfl,
    .number (List.cons_ne_nil _ _) hdigits, head?_dropWhile, ?_⟩
  · rw [List.cons_append, List.takeWhile_append_dropWhile]
  · intro d g tail hsingle hrest hgeneration
    obtain ⟨rfl, htake⟩ := List.cons.inj hsingle
    have hcs : cs = g :: tail := by
      rw [← List.takeWhile_append_dropWhile (p := isDigit) (l := cs), htake, hrest]
      rfl
    -- with a word that ends behind the letter this would be a generation
    by_contra hend
    have hwhole : ∀ e ∈ tail.head?, isWordChar e = false := by
      intro e he
      rw [Bool.eq_false_iff]
      exact fun hword => hend ⟨e, he, hword⟩
    rw [hcs, startsGeneration_eq_true_iff.2 ⟨hgeneration, hwhole⟩] at hg
    cases hg

theorem stands_doubleOperator (hc : c = '!' ∨ c = '>' ∨ c = '<') (h : cs.head? = some '=') :
    Stands (c :: cs) .operator (String.ofList [c, '=']) 2 := by
  obtain ⟨tail, rfl⟩ := List.head?_eq_some_iff.1 h
  rcases hc with rfl | rfl | rfl
  · exact ⟨['!', '='], tail, rfl, rfl, .operator .ne, by rintro (h | h) <;> cases h⟩
  · exact ⟨['>', '='], tail, rfl, rfl, .operator .ge, by rintro (h | h) <;> cases h⟩
  · exact ⟨['<', '='], tail, rfl, rfl, .operator .le, by rintro (h | h) <;> cases h⟩

theorem stands_singleOperator (hc : c = '=' ∨ c = '>' ∨ c = '<')
    (h : c = '>' ∨ c = '<' → cs.head? ≠ some '=') :
    Stands (c :: cs) .operator (String.ofList [c]) 1 := by
  rcases hc with rfl | rfl | rfl
  · exact ⟨['='], cs, rfl, rfl, .operator .eq, by rintro (h | h) <;> cases h⟩
  · exact ⟨['>'], cs, rfl, rfl, .operator .gt, fun _ => h (.inl rfl)⟩
  · exact ⟨['<'], cs, rfl, rfl, .operator .lt, fun _ => h (.inr rfl)⟩

theorem stands_word (hw : isWordChar c = true) (hd : isDigit c = false)
    (h : ofWord (c :: cs.takeWhile isWordChar) = .lexeme kind text n) :
    Stands (c :: cs) kind text n := by
  have hword : Word (c :: cs.takeWhile isWordChar) := by
    have hword : ∀ d ∈ c :: cs.takeWhile isWordChar, isWordChar d = true :=
      List.forall_mem_cons.2 ⟨hw, fun d hd => List.mem_takeWhile_imp hd⟩
    refine ⟨List.cons_ne_nil _ _, hword, ?_⟩
    rintro d ⟨⟩
    exact hd
  have hcs : c :: cs = c :: cs.takeWhile isWordChar ++ cs.dropWhile isWordChar := by
    rw [List.cons_append, List.takeWhile_append_dropWhile]
  generalize c :: cs.takeWhile isWordChar = w at h hword hcs
  cases hk : Keyword.ofText? (String.ofList (w.map Char.toUpper)) with
  | some k =>
    obtain ⟨rfl, rfl, rfl⟩ := by simpa only [ofWord, hk, Reading.lexeme.injEq] using h
    exact ⟨w, _, hcs, rfl, .keyword k hword (Keyword.ofText?_eq_some_iff.1 hk), head?_dropWhile⟩
  | none =>
    obtain ⟨rfl, rfl, rfl⟩ := by simpa only [ofWord, hk, Reading.lexeme.injEq] using h
    refine ⟨w, _, hcs, rfl, .identifier hword fun k hk' => ?_, head?_dropWhile⟩
    rw [Keyword.ofText?_eq_some_iff.2 hk'] at hk
    cases hk

/-- **What is read stands in the text**: it spells its token and is not cut short. -/
theorem stands_of_read (h : read cs = .lexeme kind text n) : Stands cs kind text n := by
  cases cs with
  | nil => cases h
  | cons c cs =>
    rw [read] at h
    by_cases hopen : c = '('
    · rw [if_pos hopen] at h
      obtain ⟨rfl, rfl, rfl⟩ := by simpa only [Reading.lexeme.injEq] using h
      exact ⟨['('], cs, by rw [hopen]; rfl, rfl, .openParen, trivial⟩
    rw [if_neg hopen] at h
    by_cases hclose : c = ')'
    · rw [if_pos hclose] at h
      obtain ⟨rfl, rfl, rfl⟩ := by simpa only [Reading.lexeme.injEq] using h
      exact ⟨[')'], cs, by rw [hclose]; rfl, rfl, .closeParen, trivial⟩
    rw [if_neg hclose] at h
    by_cases hcomma : c = ','
    · rw [if_pos hcomma] at h
      obtain ⟨rfl, rfl, rfl⟩ := by simpa only [Reading.lexeme.injEq] using h
      exact ⟨[','], cs, by rw [hcomma]; rfl, rfl, .comma, trivial⟩
    rw [if_neg hcomma] at h
    by_cases hquote : (c = '"' || c = '\'') = true
    · rw [if_pos hquote] at h
      cases hbody : stringBody c cs with
      | none => rw [hbody] at h; cases h
      | some body =>
        rw [hbody] at h
        obtain ⟨rfl, rfl, rfl⟩ := by simpa only [Reading.lexeme.injEq] using h
        exact stands_string (by simpa using hquote) hbody
    rw [if_neg hquote] at h
    by_cases hgeneration : startsGeneration (c :: cs) = true
    · rw [if_pos hgeneration] at h
      obtain ⟨rfl, rfl, rfl⟩ := by simpa only [Reading.lexeme.injEq] using h
      exact stands_generation hgeneration
    rw [if_neg hgeneration] at h
    by_cases hdigit : isDigit c = true
    · rw [if_pos hdigit] at h
      obtain ⟨rfl, rfl, rfl⟩ := by simpa only [Reading.lexeme.injEq] using h
      exact stands_number hdigit (Bool.eq_false_iff.2 hgeneration)
    rw [if_neg hdigit] at h
    by_cases hdouble : ((c = '!' || c = '>' || c = '<') && cs.head? = some '=') = true
    · rw [if_pos hdouble] at h
      obtain ⟨rfl, rfl, rfl⟩ := by simpa only [Reading.lexeme.injEq] using h
      obtain ⟨hc, hnext⟩ := by simpa [or_assoc] using hdouble
      exact stands_doubleOperator hc hnext
    rw [if_neg hdouble] at h
    by_cases hsingle : (c = '=' || c = '>' || c = '<') = true
    · rw [if_pos hsingle] at h
      obtain ⟨rfl, rfl, rfl⟩ := by simpa only [Reading.lexeme.injEq] using h
      refine stands_singleOperator (by simpa [or_assoc] using hsingle) fun hc hnext => hdouble ?_
      simp [hnext, hc, or_assoc]
    rw [if_neg hsingle] at h
    by_cases hword : isWordChar c = true
    · rw [if_pos hword] at h
      exact stands_word hword (Bool.eq_false_iff.2 hdigit) h
    · rw [if_neg hword] at h
      cases h

/-- Only at the end of a text there is nothing to read. -/
theorem eq_nil_of_read (h : read cs = .nothing) : cs = [] := by
  cases cs with
  | nil => rfl
  | cons c cs =>
    simp only [read, ofWord] at h
    grind

/-- The lexer reads just the lexeme that stands at the start of a text. -/
theorem read_eq_lexeme_iff : read cs = .lexeme kind text n ↔ Stands cs kind text n := by
  constructor
  · exact stands_of_read
  · rintro ⟨w, rest, rfl, rfl, hspells, hmax⟩
    exact read_of_spells hspells hmax

theorem read_append_eq_lexeme_iff :
    read (w ++ rest) = .lexeme kind text w.length ↔ Spells kind text w ∧ Maximal kind w rest := by
  constructor
  · intro h
    obtain ⟨w', rest', happend, hlength, hspells, hmax⟩ := read_eq_lexeme_iff.1 h
    obtain ⟨rfl, rfl⟩ := List.append_inj happend hlength.symm
    exact ⟨hspells, hmax⟩
  · rintro ⟨hspells, hmax⟩
    exact read_of_spells hspells hmax

end

end Lexeme

/-! ## Decompositions -/

/-- A run of blanks, possibly none. -/
def Blanks (gap : List Char) : Prop := ∀ c ∈ gap, isBlank c = true

instance (gap : List Char) : Decidable (Blanks gap) := List.decidableBAll _ _

/-- A text taken apart: lexemes, each with the characters in front of it, and what is left behind
them. -/
inductive Decomposition
  | ending (trail : List Char)
  | lexeme (gap chars : List Char) (kind : Token.Kind) (text : String) (rest : Decomposition)
  deriving DecidableEq, Repr

namespace Decomposition

/-- The characters of the text. -/
def chars : Decomposition → List Char
  | .ending trail => trail
  | .lexeme gap w _ _ rest => gap ++ (w ++ rest.chars)

/-- The text. -/
def text (d : Decomposition) : String := String.ofList d.chars

/-- The tokens, each at the place of its first character, and the end of the text, if the text
starts at a place. -/
def tokens : Decomposition → Position → List Token
  | .ending trail, p => [⟨.endOfText, "", p.advanceBy trail⟩]
  | .lexeme gap w kind text rest, p =>
    ⟨kind, text, p.advanceBy gap⟩ :: rest.tokens ((p.advanceBy gap).advanceBy w)

/-- Nothing but blanks is between the lexemes, each of them spells its token, and none is cut
short. -/
inductive Faithful : Decomposition → Prop
  | ending {trail : List Char} : Blanks trail → Faithful (.ending trail)
  | lexeme {gap w : List Char} {kind : Token.Kind} {text : String} {rest : Decomposition} :
      Blanks gap → Lexeme.Spells kind text w → Lexeme.Maximal kind w rest.chars → Faithful rest →
        Faithful (.lexeme gap w kind text rest)

theorem faithful_ending_iff {trail : List Char} : (ending trail).Faithful ↔ Blanks trail := by
  constructor
  · rintro ⟨h⟩
    exact h
  · exact .ending

theorem faithful_lexeme_iff {gap w : List Char} {kind : Token.Kind} {text : String}
    {rest : Decomposition} :
    (lexeme gap w kind text rest).Faithful ↔
      Blanks gap ∧ Lexeme.read (w ++ rest.chars) = .lexeme kind text w.length ∧ rest.Faithful := by
  rw [Lexeme.read_append_eq_lexeme_iff]
  constructor
  · intro h
    cases h with
    | lexeme hgap hspells hmax hrest => exact ⟨hgap, ⟨hspells, hmax⟩, hrest⟩
  · rintro ⟨hgap, ⟨hspells, hmax⟩, hrest⟩
    exact .lexeme hgap hspells hmax hrest

instance decidableFaithful : (d : Decomposition) → Decidable d.Faithful
  | .ending _ => decidable_of_iff' _ faithful_ending_iff
  | .lexeme _ _ _ _ rest =>
    letI := decidableFaithful rest
    decidable_of_iff' _ faithful_lexeme_iff

end Decomposition

/-! ## The lexer takes texts apart -/

namespace Cursor

/-- No lexeme starts with a blank. -/
theorem takeWhile_isBlank_of_read {gap cs : List Char} (hgap : Blanks gap) {kind : Token.Kind}
    {text : String} {n : Nat} (h : Lexeme.read cs = .lexeme kind text n) :
    (gap ++ cs).takeWhile isBlank = gap := by
  refine Lexeme.takeWhile_append_of_head? hgap fun c hc => ?_
  obtain ⟨tail, rfl⟩ := List.head?_eq_some_iff.1 hc
  rw [Bool.eq_false_iff]
  intro hblank
  rw [Lexeme.read_of_isBlank hblank] at h
  cases h

theorem dropWhile_isBlank_of_read {gap cs : List Char} (hgap : Blanks gap) {kind : Token.Kind}
    {text : String} {n : Nat} (h : Lexeme.read cs = .lexeme kind text n) :
    (gap ++ cs).dropWhile isBlank = cs := by
  have happend := List.takeWhile_append_dropWhile (p := isBlank) (l := gap ++ cs)
  rw [takeWhile_isBlank_of_read hgap h] at happend
  exact List.append_cancel_left happend

/-- **One step.** The cursor passes the blanks and the lexeme behind them. -/
theorem next_of_spells {gap w rest : List Char} {kind : Token.Kind} {text : String}
    (hgap : Blanks gap) (hspells : Lexeme.Spells kind text w) (hmax : Lexeme.Maximal kind w rest)
    (p : Position) :
    (Cursor.mk (gap ++ (w ++ rest)) p).next
      = (.ok ⟨kind, text, p.advanceBy gap⟩, ⟨rest, (p.advanceBy gap).advanceBy w⟩) := by
  have hread := Lexeme.read_of_spells hspells hmax
  have htake := takeWhile_isBlank_of_read hgap hread
  simp [next, skipBlanks, skip, htake, hread]

/-- Behind the last blanks the text ends. -/
theorem next_of_blanks {cs : List Char} (h : Blanks cs) (p : Position) :
    (Cursor.mk cs p).next = (.ok ⟨.endOfText, "", p.advanceBy cs⟩, ⟨[], p.advanceBy cs⟩) := by
  have htake : cs.takeWhile isBlank = cs := by
    have hall : (cs ++ []).takeWhile isBlank = cs := Lexeme.takeWhile_append_of_head? h (by simp)
    rwa [List.append_nil] at hall
  simp [next, skipBlanks, skip, htake, Lexeme.read]

/-- A token is the end of a text of which blanks are left, or a lexeme behind blanks. -/
theorem next_cases {cs : List Char} {p : Position} {t : Token} {after : Cursor}
    (h : (Cursor.mk cs p).next = (.ok t, after)) :
    (Blanks cs ∧ t = ⟨.endOfText, "", p.advanceBy cs⟩) ∨
      ∃ gap w rest, cs = gap ++ (w ++ rest) ∧ Blanks gap ∧ Lexeme.Spells t.kind t.text w ∧
        Lexeme.Maximal t.kind w rest ∧ t.position = p.advanceBy gap ∧
        after = ⟨rest, (p.advanceBy gap).advanceBy w⟩ := by
  -- the blanks ahead and what follows them
  obtain ⟨gap, tail, hgap, htail, rfl⟩ : ∃ gap tail, gap = cs.takeWhile isBlank ∧
      tail = cs.dropWhile isBlank ∧ cs = gap ++ tail :=
    ⟨_, _, rfl, rfl, List.takeWhile_append_dropWhile.symm⟩
  have hblanks : Blanks gap := by
    rw [hgap]
    exact fun c hc => List.mem_takeWhile_imp hc
  have hskip : (Cursor.mk (gap ++ tail) p).skipBlanks = ⟨tail, p.advanceBy gap⟩ := by
    simp [skipBlanks, skip, ← hgap]
  rw [next, hskip] at h
  dsimp only at h
  cases hread : Lexeme.read tail with
  | nothing =>
    rw [hread] at h
    obtain ⟨rfl, -⟩ := by simpa using h
    obtain rfl := Lexeme.eq_nil_of_read hread
    rw [List.append_nil]
    exact .inl ⟨hblanks, rfl⟩
  | lexeme kind text n =>
    rw [hread] at h
    obtain ⟨rfl, rfl⟩ := by simpa using h
    obtain ⟨w, rest, rfl, rfl, hspells, hmax⟩ := Lexeme.read_eq_lexeme_iff.1 hread
    refine .inr ⟨gap, w, rest, rfl, hblanks, hspells, hmax, rfl, ?_⟩
    simp [skip]
  | fault cause =>
    rw [hread] at h
    cases cause <;> cases h

/-- A token other than the end of the text is followed by the tokens after it. -/
theorem tokens_of_next {cur after : Cursor} {t : Token} (h : cur.next = (.ok t, after))
    (ht : t.kind ≠ .endOfText) : cur.tokens = after.tokens.map (t :: ·) := by
  rw [tokens]
  split
  · simp_all
  · rename_i t' after' h'
    obtain ⟨rfl, rfl⟩ : t' = t ∧ after' = after := by simp_all
    rw [dif_neg ht]

/-- The end of the text is the last token. -/
theorem tokens_of_end {cur after : Cursor} {t : Token} (h : cur.next = (.ok t, after))
    (ht : t.kind = .endOfText) : cur.tokens = .ok [t] := by
  rw [tokens]
  split
  · simp_all
  · rename_i t' after' h'
    obtain ⟨rfl, rfl⟩ : t' = t ∧ after' = after := by simp_all
    rw [dif_pos ht]

/-- Behind a fault there are no tokens. -/
theorem tokens_of_error {cur after : Cursor} {e : LexicalError} (h : cur.next = (.error e, after)) :
    cur.tokens = .error e := by
  rw [tokens]
  split
  · simp_all
  · simp_all

/-- The tokens of a faithful decomposition are those of its text. -/
theorem tokens_of_faithful {d : Decomposition} (h : d.Faithful) (p : Position) :
    (Cursor.mk d.chars p).tokens = .ok (d.tokens p) := by
  induction h generalizing p with
  | ending hblanks => exact tokens_of_end (next_of_blanks hblanks p) rfl
  | @lexeme gap w kind text rest hgap hspells hmax _ ih =>
    rw [Decomposition.chars,
      tokens_of_next (next_of_spells hgap hspells hmax p) hspells.kind_ne_endOfText, ih]
    rfl

/-- A text that has tokens has a faithful decomposition. -/
theorem exists_faithful_of_tokens {cs : List Char} {p : Position} {ts : List Token}
    (h : (Cursor.mk cs p).tokens = .ok ts) :
    ∃ d : Decomposition, d.Faithful ∧ d.chars = cs ∧ d.tokens p = ts := by
  generalize hcur : Cursor.mk cs p = cur at h
  fun_induction Cursor.tokens cur generalizing cs p ts with
  | case1 cur e after hnext => cases h
  | case2 cur t after hnext hend =>
    subst hcur
    obtain rfl := Except.ok.inj h
    rcases next_cases hnext with ⟨hblanks, rfl⟩ | ⟨gap, w, rest, -, -, hspells, -⟩
    · exact ⟨.ending cs, .ending hblanks, rfl, rfl⟩
    · exact absurd hend hspells.kind_ne_endOfText
  | case3 cur t after hnext hend ih =>
    subst hcur
    obtain ⟨us, hus, rfl⟩ := Checks.map_eq_ok_iff.1 h
    rcases next_cases hnext with ⟨-, rfl⟩ | ⟨gap, w, rest, rfl, hgap, hspells, hmax, hposition, rfl⟩
    · exact absurd rfl hend
    · obtain ⟨d, hd, rfl, rfl⟩ := ih rfl hus
      refine ⟨.lexeme gap w t.kind t.text d, .lexeme hgap hspells hmax hd, rfl, ?_⟩
      rw [Decomposition.tokens, ← hposition]

end Cursor

/-! ## One decomposition for every text -/

namespace Decomposition

/-- Where there are only blanks, no lexeme stands. -/
theorem chars_ne_of_blanks {gap w trail : List Char} {kind : Token.Kind} {text : String}
    {rest : Decomposition} (h : (lexeme gap w kind text rest).Faithful) (htrail : Blanks trail) :
    (lexeme gap w kind text rest).chars ≠ trail := by
  intro hchars
  cases h with
  | lexeme hgap hspells hmax _ =>
    have hlexeme := Cursor.next_of_spells hgap hspells hmax {}
    have hend := Cursor.next_of_blanks htrail {}
    rw [← hchars, chars, hlexeme] at hend
    obtain ⟨⟨hkind, -⟩, -⟩ := by simpa using hend
    exact hspells.kind_ne_endOfText hkind

/-- **Uniqueness.** The gap in front of a lexeme ends where the lexeme starts, and which lexeme
stands at a place depends on the text alone. -/
theorem eq_of_chars_eq {d d' : Decomposition} (h : d.Faithful) (h' : d'.Faithful)
    (hchars : d.chars = d'.chars) : d = d' := by
  induction h generalizing d' with
  | @ending trail hblanks =>
    cases h' with
    | ending _ => exact congrArg ending hchars
    | lexeme hgap hspells hmax hrest =>
      exact absurd hchars.symm (chars_ne_of_blanks (.lexeme hgap hspells hmax hrest) hblanks)
  | @lexeme gap w kind text rest hgap hspells hmax hrest ih =>
    cases h' with
    | ending hblanks =>
      exact absurd hchars (chars_ne_of_blanks (.lexeme hgap hspells hmax hrest) hblanks)
    | @lexeme gap' w' kind' text' rest' hgap' hspells' hmax' hrest' =>
      have hread := Lexeme.read_of_spells hspells hmax
      have hread' := Lexeme.read_of_spells hspells' hmax'
      obtain rfl : gap = gap' := by
        rw [← Cursor.takeWhile_isBlank_of_read hgap hread,
          ← Cursor.takeWhile_isBlank_of_read hgap' hread']
        exact congrArg _ hchars
      have htail : w ++ rest.chars = w' ++ rest'.chars := List.append_cancel_left hchars
      rw [htail, hread', Lexeme.Reading.lexeme.injEq] at hread
      obtain ⟨rfl, rfl, hlength⟩ := hread
      obtain ⟨rfl, hafter⟩ := List.append_inj htail hlength.symm
      rw [ih hrest' hafter]

theorem tokens_eq_append (d : Decomposition) (h : d.Faithful) (p : Position) :
    ∃ us e, d.tokens p = us ++ [e] ∧ e.kind = .endOfText ∧ ∀ u ∈ us, u.kind ≠ .endOfText := by
  induction h generalizing p with
  | @ending trail _ => exact ⟨[], _, rfl, rfl, List.forall_mem_nil _⟩
  | @lexeme gap w kind text rest _ hspells _ _ ih =>
    obtain ⟨us, e, htokens, he, hus⟩ := ih ((p.advanceBy gap).advanceBy w)
    refine ⟨⟨kind, text, p.advanceBy gap⟩ :: us, e, ?_, he, ?_⟩
    · rw [tokens, htokens, List.cons_append]
    · exact List.forall_mem_cons.2 ⟨hspells.kind_ne_endOfText, hus⟩

end Decomposition

/-! ## The main statement -/

theorem Decomposition.chars_of_text {d : Decomposition} {s : String} (h : d.text = s) :
    d.chars = s.toList := by
  rw [← h, text, String.toList_ofList]

theorem tokenize_of_faithful {d : Decomposition} (h : d.Faithful) :
    tokenize d.text = .ok (d.tokens {}) := by
  rw [tokenize, Cursor.ofText, ← Decomposition.chars_of_text rfl]
  exact Cursor.tokens_of_faithful h {}

theorem exists_faithful_of_tokenize {s : String} {ts : List Token} (h : tokenize s = .ok ts) :
    ∃ d : Decomposition, d.Faithful ∧ d.text = s ∧ d.tokens {} = ts := by
  obtain ⟨d, hd, hchars, htokens⟩ := Cursor.exists_faithful_of_tokens h
  refine ⟨d, hd, ?_, htokens⟩
  rw [Decomposition.text, hchars, String.ofList_toList]

/-- **The tokens of a text are those of its faithful decomposition**, of which it has one at most: a
text that has none has no tokens either. The end of the text is one token, the last. -/
theorem tokenize_eq_ok_iff_faithful (s : String) :
    (∀ ts, tokenize s = .ok ts ↔ ∃ d : Decomposition, d.Faithful ∧ d.text = s ∧ d.tokens {} = ts) ∧
      (∀ d d' : Decomposition, d.Faithful → d'.Faithful → d.text = s → d'.text = s → d = d') ∧
      ∀ ts, tokenize s = .ok ts →
        ∃ us e, ts = us ++ [e] ∧ e.kind = .endOfText ∧ ∀ u ∈ us, u.kind ≠ .endOfText := by
  refine ⟨fun ts => ⟨exists_faithful_of_tokenize, ?_⟩, ?_, ?_⟩
  · rintro ⟨d, hd, rfl, rfl⟩
    exact tokenize_of_faithful hd
  · intro d d' hd hd' hs hs'
    have hchars := (Decomposition.chars_of_text hs).trans (Decomposition.chars_of_text hs').symm
    exact Decomposition.eq_of_chars_eq hd hd' hchars
  · intro ts hts
    obtain ⟨d, hd, -, rfl⟩ := exists_faithful_of_tokenize hts
    exact d.tokens_eq_append hd {}

/-- Lexemes with hardly a blank between them: a number and a word, the digit of a generation that is
none because its word goes on, a generation, a string with a backslash of either kind, and two
operators. -/
def Decomposition.dense : Decomposition :=
  .lexeme [] ['4', '5'] .number "45" <| .lexeme [] ['g'] .identifier "g" <|
  .lexeme [' '] ['5'] .number "5" <| .lexeme [] ['g', 'x'] .identifier "gx" <|
  .lexeme [] [','] .comma "," <| .lexeme [] ['5', 'G'] .identifier "5g" <|
  .lexeme [] ['"', 'a', '\\', '"', '\\', 'b', '"'] .string "a\"\\b" <|
  .lexeme [] ['<', '='] .operator "<=" <| .lexeme [] ['>'] .operator ">" <|
  .lexeme [] ['H', 'a', 'S'] .keyword "HAS" <| .ending ['\n']

theorem tokenize_dense :
    tokenize "45g 5gx,5G\"a\\\"\\b\"<=>HaS\n" = .ok
      [⟨.number, "45", ⟨0, 1, 1⟩⟩, ⟨.identifier, "g", ⟨2, 1, 3⟩⟩, ⟨.number, "5", ⟨4, 1, 5⟩⟩,
       ⟨.identifier, "gx", ⟨5, 1, 6⟩⟩, ⟨.comma, ",", ⟨7, 1, 8⟩⟩, ⟨.identifier, "5g", ⟨8, 1, 9⟩⟩,
       ⟨.string, "a\"\\b", ⟨10, 1, 11⟩⟩, ⟨.operator, "<=", ⟨17, 1, 18⟩⟩,
       ⟨.operator, ">", ⟨19, 1, 20⟩⟩,
       ⟨.keyword, "HAS", ⟨20, 1, 21⟩⟩, ⟨.endOfText, "", ⟨24, 2, 1⟩⟩] := by
  exact ((tokenize_eq_ok_iff_faithful _).1 _).2 ⟨.dense, by decide +kernel, rfl, rfl⟩

end Broadband
