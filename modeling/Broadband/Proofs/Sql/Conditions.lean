import Broadband.Proofs.Sql.Formula
import Broadband.Proofs.Sql.Readable
import Mathlib.Data.List.Forall2

/-!
# Conditions are read back

A condition is written without rules of precedence: whoever builds it puts the parentheses. `Reads`
says that a reader takes the text for a certain formula, and how tightly that formula binds; it is
closed under the ways of putting conditions together that keep the parentheses where they are
needed.

Symbols are cut from a text without looking at what precedes them, but where a name or a number ends
is seen only from what follows. So what a part of a condition is cut into is said for every rest
that ends a run (`Apart`), and a blank, a parenthesis and the end of the text all do.
-/

namespace Broadband.Sql

open Grammar (Rank)

/-! ## Cutting marks into symbols -/

/-- Marks that end any run in front of them. -/
def Apart (ms : List Mark) : Prop :=
  ∀ run, symbolsFrom run ms = (ofRun? run).bind fun done => (symbolsFrom [] ms).map (done ++ ·)

theorem apart_nil : Apart [] := by
  intro run
  simp [symbolsFrom, ofRun?]

/-- The character belongs to no run. -/
def Divides (c : Char) : Prop := isWordPart c = false ∧ isOperatorPart c = false

theorem continues_of_divides {c : Char} (h : Divides c) (run : List Char) :
    continues c run = false := by
  cases run with
  | nil => rfl
  | cons d run => simp [continues, h.1, h.2]

theorem symbolsFrom_divides {c : Char} (h : Divides c) (run : List Char) (ms : List Mark) :
    symbolsFrom run (.char c :: ms) = (ofRun? run).bind fun done =>
      (punctuation? c).bind fun mark => (symbolsFrom [] ms).map (done ++ mark ++ ·) := by
  rw [symbolsFrom, continues_of_divides h, if_neg (by simp)]
  simp [h.1, h.2]

theorem apart_cons {c : Char} (h : Divides c) (ms : List Mark) : Apart (.char c :: ms) := by
  intro run
  rw [symbolsFrom_divides h, symbolsFrom_divides h]
  cases ofRun? run with
  | none => rfl
  | some done =>
    cases punctuation? c with
    | none => rfl
    | some mark => simp [ofRun?, Function.comp_def]

/-- Before a rest that ends them, the marks are cut into the symbols. -/
def Cut (ms : List Mark) (ss : List Symbol) : Prop :=
  ∀ rest, Apart rest → symbolsFrom [] (ms ++ rest) = (symbolsFrom [] rest).map (ss ++ ·)

theorem symbolsFrom_of_cut {ms : List Mark} {ss : List Symbol} (h : Cut ms ss) :
    symbolsFrom [] ms = some ss := by
  have hnil := h [] apart_nil
  rw [List.append_nil] at hnil
  simp [hnil, symbolsFrom, ofRun?]

/-- The characters of one run belong together. -/
structure RunClass (p : Char → Bool) : Prop where
  part : ∀ c, p c = true → (isWordPart c || isOperatorPart c) = true
  continues : ∀ c d run, p c = true → p d = true → continues c (d :: run) = true

theorem runClass_word : RunClass isWordPart :=
  ⟨fun c hc => by simp [hc], fun c d run hc hd => by simp [continues, hc, hd]⟩

theorem runClass_operator : RunClass isOperatorPart :=
  ⟨fun c hc => by simp [hc], fun c d run hc hd => by simp [continues, hc, hd]⟩

theorem symbolsFrom_run {p : Char → Bool} (hp : RunClass p) {cs : List Char}
    (hcs : ∀ c ∈ cs, p c = true) {d : Char} (hd : p d = true) (run : List Char) (ms : List Mark) :
    symbolsFrom (d :: run) (cs.map .char ++ ms) = symbolsFrom (cs.reverse ++ d :: run) ms := by
  induction cs generalizing d run with
  | nil => rfl
  | cons c cs ih =>
    rw [List.forall_mem_cons] at hcs
    rw [List.map_cons, List.cons_append, symbolsFrom, if_pos (hp.continues c d run hcs.1 hd),
      ih hcs.2 hcs.1, List.reverse_cons, List.append_assoc, List.singleton_append]

/-- A run is cut off as one symbol. -/
theorem cut_run {p : Char → Bool} (hp : RunClass p) {s : String} (hne : s ≠ "")
    (hs : s.toList.all p = true) {x : Symbol} (hx : Symbol.ofRun? s.toList = some x) :
    Cut (plain s) [x] := by
  rw [List.all_eq_true] at hs
  intro rest hrest
  rw [plain]
  cases hlist : s.toList with
  | nil => exact absurd (String.toList_eq_nil_iff.1 hlist) hne
  | cons c cs =>
    rw [hlist] at hs hx
    rw [List.forall_mem_cons] at hs
    have hstart : symbolsFrom [] (.char c :: (cs.map .char ++ rest))
        = symbolsFrom [c] (cs.map .char ++ rest) := by
      rw [symbolsFrom, if_neg (by simp [continues])]
      simp [ofRun?, hp.part c hs.1]
    have hrun : ofRun? (cs.reverse ++ [c]) = some [x] := by
      simp [ofRun?, hx]
    rw [List.map_cons, List.cons_append, hstart, symbolsFrom_run hp hs.2 hs.1, hrest, hrun,
      Option.bind_some]

/-- A literal is cut off as its content. -/
theorem cut_literal (s : String) : Cut [.literal s.toList] [.term (.text s)] := by
  intro rest _
  rw [List.singleton_append, symbolsFrom]
  simp [ofRun?]

/-! ## Putting symbols together -/

theorem divides_of_isWhitespace {c : Char} (h : c.isWhitespace = true) : Divides c := by
  simp only [Char.isWhitespace, Bool.or_eq_true, decide_eq_true_eq] at h
  rcases h with ((rfl | rfl) | rfl) | rfl
  all_goals exact ⟨by decide, by decide⟩

theorem divides_closeParen : Divides ')' := ⟨by decide, by decide⟩

/-- The text is a gap between symbols. -/
structure Gap (s : String) : Prop where
  ne_empty : s ≠ ""
  blank : s.toList.all Char.isWhitespace = true

instance (s : String) : Decidable (Gap s) :=
  decidable_of_iff (s ≠ "" ∧ s.toList.all Char.isWhitespace = true)
    ⟨fun h => ⟨h.1, h.2⟩, fun h => ⟨h.1, h.2⟩⟩

theorem symbolsFrom_blank {cs : List Char} (h : cs.all Char.isWhitespace = true) (ms : List Mark) :
    symbolsFrom [] (cs.map .char ++ ms) = symbolsFrom [] ms := by
  induction cs with
  | nil => rfl
  | cons c cs ih =>
    rw [List.all_cons, Bool.and_eq_true] at h
    rw [List.map_cons, List.cons_append, symbolsFrom_divides (divides_of_isWhitespace h.1), ih h.2]
    simp [ofRun?, punctuation?, h.1]

/-- Marks with a gap between them. -/
theorem Cut.gap {ms ns : List Mark} {ss ts : List Symbol} (h : Cut ms ss) {s : String} (hs : Gap s)
    (hn : Cut ns ts) : Cut (ms ++ plain s ++ ns) (ss ++ ts) := by
  intro rest hrest
  have hgap : Apart (plain s ++ (ns ++ rest)) := by
    have hblank := hs.blank
    rw [plain]
    cases hlist : s.toList with
    | nil => exact absurd (String.toList_eq_nil_iff.1 hlist) hs.ne_empty
    | cons c cs =>
      rw [hlist, List.all_cons, Bool.and_eq_true] at hblank
      exact apart_cons (divides_of_isWhitespace hblank.1) _
  rw [List.append_assoc, List.append_assoc, h _ hgap, plain, symbolsFrom_blank hs.blank,
    hn rest hrest, Option.map_map]
  simp [Function.comp_def]

/-- Marks with a blank between them. -/
theorem Cut.blank {ms ns : List Mark} {ss ts : List Symbol} (h : Cut ms ss) (hn : Cut ns ts) :
    Cut (ms ++ plain " " ++ ns) (ss ++ ts) :=
  h.gap (by decide) hn

theorem cut_nil : Cut [] [] := by
  intro rest _
  simp

/-- Marks in parentheses. -/
theorem Cut.group {ms : List Mark} {ss : List Symbol} (h : Cut ms ss) :
    Cut (plain "(" ++ ms ++ plain ")") (.openParen :: (ss ++ [.closeParen])) := by
  intro rest _
  have hopen : ∀ ns, symbolsFrom [] (.char '(' :: ns)
      = (symbolsFrom [] ns).map ([.openParen] ++ ·) := by
    intro ns
    rw [symbolsFrom_divides ⟨by decide, by decide⟩]
    simp [ofRun?, punctuation?]
  have hclose : symbolsFrom [] (.char ')' :: rest)
      = (symbolsFrom [] rest).map ([.closeParen] ++ ·) := by
    rw [symbolsFrom_divides divides_closeParen]
    simp [ofRun?, punctuation?]
  have hmarks : plain "(" ++ ms ++ plain ")" ++ rest = .char '(' :: (ms ++ .char ')' :: rest) := by
    simp [plain]
  rw [hmarks, hopen, h _ (apart_cons divides_closeParen _), hclose, Option.map_map, Option.map_map]
  simp [Function.comp_def]

/-! ## Words, numbers and symbols -/

theorem cut_operator (op : Comparison) : Cut (plain op.symbol) [.operator op] := by
  refine cut_run runClass_operator ?_ ?_ ?_
  · cases op <;> decide
  · cases op <;> decide
  · cases op <;> decide

theorem cut_connective (op : Connective) : Cut (plain op.keyword) [.connective op] := by
  refine cut_run runClass_word ?_ ?_ ?_
  · cases op <;> decide
  · cases op <;> decide
  · cases op <;> decide

theorem cut_not : Cut (plain "NOT") [.not] :=
  cut_run runClass_word (by decide) (by decide) (by decide)

/-- The word is a name, and not one of the three that join conditions. -/
structure Named (s : String) : Prop where
  name : isName s.toList = true
  free : Symbol.ofName s.toList = .term (.name s)

instance (s : String) : Decidable (Named s) :=
  decidable_of_iff (isName s.toList = true ∧ Symbol.ofName s.toList = .term (.name s))
    ⟨fun h => ⟨h.1, h.2⟩, fun h => ⟨h.1, h.2⟩⟩

theorem isWordPart_of_isName {cs : List Char} (h : isName cs = true) :
    ∀ c ∈ cs, isWordPart c = true := by
  cases cs with
  | nil => simp
  | cons c cs =>
    simp only [isName, Bool.and_eq_true, Bool.or_eq_true, List.all_eq_true] at h
    rw [List.forall_mem_cons]
    constructor
    · rcases h.1 with hc | hc
      · simp [isWordPart, isWordChar, hc]
      · simp [isWordPart, isWordChar, hc]
    · intro d hd
      rcases h.2 d hd with hpart | hpart
      · simp [isWordPart, hpart]
      · simp [isWordPart, hpart]

theorem cut_name {s : String} (h : Named s) : Cut (plain s) [.term (.name s)] := by
  refine cut_run runClass_word ?_ (List.all_eq_true.2 (isWordPart_of_isName h.name)) ?_
  · rintro rfl
    exact absurd h.name (by decide)
  · rw [Symbol.ofRun?, if_pos h.name, h.free]

/-- A number is read as its value: it starts with a digit or a sign, so it is no name, and it has no
character of a comparison. -/
theorem ofRun?_toString (n : Int) :
    Symbol.ofRun? (toString n).toList = some (.term (.number n)) := by
  have hchars : ∀ c ∈ (toString n).toList, c = '-' ∨ Text.isDigit c = true :=
    fun c hc => Text.isDigit_of_mem_toString_int hc
  have hname : isName (toString n).toList = false := by
    cases hlist : (toString n).toList with
    | nil => rfl
    | cons c cs =>
      have hletter : (c.isAlpha || c == '_') = false := by
        rcases hchars c (by rw [hlist]; exact List.mem_cons_self) with rfl | hdigit
        · decide
        · have hnat := toNat_of_isDigit hdigit
          have halpha : c.isAlpha = false := by
            rw [Bool.eq_false_iff]
            intro halpha
            have hrange := isAlpha_iff_toNat.1 halpha
            omega
          have hunder : (c == '_') = false := by
            rw [beq_eq_false_iff_ne]
            rintro rfl
            exact absurd hdigit (by decide)
          rw [halpha, hunder]
          rfl
      rw [isName, hletter, Bool.false_and]
  have hop : Comparison.ofSymbol? (toString n) = none := by
    rw [Option.eq_none_iff_forall_ne_some]
    intro op hop
    have hother : op.symbol.toList.any (fun c => !(c == '-' || Text.isDigit c)) = true := by
      cases op <;> decide
    obtain ⟨c, hc, hne⟩ := List.any_eq_true.1 hother
    rw [symbol_of_ofSymbol? hop] at hc
    rcases hchars c hc with rfl | hdigit
    · exact absurd hne (by decide)
    · simp [hdigit] at hne
  rw [Symbol.ofRun?, hname, if_neg (by simp), String.ofList_toList, hop, Text.integer?_toString]
  rfl

theorem cut_number (n : Int) : Cut (plain (toString n)) [.term (.number n)] := by
  refine cut_run runClass_word ?_ ?_ (ofRun?_toString n)
  · intro h
    have hread := Text.integer?_toString n
    rw [h] at hread
    cases hread
  · rw [List.all_eq_true]
    intro c hc
    rcases Text.isDigit_of_mem_toString_int hc with rfl | hdigit
    · decide
    · simp [isWordPart, isWordChar, hdigit]

/-! ## Conditions -/

/-- The term that a constant is. -/
def Literal.term : Literal → Term
  | .number n => .number n
  | .text s => .text s
  | .truth b => .name (toString b)

theorem Literal.cut (l : Literal) : Cut l.marks [.term l.term] := by
  cases l with
  | number n => exact cut_number n
  | text s => exact cut_literal s
  | truth b => cases b <;> exact cut_name (by decide)

/-- A reader takes the condition for the formula, which binds at least as tightly as the rank
says. -/
def Reads (rank : Rank) (c : Condition) (f : Formula) : Prop :=
  ∃ ss, Cut c.marks ss ∧ Spelled rank ss f

/-- How tightly a connective binds. -/
def joinRank : Connective → Rank
  | .and => .term
  | .or => .choice

section

variable {rank : Rank} {c d : Condition} {f g : Formula}

/-- A column compared with what is cut off as one term. -/
theorem reads_compare_of_cut {column : Column} (h : Named column.text) (op : Comparison)
    {right : Operand} {x : Term} (hright : Cut right.marks [.term x]) :
    Reads .operand (.compare column op right) (.atom ⟨column.text, op, x⟩) := by
  have hcut := ((cut_name h).blank (cut_operator op)).blank hright
  refine ⟨_, ?_, .atom column.text op x⟩
  have hmarks : (Condition.compare column op right).marks
      = plain column.text ++ plain " " ++ plain op.symbol ++ plain " " ++ right.marks := by
    rw [Condition.marks, plain_append, plain_append, plain_append]
  rw [hmarks]
  exact hcut

theorem reads_compare {column : Column} (h : Named column.text) (op : Comparison) (l : Literal) :
    Reads .operand (.compare column op (.literal l)) (.atom ⟨column.text, op, l.term⟩) :=
  reads_compare_of_cut h op l.cut

theorem reads_compare_column {left right : Column} (hleft : Named left.text) (op : Comparison)
    (hright : Named right.text) :
    Reads .operand (.compare left op (.column right)) (.atom ⟨left.text, op, .name right.text⟩) :=
  reads_compare_of_cut hleft op (cut_name hright)

theorem Reads.not (h : Reads .operand c f) : Reads .operand (.not c) (.not f) := by
  obtain ⟨ss, hcut, hspelled⟩ := h
  refine ⟨_, ?_, .not hspelled⟩
  have hmarks : (Condition.not c).marks = plain "NOT" ++ plain " " ++ c.marks := by
    rw [Condition.marks, ← plain_append]
    rfl
  rw [hmarks]
  exact cut_not.blank hcut

/-- In parentheses every condition binds like an operand. -/
theorem Reads.group (h : Reads rank c f) : Reads .operand (.group c) f := by
  obtain ⟨ss, hcut, hspelled⟩ := h
  exact ⟨_, hcut.group, .paren hspelled.choice⟩

/-- Conditions joined to the left. -/
theorem Reads.join {op : Connective} (hc : Reads (joinRank op) c f) (hd : Reads .operand d g) :
    Reads (joinRank op) (.join op c d) (.join op f g) := by
  obtain ⟨ss, hcut, hspelled⟩ := hc
  obtain ⟨ts, hcut', hspelled'⟩ := hd
  refine ⟨ss ++ [.connective op] ++ ts, ?_, ?_⟩
  · have hmarks : (Condition.join op c d).marks
        = c.marks ++ plain " " ++ plain op.keyword ++ plain " " ++ d.marks := by
      rw [Condition.marks, plain_append, plain_append]
      simp only [List.append_assoc]
    rw [hmarks]
    exact (hcut.blank (cut_connective op)).blank hcut'
  · rw [List.append_assoc, List.singleton_append]
    cases op with
    | and => exact .and hspelled hspelled'
    | or => exact .or hspelled (.operand hspelled')

/-- What binds like an operand may stand first among conditions that are joined. -/
theorem Reads.first (op : Connective) (h : Reads .operand c f) : Reads (joinRank op) c f := by
  obtain ⟨ss, hcut, hspelled⟩ := h
  cases op with
  | and => exact ⟨ss, hcut, .operand hspelled⟩
  | or => exact ⟨ss, hcut, .term (.operand hspelled)⟩

/-- Several conditions joined from the left. -/
theorem Reads.foldl {op : Connective} {cs : List Condition} {fs : List Formula}
    (h : Reads (joinRank op) c f) (hcs : List.Forall₂ (Reads .operand) cs fs) :
    Reads (joinRank op) (cs.foldl (.join op) c) (fs.foldl (.join op) f) := by
  induction hcs generalizing c f with
  | nil => exact h
  | cons hd _ ih => exact ih (h.join hd)

/-- **A condition whose names are words is read as its formula.** -/
theorem Reads.formula? (h : Reads rank c f) (hc : c.readable = true) :
    formula? c.text = some f := by
  obtain ⟨ss, hcut, hspelled⟩ := h
  have hread : read c.text = c.marks := read_of_spell (Condition.sound hc).tidy c.spell_marks.symm
  rw [Sql.formula?, hread, symbolsFrom_of_cut hcut, Option.bind_some,
    formulaOf?_of_spelled hspelled]

end

theorem Formula.holds_foldl (v : Atom → Bool) (op : Connective) (f : Formula) (fs : List Formula) :
    (fs.foldl (.join op) f).holds v = (fs.map (·.holds v)).foldl op.holds (f.holds v) := by
  induction fs generalizing f with
  | nil => rfl
  | cons g gs ih =>
    rw [List.foldl_cons, ih, List.map_cons, List.foldl_cons]
    rfl

end Broadband.Sql
