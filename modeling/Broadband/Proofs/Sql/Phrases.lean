import Broadband.Proofs.Sql.Clauses
import Broadband.Sql.Statement

/-!
# The texts of names, conditions and values

A reader of a statement looks for commas, line feeds and a few words, such as `AS` and `AND`,
outside of literals and parentheses. A statement is neat if its names are single words and none of
these. Then no text of a condition or of a value has anything in it that the reader looks for,
except that a condition may be a conjunction: `Condition.phrase`, `Predicate.phrase` and
`Scalar.phrase`, each by one case for each form of text.
-/

namespace Broadband.Sql

/-! ## Phrases -/

/-- The words that the reader looks for. -/
def reserved : List String := ["AS", "ON", "AND", "*"]

/-- The text can be a name: nothing in it divides, opens or closes anything, and it is none of the
words that the reader looks for. -/
def isIdentifier (s : String) : Bool := s.toList.all isTight && decide (s ∉ reserved)

section

variable {ban : List String} {s t w : String}

/-- A text in which nothing stands that could divide it is one word. -/
theorem phrase_of_undivided (hs : Balanced s) (h : ∀ c ∈ [' ', ',', '\n'], [c] ∉ pieces s)
    (hban : s ∉ ban) :
    Phrase ban s := by
  have hword : words s = [s] := cutAt_of_notMem (h _ (by simp))
  refine ⟨⟨hs, h _ (by simp)⟩, h _ (by simp), fun w hw => ?_⟩
  rw [hword, List.mem_singleton]
  rintro rfl
  exact hban hw

theorem notMem_of_isTight_false (hban : ban ⊆ reserved) (hs : s.toList.all isTight = false) :
    s ∉ ban := by
  intro hmem
  have hreserved : ∀ w ∈ reserved, w.toList.all isTight = true := by decide
  rw [hreserved s (hban hmem)] at hs
  exact Bool.noConfusion hs

theorem isTight_of_divides {c : Char} (h : c ∈ [' ', ',', '\n']) : isTight c = false := by
  simp only [List.mem_cons, List.not_mem_nil, or_false] at h
  rcases h with rfl | rfl | rfl <;> rfl

theorem phrase_of_isTight (h : s.toList.all isTight = true) (hban : s ∉ ban) : Phrase ban s := by
  refine phrase_of_undivided (balanced_of_isFree (isFree_of_isTight h)) (fun c hc => ?_) hban
  exact notMem_pieces_of_isTight h (isTight_of_divides hc)

theorem phrase_of_isIdentifier (hban : ban ⊆ reserved) (h : isIdentifier s = true) :
    Phrase ban s := by
  rw [isIdentifier, Bool.and_eq_true, decide_eq_true_eq] at h
  exact phrase_of_isTight h.1 fun hmem => h.2 (hban hmem)

/-- A literal is one word. -/
theorem phrase_quoted (hban : ban ⊆ reserved) (s : String) : Phrase ban (Text.quoted s) := by
  obtain ⟨hbalanced, hpieces⟩ := balanced_quoted s
  refine phrase_of_undivided hbalanced (fun c hc hmem => ?_) (notMem_of_isTight_false hban ?_)
  · have hquote : c = '\'' := by simpa using hpieces [c] hmem
    subst hquote
    exact absurd hc (by decide)
  · simp [Text.quoted, isTight, isFree]

/-- What stands in parentheses is one word, together with the word directly before it. -/
theorem phrase_call (hban : ban ⊆ reserved) (hs : s.toList.all isTight = true) {opening : String}
    (hopening : s ++ "(" = opening) (ht : Balanced t) : Phrase ban (opening ++ t ++ ")") := by
  have htext : opening ++ t ++ ")" = s ++ ("(" ++ t ++ ")") := by
    rw [← hopening]
    simp only [String.append_assoc]
  have hbalanced := balanced_of_isFree (isFree_of_isTight hs)
  rw [htext]
  refine phrase_of_undivided (hbalanced.append (balanced_parentheses ht)) (fun c hc hmem => ?_)
    (notMem_of_isTight_false hban ?_)
  · rw [pieces_append hbalanced, pieces_parentheses ht, List.mem_append, List.mem_singleton] at hmem
    rcases hmem with hmem | hmem
    · exact notMem_pieces_of_isTight hs (isTight_of_divides hc) hmem
    · simp at hmem
  · simp [isTight, isFree]

/-- The same, with something else at both ends in the parentheses. -/
theorem phrase_callOn (hban : ban ⊆ reserved) (hs : s.toList.all isTight = true)
    {start finish opening closing : String} (hopening : s ++ "(" ++ start = opening)
    (hclosing : finish ++ ")" = closing) (ht : Balanced (start ++ t ++ finish)) :
    Phrase ban (opening ++ t ++ closing) := by
  have htext : opening ++ t ++ closing = s ++ "(" ++ (start ++ t ++ finish) ++ ")" := by
    rw [← hopening, ← hclosing]
    simp only [String.append_assoc]
  rw [htext]
  exact phrase_call hban hs rfl ht

/-- Phrases with a blank between them. -/
theorem Phrase.beside (hs : Phrase ban s) (ht : Phrase ban t) : Phrase ban (s ++ " " ++ t) := by
  have hblank : Balanced " " := balanced_of_isFree rfl
  have hpieces : pieces (s ++ " " ++ t) = pieces s ++ [[' ']] ++ pieces t := by
    rw [pieces_append (hs.balanced.append hblank), pieces_append hs.balanced]
    rfl
  refine ⟨⟨(hs.balanced.append hblank).append ht.balanced, ?_⟩, ?_, fun w hw => ?_⟩
  · rw [hpieces]
    simp [hs.noFeed, ht.noFeed]
  · rw [hpieces]
    simp [hs.noComma, ht.noComma]
  · rw [words_append hs.balanced, List.mem_append, not_or]
    exact ⟨hs.noWord w hw, ht.noWord w hw⟩

/-- A phrase behind another one. -/
theorem Phrase.after (ht : Phrase ban t) (hs : Phrase ban s) {opening : String}
    (hopening : s ++ " " = opening) :
    Phrase ban (opening ++ t) := by
  rw [← hopening]
  exact hs.beside ht

/-- A phrase before another one. -/
theorem Phrase.before (hs : Phrase ban s) (ht : Phrase ban t) {closing : String}
    (hclosing : " " ++ t = closing) :
    Phrase ban (s ++ closing) := by
  rw [← hclosing, ← String.append_assoc]
  exact hs.beside ht

/-- Two phrases with another one between them. -/
theorem Phrase.divided (hs : Phrase ban s) (hw : Phrase ban w) {separator : String}
    (hseparator : " " ++ w ++ " " = separator) (ht : Phrase ban t) :
    Phrase ban (s ++ separator ++ t) := by
  have htext : s ++ separator ++ t = s ++ " " ++ w ++ " " ++ t := by
    rw [← hseparator]
    simp only [String.append_assoc]
  rw [htext]
  exact (hs.beside hw).beside ht

/-- Phrases with another one between any two of them. -/
theorem phrase_intercalate (hw : Phrase ban w) {separator : String}
    (hseparator : " " ++ w ++ " " = separator) {items : List String} (hne : items ≠ [])
    (h : ∀ s ∈ items, Phrase ban s) :
    Phrase ban (separator.intercalate items) :=
  intercalate_of_append (fun _ _ ha hb => ha.divided hw hseparator hb) hne h

/-- A test of membership: what the key is looked for in stands in parentheses. -/
theorem phrase_membershipOn (hban : ban ⊆ reserved) (hs : Phrase ban s) (hw : Phrase ban w)
    {start finish opening closing : String} (hopening : " " ++ w ++ " (" ++ start = opening)
    (hclosing : finish ++ ")" = closing) (ht : Balanced (start ++ t ++ finish)) :
    Phrase ban (s ++ opening ++ t ++ closing) := by
  have hgap : " (" = " " ++ "(" := rfl
  have htext : s ++ opening ++ t ++ closing
      = s ++ (" " ++ w ++ " ") ++ ("(" ++ (start ++ t ++ finish) ++ ")") := by
    rw [← hopening, ← hclosing, hgap]
    simp only [String.append_assoc]
  rw [htext]
  exact hs.divided hw rfl (phrase_call hban (s := "") rfl rfl ht)

theorem phrase_membership (hban : ban ⊆ reserved) (hs : Phrase ban s) (hw : Phrase ban w)
    {opening : String} (hopening : " " ++ w ++ " (" = opening) (ht : Balanced t) :
    Phrase ban (s ++ opening ++ t ++ ")") := by
  have hinner : Balanced ("" ++ t ++ "") := by rwa [String.empty_append, String.append_empty]
  exact phrase_membershipOn hban hs hw (hopening ▸ String.append_empty) rfl hinner

/-- Rows in parentheses, under a short name. -/
theorem phrase_named (hban : ban ⊆ reserved) {start opening closing : String}
    (hopening : "(" ++ start = opening) (hclosing : ")" ++ " " = closing)
    (ht : Balanced (start ++ t)) (hw : Phrase ban w) :
    Phrase ban (opening ++ t ++ closing ++ w) := by
  have htext : opening ++ t ++ closing ++ w = "(" ++ (start ++ t) ++ ")" ++ " " ++ w := by
    rw [← hopening, ← hclosing]
    simp only [String.append_assoc]
  rw [htext]
  exact (phrase_call hban (s := "") rfl rfl ht).beside hw

end

/-! ## Conditions and predicates -/

/-- The column's text is a name. -/
def Column.neat (c : Column) : Bool := isIdentifier c.text

/-- What a column is compared with is a literal or a name. -/
def Operand.neat : Operand → Bool
  | .literal _ => true
  | .column c => c.neat

/-- All columns of the condition are names. -/
def Condition.neat : Condition → Bool
  | .truth c => c.neat
  | .compare left _ right => left.neat && right.neat
  | .oneOf left _ => left.neat
  | .verbatim _ => false
  | .join _ left right => left.neat && right.neat
  | .not inner => inner.neat
  | .group inner => inner.neat

/-- The condition has no conjunction outside of its parentheses. -/
def Condition.apart : Condition → Bool
  | .join op left right => decide (op ≠ .and) && left.apart && right.apart
  | .not inner => inner.apart
  | _ => true

/-- The names of a table can be read. -/
def Table.neat (t : Table) : Bool := isIdentifier t.name && t.short.all isIdentifier

/-- The names of a subquery can be read. -/
def Subquery.neat (s : Subquery) : Bool :=
  s.column.neat && s.table.neat && s.conditions.all Condition.neat

/-- The names of a predicate can be read. -/
def Predicate.neat : Predicate → Bool
  | .holds c => c.neat
  | .within key s => key.neat && s.neat
  | .outside key s => key.neat && s.neat
  | .withinEach key ss => key.neat && ss.all Subquery.neat

/-- The predicate is not a condition that could be taken for several. -/
def Predicate.apart : Predicate → Bool
  | .holds c => c.apart
  | _ => true

section

variable {ban : List String}

theorem toString_notMem (hban : ban ⊆ reserved) (n : Int) : toString n ∉ ban := by
  intro hmem
  -- every reserved word has a character that no numeral has
  have hreserved : ∀ w ∈ reserved, w.toList.any (fun c => c != '-' && !Text.isDigit c) = true := by
    decide
  obtain ⟨c, hc, hother⟩ := List.any_eq_true.1 (hreserved _ (hban hmem))
  rcases Text.isDigit_of_mem_toString_int hc with rfl | hdigit
  · exact Bool.noConfusion hother
  · rw [hdigit, Bool.not_true, Bool.and_false] at hother
    exact Bool.noConfusion hother

theorem Literal.phrase (hban : ban ⊆ reserved) (l : Literal) : Phrase ban l.render := by
  cases l with
  | number n => exact phrase_of_isTight (isTight_toString n) (toString_notMem hban n)
  | text s => exact phrase_quoted hban s
  | truth b => cases b <;> exact phrase_of_isIdentifier hban rfl

theorem Operand.phrase (hban : ban ⊆ reserved) {o : Operand} (h : o.neat = true) :
    Phrase ban o.text := by
  cases o with
  | literal l => exact l.phrase hban
  | column c => exact phrase_of_isIdentifier hban h

/-- The text of a condition, in which `AND` may be a word only if it is not looked for. -/
theorem Condition.phrase (hban : ban ⊆ reserved) {c : Condition} (h : c.neat = true)
    (hand : "AND" ∈ ban → c.apart = true) : Phrase ban c.text := by
  induction c generalizing ban with
  | truth c => exact phrase_of_isIdentifier hban h
  | compare left op right =>
    rw [neat, Bool.and_eq_true] at h
    have hop : Phrase ban op.symbol := phrase_of_isIdentifier hban (by cases op <;> rfl)
    exact ((phrase_of_isIdentifier hban h.1).beside hop).beside (Operand.phrase hban h.2)
  | oneOf left choices =>
    have hchoices : Balanced (", ".intercalate (choices.map Literal.render)) := by
      refine balanced_intercalate (balanced_of_isFree rfl) (List.forall_mem_map.2 fun l _ => ?_)
      exact (l.phrase hban).balanced
    have hin : Phrase ban "IN" := phrase_of_isIdentifier hban rfl
    exact phrase_membership hban (phrase_of_isIdentifier hban h) hin rfl hchoices
  | verbatim s => exact Bool.noConfusion h
  | join op left right ihl ihr =>
    rw [neat, Bool.and_eq_true] at h
    simp only [apart, Bool.and_eq_true, decide_eq_true_eq] at hand
    have hop : Phrase ban op.keyword := by
      cases op with
      | and => exact phrase_of_isTight rfl fun hmem => (hand hmem).1.1 rfl
      | or => exact phrase_of_isIdentifier hban rfl
    have hleft := ihl hban h.1 fun hmem => (hand hmem).1.2
    exact (hleft.beside hop).beside (ihr hban h.2 fun hmem => (hand hmem).2)
  | not inner ih => exact (ih hban h hand).after (phrase_of_isIdentifier hban (s := "NOT") rfl) rfl
  | group inner ih =>
    -- in parentheses nothing is looked for
    exact phrase_call hban (s := "") rfl rfl (ih (List.nil_subset _) h nofun).balanced

theorem Condition.balanced_text {c : Condition} (h : c.neat = true) : Balanced c.text :=
  (c.phrase (List.nil_subset reserved) h nofun).balanced

theorem Table.phrase (hban : ban ⊆ reserved) {t : Table} (h : t.neat = true) :
    Phrase ban t.text := by
  obtain ⟨name, short⟩ := t
  rw [neat, Bool.and_eq_true] at h
  cases short with
  | none => exact phrase_of_isIdentifier hban h.1
  | some short => exact (phrase_of_isIdentifier hban h.1).beside (phrase_of_isIdentifier hban h.2)

theorem Subquery.balanced_text {s : Subquery} (h : s.neat = true) : Balanced s.text := by
  simp only [neat, Bool.and_eq_true, List.all_eq_true] at h
  have hcolumn := phrase_of_isIdentifier (List.nil_subset reserved) h.1.1
  have htable := Table.phrase (List.nil_subset reserved) h.1.2
  have hconditions := List.forall_mem_map.2 fun c hc => Condition.balanced_text (h.2 c hc)
  have hword : ∀ w : String, w.toList.all isFree = true → Balanced w := fun _ => balanced_of_isFree
  exact (((((hword "SELECT " rfl).append hcolumn.balanced).append (hword " FROM " rfl)).append
    htable.balanced).append (hword " WHERE " rfl)).append
      (balanced_intercalate (hword " AND " rfl) hconditions)

theorem Predicate.phrase (hban : ban ⊆ reserved) {p : Predicate} (h : p.neat = true)
    (hand : "AND" ∈ ban → p.apart = true) : Phrase ban p.text := by
  have hin : Phrase ban "IN" := phrase_of_isIdentifier hban rfl
  cases p with
  | holds c => exact c.phrase hban h hand
  | within key s =>
    rw [neat, Bool.and_eq_true] at h
    exact phrase_membership hban (phrase_of_isIdentifier hban h.1) hin rfl
      (Subquery.balanced_text h.2)
  | outside key s =>
    rw [neat, Bool.and_eq_true] at h
    have hnotIn : Phrase ban ("NOT" ++ " " ++ "IN") := (phrase_of_isIdentifier hban rfl).beside hin
    exact phrase_membership hban (phrase_of_isIdentifier hban h.1) hnotIn rfl
      (Subquery.balanced_text h.2)
  | withinEach key ss =>
    simp only [neat, Bool.and_eq_true, List.all_eq_true] at h
    have hss := List.forall_mem_map.2 fun s hs => Subquery.balanced_text (h.2 s hs)
    have hinner :
        Balanced ("\n  " ++ "\n  INTERSECT\n  ".intercalate (ss.map Subquery.text) ++ "\n") :=
      ((balanced_of_isFree rfl).append (balanced_intercalate (balanced_of_isFree rfl) hss)).append
        (balanced_of_isFree rfl)
    exact phrase_membershipOn hban (phrase_of_isIdentifier hban h.1) hin rfl rfl hinner

end

/-! ## Values -/

/-- The names of a value can be read. -/
def Scalar.neat : Scalar → Bool
  | .column c => c.neat
  | .literal _ => true
  | .countRows => true
  | .sum x => x.neat
  | .average x => x.neat
  | .coalesce choices => choices.all Operand.neat
  | .percent x => x.neat
  | .percentage part whole => part.neat && whole.neat
  | .onlyIf c x => c.neat && x.neat
  | .ifElse c yes no => c.neat && yes.neat && no.neat
  | .sizeRank among tie => among.all Column.neat && tie.neat

section

variable {ban : List String}

/-- The text of a value, in which `AND` is not looked for. -/
theorem Scalar.phrase (hban : ban ⊆ reserved) (hand : "AND" ∉ ban) {x : Scalar}
    (h : x.neat = true) :
    Phrase ban x.text := by
  have hword : ∀ w, isIdentifier w = true → Phrase ban w := fun _ => phrase_of_isIdentifier hban
  have hfree : ∀ w : String, w.toList.all isFree = true → Balanced w := fun _ => balanced_of_isFree
  have hcase : Phrase ban ("CASE" ++ " " ++ "WHEN") := (hword "CASE" rfl).beside (hword "WHEN" rfl)
  have hcondition : ∀ c : Condition, c.neat = true → Phrase ban c.text :=
    fun c hc => c.phrase hban hc fun hmem => absurd hmem hand
  induction x with
  | column c => exact phrase_of_isIdentifier hban h
  | literal l => exact l.phrase hban
  | countRows =>
    exact phrase_call hban (s := "COUNT") (t := "*") rfl rfl (hfree "*" rfl)
  | sum x ih => exact phrase_call hban (s := "SUM") rfl rfl (ih h).balanced
  | average x ih => exact phrase_call hban (s := "AVG") rfl rfl (ih h).balanced
  | coalesce choices =>
    rw [neat, List.all_eq_true] at h
    have hchoices := List.forall_mem_map.2 fun o ho => (Operand.phrase hban (h o ho)).balanced
    exact phrase_call hban (s := "COALESCE") rfl rfl
      (balanced_intercalate (hfree ", " rfl) hchoices)
  | percent x ih =>
    have hinner : Balanced ("100.0 * " ++ x.text ++ ", 1") :=
      ((hfree "100.0 * " rfl).append (ih h).balanced).append (hfree ", 1" rfl)
    exact phrase_callOn hban (s := "ROUND") rfl rfl rfl hinner
  | percentage part whole ihp ihw =>
    rw [neat, Bool.and_eq_true] at h
    have hparts := ((ihp h.1).balanced.append (hfree " / " rfl)).append (ihw h.2).balanced
    have hinner : Balanced ("100.0 * " ++ (part.text ++ " / " ++ whole.text) ++ ", 1") :=
      ((hfree "100.0 * " rfl).append hparts).append (hfree ", 1" rfl)
    have htext : (Scalar.percentage part whole).text
        = "ROUND(100.0 * " ++ part.text ++ " / " ++ whole.text ++ ", 1)" := rfl
    have hcall : Phrase ban ("ROUND(100.0 * " ++ (part.text ++ " / " ++ whole.text) ++ ", 1)") :=
      phrase_callOn hban (s := "ROUND") rfl rfl rfl hinner
    rw [htext]
    simpa only [String.append_assoc] using hcall
  | onlyIf c x ih =>
    rw [neat, Bool.and_eq_true] at h
    exact (((hcondition c h.1).after hcase rfl).divided (hword "THEN" rfl) rfl (ih h.2)).before
      (hword "END" rfl) rfl
  | ifElse c yes no ihy ihn =>
    simp only [neat, Bool.and_eq_true] at h
    have hthen := ((hcondition c h.1.1).after hcase rfl).divided (hword "THEN" rfl) rfl (ihy h.1.2)
    exact (hthen.divided (hword "ELSE" rfl) rfl (ihn h.2)).before (hword "END" rfl) rfl
  | sizeRank among tie =>
    simp only [neat, Bool.and_eq_true, List.all_eq_true] at h
    have hamong :=
      List.forall_mem_map.2 fun c hc => (phrase_of_isIdentifier hban (h.1 c hc)).balanced
    have horder : Balanced (" ORDER BY COUNT" ++ ("(" ++ "*" ++ ")") ++ " DESC, ") :=
      ((hfree " ORDER BY COUNT" rfl).append (balanced_parentheses (hfree "*" rfl))).append
        (hfree " DESC, " rfl)
    have hparts : Balanced
        (", ".intercalate (among.map Column.text) ++ " ORDER BY COUNT(*) DESC, " ++ tie.text) :=
      ((balanced_intercalate (hfree ", " rfl) hamong).append horder).append
        (phrase_of_isIdentifier hban h.2).balanced
    have hinner := ((hfree "PARTITION BY " rfl).append hparts).append (hfree " ASC" rfl)
    have hnumber : Phrase ban ("ROW_NUMBER(" ++ "" ++ ")") :=
      phrase_call hban (s := "ROW_NUMBER") rfl rfl (hfree "" rfl)
    have hrank : Phrase ban ("ROW_NUMBER()" ++ " OVER (PARTITION BY " ++
        (", ".intercalate (among.map Column.text) ++ " ORDER BY COUNT(*) DESC, " ++ tie.text) ++
        " ASC)") :=
      phrase_membershipOn hban hnumber (hword "OVER" rfl) rfl rfl hinner
    have htext : (Scalar.sizeRank among tie).text = "ROW_NUMBER() OVER (PARTITION BY " ++
        ", ".intercalate (among.map Column.text) ++ " ORDER BY COUNT(*) DESC, " ++ tie.text ++
        " ASC)" := rfl
    have hopening : "ROW_NUMBER()" ++ " OVER (PARTITION BY " = "ROW_NUMBER() OVER (PARTITION BY " :=
      rfl
    simp only [hopening, String.append_assoc] at hrank
    simpa only [htext, String.append_assoc] using hrank

end

end Broadband.Sql
