import Broadband.Proofs.Sql.Readable

/-!
# Parentheses in statements

Alternatives can be joined in one go, with a single pair of parentheses around them, or two at a
time, with a pair around every two (`Condition.Bracketed`). Which of the two is done shows in the
text of the condition, and nowhere else in the text of the statement around it: a statement is then
a frame with gaps for the condition (`Framed`). The layout moves the lines of a named table to the
right, those in the frame and those in the condition, and the parentheses at both ends of the
condition keep the one apart from the other.

Whether a condition has its parentheses is asked of the tree (`Condition.grouped`). A writer who has
only the text can ask it for its first and its last character instead (`parenthesized`), which is
right as long as the text is not that of two conditions side by side (`Condition.text_grouped`).
-/

namespace Broadband.Sql

/-! ## Texts with gaps -/

/-- A text with so many gaps, all of which are filled with the same text. -/
def Framed (gaps : Nat) (f : String → String) : Prop :=
  ∃ frame : List String, frame.length = gaps + 1 ∧ ∀ p, f p = p.intercalate frame

/-- One gap between two texts. -/
theorem framed_one (before after : String) : Framed 1 fun p => before ++ p ++ after :=
  ⟨[before, after], rfl, fun p => by simp [String.append_assoc]⟩

/-- Two gaps between three texts. -/
theorem framed_two (before between after : String) :
    Framed 2 fun p => before ++ p ++ between ++ p ++ after :=
  ⟨[before, between, after], rfl, fun p => by simp [String.append_assoc]⟩

/-- The text has a parenthesis at either end. -/
def Enclosed (p : String) : Prop := ∃ s, p = "(" ++ s ++ ")"

theorem Enclosed.toList_eq {p : String} (h : Enclosed p) :
    ∃ cs, p.toList = '(' :: (cs ++ [')']) := by
  obtain ⟨s, rfl⟩ := h
  exact ⟨s.toList, by simp⟩

/-! ## Moving lines -/

/-- A text in the middle of a named table, whose lines are moved to the right. -/
def laidOut (s : String) : String := String.ofList (shifted s.toList)

theorem shifted_append_cons {c : Char} (hnewline : c ≠ '\n') (hreturn : c ≠ '\r')
    (content rest : List Char) :
    shifted (content ++ c :: rest) = shifted content ++ c :: shifted rest := by
  -- in front of one more character, moving in the middle of a line is moving up to its end
  have hmiddle : ∀ cs, shifted cs ++ [c] = shiftChars (cs ++ [c]) := by
    intro cs
    rw [shiftChars_append_cons hnewline hreturn]
    rfl
  rw [← List.append_left_inj [c], hmiddle, List.append_assoc, List.cons_append,
    shiftChars_append_cons hnewline hreturn, ← hmiddle, List.append_assoc, List.cons_append]

/-- A text in parentheses is moved apart from what stands around it. -/
theorem shiftChars_append_enclosed {p : String} (h : Enclosed p) (before after : List Char) :
    shiftChars (before ++ p.toList ++ after)
      = shifted before ++ shifted p.toList ++ shiftChars after := by
  obtain ⟨cs, hcs⟩ := h.toList_eq
  have hopen : ∀ as bs, shiftChars (as ++ '(' :: bs) = shifted as ++ '(' :: shiftChars bs :=
    shiftChars_append_cons (by decide) (by decide)
  have hclose : ∀ as bs, shiftChars (as ++ ')' :: bs) = shifted as ++ ')' :: shiftChars bs :=
    shiftChars_append_cons (by decide) (by decide)
  have hp : shifted ('(' :: (cs ++ [')'])) = '(' :: (shifted cs ++ [')']) := by
    rw [shifted_cons (by decide) (fun h => absurd h (by decide)),
      shifted_append_cons (by decide) (by decide)]
    rfl
  calc shiftChars (before ++ p.toList ++ after)
      = shiftChars (before ++ '(' :: (cs ++ ')' :: after)) := by rw [hcs]; simp
    _ = shifted before ++ '(' :: (shifted cs ++ ')' :: shiftChars after) := by rw [hopen, hclose]
    _ = shifted before ++ shifted p.toList ++ shiftChars after := by rw [hcs, hp]; simp

/-- Moving the lines of a frame moves those of the texts in its gaps. -/
theorem exists_frame_shiftChars (tail part : String) (frame : List String) :
    ∃ frame' : List String, frame'.length = frame.length + 1 ∧ ∀ p, Enclosed p →
      String.ofList (shiftChars (p.intercalate (part :: frame)).toList) ++ tail
        = (laidOut p).intercalate frame' := by
  induction frame generalizing part with
  | nil =>
    refine ⟨[String.ofList (shiftChars part.toList) ++ tail], rfl, fun p _ => ?_⟩
    rw [String.intercalate_singleton, String.intercalate_singleton]
  | cons next frame ih =>
    obtain ⟨frame', hlength, hframe⟩ := ih next
    have hne : frame' ≠ [] := List.ne_nil_of_length_eq_add_one hlength
    refine ⟨laidOut part :: frame', by rw [List.length_cons, hlength, List.length_cons],
      fun p hp => ?_⟩
    rw [String.intercalate_cons_of_ne_nil hne, ← hframe p hp, String.intercalate_cons_cons,
      String.toList_append, String.toList_append, shiftChars_append_enclosed hp,
        String.ofList_append,
      String.ofList_append, String.append_assoc, String.append_assoc, String.append_assoc]
    rfl

/-- A frame that stands indented on lines of its own, between two texts. -/
theorem Framed.indent {gaps : Nat} {f : String → String} (hf : Framed (gaps + 1) f)
    (before after : String) :
    ∃ g, Framed (gaps + 1) g ∧
      ∀ p, Enclosed p → before ++ Text.indent (f p) ++ after = g (laidOut p) := by
  obtain ⟨frame, hlength, hframe⟩ := hf
  obtain ⟨part, frame, rfl⟩ := List.exists_cons_of_length_eq_add_one hlength
  obtain ⟨next, frame, rfl⟩ := List.exists_cons_of_length_eq_add_one (Nat.succ.inj hlength)
  obtain ⟨frame', hlength', hframe'⟩ := exists_frame_shiftChars ("\n" ++ after) part (next :: frame)
  cases frame' with
  | nil => cases hlength'
  | cons first frame' =>
    refine ⟨fun q => q.intercalate ((before ++ "  " ++ first) :: frame'),
      ⟨(before ++ "  " ++ first) :: frame', hlength'.trans hlength, fun _ => rfl⟩, fun p hp => ?_⟩
    have hne : (f p).toList ≠ [] := by
      obtain ⟨cs, hcs⟩ := hp.toList_eq
      simp [hframe, hcs]
    have hindent : Text.indent (f p) = "  " ++ String.ofList (shiftChars (f p).toList) ++ "\n" := by
      apply String.toList_injective
      rw [Text.indent, String.toList_ofList]
      simpa using indent_eq_shiftChars hne
    dsimp only
    rw [hindent, hframe, String.intercalate_cons_append, ← hframe' p hp]
    simp only [String.append_assoc]

/-! ## Named tables -/

/-- What stands around the body of one of the named tables. -/
theorem exists_definitions_eq (tables tables' : List (String × String)) (name : String) :
    ∃ before after, ∀ body,
      definitions (tables ++ (name, body) :: tables') = before ++ Text.indent body ++ after := by
  induction tables with
  | nil =>
    cases tables' with
    | nil => exact ⟨name ++ " AS (\n", ")\n", fun body => rfl⟩
    | cons table tables' =>
      refine ⟨name ++ " AS (\n", "),\n" ++ definitions (table :: tables'), fun body => ?_⟩
      simp [definitions, String.append_assoc]
  | cons table tables ih =>
    obtain ⟨before, after, hbody⟩ := ih
    refine ⟨table.1 ++ " AS (\n" ++ Text.indent table.2 ++ "),\n" ++ before, after, fun body => ?_⟩
    have hne : tables ++ (name, body) :: tables' ≠ [] := by simp
    rw [List.cons_append, definitions, hbody]
    · simp only [String.append_assoc]
    · exact hne

/-- A statement in which one named table has gaps. -/
theorem Framed.withTables {gaps : Nat} {f : String → String} (hf : Framed (gaps + 1) f)
    (tables tables' : List (String × String)) (name main : String) :
    ∃ g, Framed (gaps + 1) g ∧ ∀ p, Enclosed p →
      Sql.withTables (tables ++ (name, f p) :: tables') main = g (laidOut p) := by
  obtain ⟨before, after, hdefinitions⟩ := exists_definitions_eq tables tables' name
  obtain ⟨g, hg, hindent⟩ := hf.indent ("WITH " ++ before) (after ++ main)
  refine ⟨g, hg, fun p hp => ?_⟩
  rw [← hindent p hp, Sql.withTables, hdefinitions, if_neg (by simp)]
  simp only [String.append_assoc]

/-! ## Alternatives -/

namespace Condition

/-- The condition joins the others by `OR`, in their order and two at a time, with parentheses
around every two. -/
inductive Bracketed : List Condition → Condition → Prop
  | one (c : Condition) : Bracketed [c] c
  | or {cs ds : List Condition} {c d : Condition} (left : Bracketed cs c) (right : Bracketed ds d) :
      Bracketed (cs ++ ds) (.group (.join .or c d))

variable {c d : Condition} {cs : List Condition}

namespace Bracketed

theorem ne_nil (h : Bracketed cs d) : cs ≠ [] := by
  induction h with
  | one c => simp
  | or left right ihl ihr => simp [ihl]

theorem length_pos (h : Bracketed cs d) : 0 < cs.length := List.length_pos_iff.2 h.ne_nil

theorem eq_of_singleton (h : Bracketed cs d) (hcs : cs = [c]) : d = c := by
  cases h with
  | one d => exact (List.cons.inj hcs).1
  | @or cs ds l r left right =>
    have hlength := congrArg List.length hcs
    rw [List.length_append, List.length_singleton] at hlength
    have hl := left.length_pos
    have hr := right.length_pos
    omega

/-- One or two conditions are joined in one way only. -/
theorem eq_joinAll (h : Bracketed cs d) {rest : List Condition} (hcs : cs = c :: rest)
    (hfew : rest.length ≤ 1) : d = joinAll .or c rest := by
  cases h with
  | one d =>
    obtain ⟨rfl, rfl⟩ := List.cons.inj hcs
    rfl
  | @or ls rs l r left right =>
    have hlength := congrArg List.length hcs
    rw [List.length_append, List.length_cons] at hlength
    have hl := left.length_pos
    have hr := right.length_pos
    obtain ⟨a, rfl⟩ := List.length_eq_one_iff.1 (show ls.length = 1 by omega)
    obtain ⟨b, rfl⟩ := List.length_eq_one_iff.1 (show rs.length = 1 by omega)
    rw [left.eq_of_singleton rfl, right.eq_of_singleton rfl]
    obtain ⟨rfl, rfl⟩ := List.cons.inj hcs
    rfl

theorem enclosed (h : Bracketed cs d) (hmany : 2 ≤ cs.length) : Enclosed d.text := by
  cases h with
  | one d => exact absurd hmany (by simp)
  | or left right => exact ⟨_, rfl⟩

end Bracketed

/-! ### How many parentheses -/

theorem length_text_or (c d : Condition) :
    (Condition.join .or c d).text.length = c.text.length + d.text.length + 4 := by
  have hblank : " ".length = 1 := by decide
  have hkeyword : Connective.or.keyword.length = 2 := by decide
  simp only [text, String.length_append, hblank, hkeyword]
  omega

theorem length_text_group (c : Condition) :
    (Condition.group c).text.length = c.text.length + 2 := by
  have hopen : "(".length = 1 := by decide
  have hclose : ")".length = 1 := by decide
  rw [text, String.length_append, String.length_append, hopen, hclose]
  omega

theorem length_text_foldl (c : Condition) (cs : List Condition) :
    (cs.foldl (.join .or) c).text.length + 4
      = ((c :: cs).flatMap fun d => d.text.toList).length + 4 * (cs.length + 1) := by
  induction cs generalizing c with
  | nil => simp [String.length_toList]
  | cons d ds ih =>
    rw [List.foldl_cons, ih, List.flatMap_cons, List.length_append, String.length_toList,
      length_text_or, List.flatMap_cons, List.length_append, String.length_toList,
        List.flatMap_cons, List.length_append,
      String.length_toList, List.length_cons]
    omega

theorem Bracketed.length_text (h : Bracketed cs d) :
    d.text.length + 6 = (cs.flatMap fun c => c.text.toList).length + 6 * cs.length := by
  induction h with
  | one c => simp [String.length_toList]
  | or left right ihl ihr =>
    rw [length_text_group, length_text_or, List.flatMap_append, List.length_append,
      List.length_append]
    omega

/-- Joining two at a time takes a pair of parentheses for each word between two conditions, and
joining all in one go takes one pair. -/
theorem Bracketed.length_text_joinAll {c' : Condition} (h : Bracketed (c :: c' :: cs) d) :
    d.text.length = (joinAll .or c (c' :: cs)).text.length + 2 * cs.length := by
  have hnested := h.length_text
  have hflat := length_text_foldl c (c' :: cs)
  rw [joinAll, if_neg (by simp), length_text_group]
  rw [List.length_cons, List.length_cons] at hnested
  rw [List.length_cons] at hflat
  omega

/-- The text of several alternatives joined in one go. -/
theorem text_joinAll (op : Connective) (c c' : Condition) (cs : List Condition) :
    (joinAll op c (c' :: cs)).text
      = "(" ++ (" " ++ op.keyword ++ " ").intercalate ((c :: c' :: cs).map Condition.text)
        ++ ")" := by
  rw [joinAll, if_neg (by simp), text, text_foldl_join]
  rfl

/-! ### Parentheses at both ends -/

/-- The condition is not two conditions side by side. -/
def solid : Condition → Bool
  | .join _ _ _ => false
  | _ => true

theorem solid_joinAll (op : Connective) (h : c.solid = true) : (joinAll op c cs).solid = true := by
  cases cs with
  | nil => exact h
  | cons d ds => rfl

/-- The text of a column has a first character, and it is no parenthesis. -/
theorem head?_text_append {column : Column} (h : column.readable = true) (rest : String) :
    (column.text ++ rest).toList.head? ≠ some '(' := by
  have hword := column.word h
  obtain ⟨d, ds, hd⟩ := List.exists_cons_of_ne_nil fun hnil =>
    hword.ne_empty (String.toList_eq_nil_iff.1 hnil)
  have hgap := hword.gapless d (by rw [hd]; exact List.mem_cons_self)
  rw [String.toList_append, hd, List.cons_append, List.head?_cons]
  rintro ⟨⟩
  exact absurd hgap.1 (by decide)

/-- A condition that can be read has parentheses at both ends of its text exactly if it is in
parentheses. Of two conditions side by side this is not so: both may be in parentheses. -/
theorem ends_eq_parentheses_iff (h : c.readable = true) (hsolid : c.solid = true) :
    c.text.toList.head? = some '(' ∧ c.text.toList.getLast? = some ')' ↔
      ∃ inner, c = .group inner := by
  constructor
  · rintro ⟨hhead, -⟩
    cases c with
    | truth column =>
      have hcolumn := head?_text_append h ""
      rw [String.append_empty] at hcolumn
      exact absurd hhead hcolumn
    | compare left op right =>
      rw [readable, Bool.and_eq_true] at h
      rw [text, String.append_assoc, String.append_assoc, String.append_assoc] at hhead
      exact absurd hhead (head?_text_append h.1 _)
    | oneOf left choices =>
      rw [text, String.append_assoc, String.append_assoc] at hhead
      exact absurd hhead (head?_text_append h _)
    | verbatim s => cases h
    | join op left right => cases hsolid
    | not inner => simp [text] at hhead
    | group inner => exact ⟨inner, rfl⟩
  · rintro ⟨inner, rfl⟩
    refine ⟨by simp [text], ?_⟩
    rw [text, String.toList_append]
    exact List.getLast?_concat

/-- A text between parentheses, of which it gets no second pair if it has one at its ends. -/
def parenthesized (s : String) : String :=
  if s.toList.head? = some '(' ∧ s.toList.getLast? = some ')' then s else "(" ++ s ++ ")"

/-- Whether a pair of parentheses is missing can be seen from the text. -/
theorem text_grouped (h : c.readable = true) (hsolid : c.solid = true) :
    c.grouped.text = parenthesized c.text := by
  rw [parenthesized]
  split
  · next hends =>
    obtain ⟨inner, rfl⟩ := (ends_eq_parentheses_iff h hsolid).1 hends
    rfl
  · next hends =>
    rw [ends_eq_parentheses_iff h hsolid] at hends
    cases c with
    | group inner => exact absurd ⟨inner, rfl⟩ hends
    | _ => rfl

end Condition

end Broadband.Sql
