import Broadband.Proofs.Numeral
import Broadband.Text.Quoted
import Mathlib.Data.List.Basic

/-!
# Cutting a text outside of literals and parentheses

A comma, a blank or a line feed divides the text of a statement only where it stands in no literal
and in no parentheses. So a text is first taken apart into pieces (`pieces`), where a literal is one
piece, whatever stands in it, and so is a pair of parentheses with all between them; any other
character is a piece of its own. Cutting a text at a character is then cutting the list of its
pieces (`cutAt`).

A text that closes what it opens is `Balanced`, and its pieces do not depend on what follows it
(`pieces_append`). This is what is needed to put a text together from others and to find them again.
-/

namespace Broadband.Sql

/-! ## Pieces -/

/-- Where a reader of a text is: in a literal or not, and in how many parentheses. -/
structure Place where
  quoted : Bool := false
  depth : Nat := 0
  deriving DecidableEq, Repr

/-- The place after a character. Parentheses in a literal are none. -/
def Place.step (p : Place) (c : Char) : Place :=
  if c = '\'' then { p with quoted := !p.quoted }
  else if p.quoted then p
  else if c = '(' then { p with depth := p.depth + 1 }
  else if c = ')' then { p with depth := p.depth - 1 }
  else p

/-- The pieces of a text that goes on at a place; each of them ends where the reader is outside
again. -/
def piecesFrom (p : Place) : List Char → List (List Char)
  | [] => []
  | c :: cs =>
    if p.step c = {} then [c] :: piecesFrom {} cs
    else
      match piecesFrom (p.step c) cs with
      | [] => [[c]]
      | piece :: rest => (c :: piece) :: rest

/-- The pieces of a text. -/
def pieces (s : String) : List (List Char) := piecesFrom {} s.toList

/-- A character that opens or closes neither a literal nor parentheses. -/
def isFree (c : Char) : Bool := c != '\'' && c != '(' && c != ')'

/-- The characters close what they open. -/
inductive Closes : List Char → Prop
  | nil : Closes []
  | char {c : Char} {rest : List Char} : isFree c = true → Closes rest → Closes (c :: rest)
  | literal {content rest : List Char} : '\'' ∉ content → Closes rest →
      Closes ('\'' :: (content ++ '\'' :: rest))
  | group {inner rest : List Char} : Closes inner → Closes rest →
    Closes ('(' :: (inner ++ ')' :: rest))

namespace Place

variable {p : Place} {c : Char}

theorem step_of_isFree (h : isFree c = true) : p.step c = p := by
  simp only [isFree, Bool.and_eq_true, bne_iff_ne] at h
  simp [step, h]

theorem step_quoted (h : c ≠ '\'') (d : Nat) : (Place.mk true d).step c = ⟨true, d⟩ := by
  simp [step, h]

end Place

section

variable {p : Place} {c : Char} {cs rest : List Char}

theorem piecesFrom_of_outside (h : p.step c = {}) :
    piecesFrom p (c :: cs) = [c] :: piecesFrom {} cs := by
  rw [piecesFrom, if_pos h]

/-- A character after which the reader is inside joins the piece that goes on. -/
theorem piecesFrom_of_inside (h : p.step c ≠ {}) {piece : List Char} {more : List (List Char)}
    (hcs : piecesFrom (p.step c) cs = piece :: more) :
    piecesFrom p (c :: cs) = (c :: piece) :: more := by
  rw [piecesFrom, if_neg h, hcs]

/-- Taking a text apart loses nothing. -/
theorem flatten_piecesFrom (p : Place) (cs : List Char) : (piecesFrom p cs).flatten = cs := by
  induction cs generalizing p with
  | nil => rfl
  | cons c cs ih =>
    rw [piecesFrom]
    split
    · rw [List.flatten_cons, ih]
      rfl
    · have hcs := ih (p.step c)
      cases hpieces : piecesFrom (p.step c) cs with
      | nil =>
        rw [hpieces] at hcs
        rw [← hcs]
        rfl
      | cons piece more =>
        rw [hpieces, List.flatten_cons] at hcs
        rw [List.flatten_cons, List.cons_append, hcs]

/-- Inside of a literal everything joins its piece, up to the quote that closes it. -/
theorem piecesFrom_content {content : List Char} (h : '\'' ∉ content) (d : Nat)
    {piece : List Char} {more : List (List Char)}
    (hrest : piecesFrom ⟨true, d⟩ rest = piece :: more) :
    piecesFrom ⟨true, d⟩ (content ++ rest) = (content ++ piece) :: more := by
  induction content with
  | nil => exact hrest
  | cons c content ih =>
    rw [List.mem_cons, not_or] at h
    have hstep := Place.step_quoted (Ne.symm h.1) d
    refine piecesFrom_of_inside (by rw [hstep]; simp) ?_
    rw [hstep]
    exact ih h.2

/-- Inside of parentheses a text that closes what it opens joins their piece. -/
theorem Closes.piecesFrom_inside (h : Closes cs) (d : Nat) {piece : List Char}
    {more : List (List Char)} (hrest : piecesFrom ⟨false, d + 1⟩ rest = piece :: more) :
    piecesFrom ⟨false, d + 1⟩ (cs ++ rest) = (cs ++ piece) :: more := by
  induction h generalizing d rest piece with
  | nil => exact hrest
  | @char c tail hc _ ih =>
    have hstep : (Place.mk false (d + 1)).step c = ⟨false, d + 1⟩ := Place.step_of_isFree hc
    refine piecesFrom_of_inside (by rw [hstep]; simp) ?_
    rw [hstep]
    exact ih d hrest
  | @literal content tail hcontent _ ih =>
    have hclose : piecesFrom ⟨true, d + 1⟩ ('\'' :: (tail ++ rest))
        = ('\'' :: (tail ++ piece)) :: more :=
      piecesFrom_of_inside (by simp [Place.step]) (ih d hrest)
    have hopen := piecesFrom_content hcontent (d + 1) hclose
    rw [List.cons_append, List.append_assoc, List.cons_append, List.cons_append, List.append_assoc,
      List.cons_append]
    exact piecesFrom_of_inside (by simp [Place.step]) hopen
  | @group inner tail _ _ ihinner ihtail =>
    have hclose : piecesFrom ⟨false, d + 2⟩ (')' :: (tail ++ rest))
        = (')' :: (tail ++ piece)) :: more :=
      piecesFrom_of_inside (by simp [Place.step]) (ihtail d hrest)
    have hopen := ihinner (d + 1) hclose
    rw [List.cons_append, List.append_assoc, List.cons_append, List.cons_append, List.append_assoc,
      List.cons_append]
    exact piecesFrom_of_inside (by simp [Place.step]) hopen

theorem piecesFrom_literal {content : List Char} (h : '\'' ∉ content) (rest : List Char) :
    piecesFrom {} ('\'' :: (content ++ '\'' :: rest))
      = ('\'' :: (content ++ ['\''])) :: piecesFrom {} rest := by
  have hclose : piecesFrom ⟨true, 0⟩ ('\'' :: rest) = ['\''] :: piecesFrom {} rest :=
    piecesFrom_of_outside rfl
  exact piecesFrom_of_inside (by simp [Place.step]) (piecesFrom_content h 0 hclose)

theorem piecesFrom_group {inner : List Char} (h : Closes inner) (rest : List Char) :
    piecesFrom {} ('(' :: (inner ++ ')' :: rest))
      = ('(' :: (inner ++ [')'])) :: piecesFrom {} rest := by
  have hclose : piecesFrom ⟨false, 1⟩ (')' :: rest) = [')'] :: piecesFrom {} rest :=
    piecesFrom_of_outside rfl
  exact piecesFrom_of_inside (by simp [Place.step]) (h.piecesFrom_inside 0 hclose)

theorem piecesFrom_isFree (hc : isFree c = true) (rest : List Char) :
    piecesFrom {} (c :: rest) = [c] :: piecesFrom {} rest :=
  piecesFrom_of_outside (Place.step_of_isFree hc)

/-- **Pieces of a text that closes what it opens** do not depend on what follows it. -/
theorem Closes.piecesFrom_append (h : Closes cs) (rest : List Char) :
    piecesFrom {} (cs ++ rest) = piecesFrom {} cs ++ piecesFrom {} rest := by
  induction h with
  | nil => rfl
  | char hc _ ih =>
    rw [List.cons_append, piecesFrom_isFree hc, piecesFrom_isFree hc, ih, List.cons_append]
  | literal hcontent _ ih =>
    rw [List.cons_append, List.append_assoc, List.cons_append, piecesFrom_literal hcontent,
      piecesFrom_literal hcontent, ih, List.cons_append]
  | group hinner _ _ ih =>
    rw [List.cons_append, List.append_assoc, List.cons_append, piecesFrom_group hinner,
      piecesFrom_group hinner, ih, List.cons_append]

/-- A character at the end of such a text is a piece of its own, if it does not close anything
itself. -/
theorem Closes.getLast?_mem (h : Closes cs) {c : Char} (hlast : cs.getLast? = some c)
    (hc : isFree c = true) :
    [c] ∈ piecesFrom {} cs := by
  have hclosed : ∀ d : Char, isFree d = false → d ≠ c := by
    rintro d hd rfl
    rw [hc] at hd
    exact Bool.noConfusion hd
  induction h with
  | nil => exact nomatch hlast
  | @char d rest hd _ ih =>
    rw [piecesFrom_isFree hd]
    cases rest with
    | nil =>
      obtain rfl := Option.some_inj.1 hlast
      exact List.mem_cons_self
    | cons e rest => exact List.mem_cons_of_mem _ (ih (List.getLast?_cons_cons ▸ hlast))
  | @literal content rest hcontent _ ih =>
    rw [piecesFrom_literal hcontent]
    cases rest with
    | nil =>
      rw [← List.cons_append, List.getLast?_concat] at hlast
      exact absurd (Option.some_inj.1 hlast) (hclosed '\'' rfl)
    | cons e rest => exact List.mem_cons_of_mem _ (ih (by simpa [List.getLast?_cons] using hlast))
  | @group inner rest hinner _ _ ih =>
    rw [piecesFrom_group hinner]
    cases rest with
    | nil =>
      rw [← List.cons_append, List.getLast?_concat] at hlast
      exact absurd (Option.some_inj.1 hlast) (hclosed ')' rfl)
    | cons e rest => exact List.mem_cons_of_mem _ (ih (by simpa [List.getLast?_cons] using hlast))

theorem Closes.append {ds : List Char} (h : Closes cs) (h' : Closes ds) : Closes (cs ++ ds) := by
  induction h with
  | nil => exact h'
  | char hc _ ih => exact .char hc ih
  | literal hcontent _ ih =>
    rw [List.cons_append, List.append_assoc, List.cons_append]
    exact .literal hcontent ih
  | group hinner _ _ ih =>
    rw [List.cons_append, List.append_assoc, List.cons_append]
    exact .group hinner ih

theorem closes_of_isFree (h : ∀ c ∈ cs, isFree c = true) : Closes cs := by
  induction cs with
  | nil => exact .nil
  | cons c cs ih =>
    rw [List.forall_mem_cons] at h
    exact .char h.1 (ih h.2)

end

/-- Whether a text closes what it opens is seen from its quotes and parentheses alone. -/
theorem closes_filter_iff {cs : List Char} : Closes (cs.filter (!isFree ·)) ↔ Closes cs := by
  have hfree : ∀ ds : List Char, (∀ d ∈ ds, ¬ (!isFree d) = true) → Closes ds := by
    intro ds h
    exact closes_of_isFree fun d hd => by simpa using h d hd
  constructor
  · intro h
    -- each of the quotes and parentheses stands in the text behind characters that are free
    generalize hds : cs.filter (!isFree ·) = ds at h
    induction h generalizing cs with
    | nil => exact hfree cs (List.filter_eq_nil_iff.1 hds)
    | @char c _ hc _ _ =>
      have hmem : c ∈ cs.filter (!isFree ·) := hds ▸ List.mem_cons_self
      have hkept := (List.mem_filter.1 hmem).2
      rw [hc] at hkept
      exact Bool.noConfusion hkept
    | @literal content rest hcontent _ ih =>
      obtain ⟨before, inner, rfl, hbefore, -, hinner⟩ := List.filter_eq_cons_iff.1 hds
      obtain ⟨start, tail, rfl, hstart, htail⟩ := List.filter_eq_append_iff.1 hinner
      obtain ⟨gap, after, rfl, hgap, -, hafter⟩ := List.filter_eq_cons_iff.1 htail
      have hquote : '\'' ∉ start ++ gap := by
        rw [List.mem_append, not_or]
        refine ⟨fun hmem => hcontent ?_, fun hmem => hgap _ hmem rfl⟩
        rw [← hstart]
        exact List.mem_filter.2 ⟨hmem, rfl⟩
      have hliteral := Closes.literal hquote (ih hafter)
      rw [List.append_assoc] at hliteral
      exact (hfree before hbefore).append hliteral
    | @group inside rest _ _ ihinside ihrest =>
      obtain ⟨before, inner, rfl, hbefore, -, hinner⟩ := List.filter_eq_cons_iff.1 hds
      obtain ⟨start, tail, rfl, hstart, htail⟩ := List.filter_eq_append_iff.1 hinner
      obtain ⟨gap, after, rfl, hgap, -, hafter⟩ := List.filter_eq_cons_iff.1 htail
      have hgroup := Closes.group ((ihinside hstart).append (hfree gap hgap)) (ihrest hafter)
      rw [List.append_assoc] at hgroup
      exact (hfree before hbefore).append hgroup
  · intro h
    induction h with
    | nil => exact .nil
    | char hc _ ih => simpa [hc] using ih
    | @literal content rest hcontent _ ih =>
      have hquote : '\'' ∉ content.filter (!isFree ·) :=
        fun hmem => hcontent (List.mem_filter.1 hmem).1
      simpa [isFree] using Closes.literal hquote ih
    | group _ _ ihinner ihrest => simpa [isFree] using Closes.group ihinner ihrest

/-! ## Items with a separator between them -/

section

variable {P : String → Prop} {separator : String} {items : List String}

/-- What is true of the items, and of two texts with the separator between them if it is of both, is
true of all items with the separator between them. -/
theorem intercalate_of_append (hstep : ∀ s t, P s → P t → P (s ++ separator ++ t)) (hne : items ≠ [])
    (h : ∀ s ∈ items, P s) : P (separator.intercalate items) := by
  induction items with
  | nil => exact absurd rfl hne
  | cons s items ih =>
    obtain ⟨hs, hitems⟩ := List.forall_mem_cons.1 h
    cases items with
    | nil => exact hs
    | cons t items =>
      rw [String.intercalate_cons_cons]
      exact hstep s _ hs (ih (List.cons_ne_nil t items) hitems)

/-- A reader that takes an item from in front of the separator, and knows one that stands alone, finds
all items that have the separator between them. -/
theorem read_intercalate {read : String → List String} (hone : ∀ s, P s → read s = [s])
    (hmore : ∀ s t, P s → read (s ++ separator ++ t) = s :: read t) (hne : items ≠ [])
    (h : ∀ s ∈ items, P s) : read (separator.intercalate items) = items := by
  induction items with
  | nil => exact absurd rfl hne
  | cons s items ih =>
    obtain ⟨hs, hitems⟩ := List.forall_mem_cons.1 h
    cases items with
    | nil => exact hone s hs
    | cons t items =>
      rw [String.intercalate_cons_cons, hmore s _ hs, ih (List.cons_ne_nil t items) hitems]

end

/-! ## Texts that close what they open -/

/-- The text closes every literal and all parentheses that it opens. -/
def Balanced (s : String) : Prop := Closes s.toList

section

variable {s t inner : String}

theorem Balanced.append (hs : Balanced s) (ht : Balanced t) : Balanced (s ++ t) := by
  rw [Balanced, String.toList_append]
  exact Closes.append hs ht

theorem pieces_append (hs : Balanced s) (t : String) : pieces (s ++ t) = pieces s ++ pieces t := by
  rw [pieces, String.toList_append]
  exact Closes.piecesFrom_append hs t.toList

theorem balanced_of_isFree (h : s.toList.all isFree = true) : Balanced s :=
  closes_of_isFree (List.all_eq_true.1 h)

theorem pieces_of_isFree (h : s.toList.all isFree = true) : pieces s = s.toList.map ([·]) := by
  rw [pieces]
  rw [List.all_eq_true] at h
  generalize s.toList = cs at h
  induction cs with
  | nil => rfl
  | cons c cs ih =>
    rw [List.forall_mem_cons] at h
    rw [piecesFrom_isFree h.1, ih h.2, List.map_cons]

theorem notMem_pieces_of_isFree (h : s.toList.all isFree = true) {c : Char} (hc : c ∉ s.toList) :
    [c] ∉ pieces s := by
  rw [pieces_of_isFree h, List.mem_map]
  rintro ⟨d, hd, heq⟩
  obtain rfl : d = c := by simpa using heq
  exact hc hd

theorem balanced_intercalate (hs : Balanced s) {items : List String} (h : ∀ t ∈ items, Balanced t) :
    Balanced (s.intercalate items) := by
  cases items with
  | nil => exact Closes.nil
  | cons t items =>
    have hstep : ∀ a b, Balanced a → Balanced b → Balanced (a ++ s ++ b) :=
      fun _ _ ha hb => (ha.append hs).append hb
    exact intercalate_of_append hstep (List.cons_ne_nil t items) h

theorem toList_parentheses (inner : String) :
    ("(" ++ inner ++ ")").toList = '(' :: (inner.toList ++ ')' :: []) := by
  simp

theorem balanced_parentheses (h : Balanced inner) : Balanced ("(" ++ inner ++ ")") := by
  rw [Balanced, toList_parentheses]
  exact .group h .nil

/-- Parentheses and what is between them are one piece. -/
theorem pieces_parentheses (h : Balanced inner) :
    pieces ("(" ++ inner ++ ")") = [("(" ++ inner ++ ")").toList] := by
  rw [pieces, toList_parentheses, piecesFrom_group h]
  rfl

/-- A quote in a literal is written twice, which closes the literal and opens another one: each of
the pieces starts with a quote. -/
theorem closes_doubleQuotes {content : List Char} (hcontent : '\'' ∉ content) (cs : List Char) :
    Closes ('\'' :: (content ++ (Text.doubleQuotes cs ++ ['\'']))) ∧
      ∀ piece ∈ piecesFrom {} ('\'' :: (content ++ (Text.doubleQuotes cs ++ ['\'']))),
        piece.head? = some '\'' := by
  -- what has been passed of the literal that is open is kept apart
  induction cs generalizing content with
  | nil =>
    refine ⟨.literal hcontent .nil, ?_⟩
    rw [Text.doubleQuotes, List.nil_append, piecesFrom_literal hcontent]
    simp [piecesFrom]
  | cons c cs ih =>
    by_cases hc : c = '\''
    · obtain ⟨hcloses, hpieces⟩ := ih List.not_mem_nil
      rw [List.nil_append] at hcloses hpieces
      rw [Text.doubleQuotes, if_pos hc, List.cons_append, List.cons_append]
      refine ⟨.literal hcontent hcloses, ?_⟩
      rw [piecesFrom_literal hcontent, List.forall_mem_cons]
      exact ⟨rfl, hpieces⟩
    · have hmore : '\'' ∉ content ++ [c] := by simp [hcontent, Ne.symm hc]
      have hrest := ih hmore
      rw [Text.doubleQuotes, if_neg hc]
      rwa [List.append_assoc, List.singleton_append] at hrest

theorem balanced_quoted (s : String) :
    Balanced (Text.quoted s) ∧ ∀ piece ∈ pieces (Text.quoted s), piece.head? = some '\'' := by
  have hlist : (Text.quoted s).toList = '\'' :: ([] ++ (Text.doubleQuotes s.toList ++ ['\''])) := by
    simp [Text.quoted]
  rw [Balanced, pieces, hlist]
  exact closes_doubleQuotes List.not_mem_nil s.toList

end

/-! ## Cutting -/

/-- The parts of a text between the places where a character stands outside of literals and
parentheses. -/
def cutAt (sep : Char) (s : String) : List String :=
  ((pieces s).splitOn [sep]).map fun part => String.ofList part.flatten

section

variable {sep : Char} {divider s : String}

theorem flatten_pieces (s : String) : String.ofList (pieces s).flatten = s := by
  rw [pieces, flatten_piecesFrom, String.ofList_toList]

theorem cutAt_of_notMem (h : [sep] ∉ pieces s) : cutAt sep s = [s] := by
  rw [cutAt, List.splitOn_eq_singleton h, List.map_singleton, flatten_pieces]

theorem pieces_divider (hdivider : divider.toList = [sep]) (hsep : isFree sep = true) :
    Balanced divider ∧ pieces divider = [[sep]] := by
  have hfree : divider.toList.all isFree = true := by simp [hdivider, hsep]
  refine ⟨balanced_of_isFree hfree, ?_⟩
  rw [pieces_of_isFree hfree, hdivider]
  rfl

/-- A text is cut at a divider into the parts before it and the parts behind it. -/
theorem cutAt_append (hdivider : divider.toList = [sep]) (hsep : isFree sep = true)
    (hs : Balanced s) (t : String) :
    cutAt sep (s ++ divider ++ t) = cutAt sep s ++ cutAt sep t := by
  obtain ⟨hbalanced, hpieces⟩ := pieces_divider hdivider hsep
  rw [cutAt, pieces_append (hs.append hbalanced), pieces_append hs, hpieces, List.append_assoc,
    List.singleton_append, List.splitOn_append_cons_self, List.map_append]
  rfl

/-- Putting the parts together again gives the text. -/
theorem intercalate_cutAt (hdivider : divider.toList = [sep]) (s : String) :
    divider.intercalate (cutAt sep s) = s := by
  have hflatten : ∀ parts : List (List (List Char)),
      divider.intercalate (parts.map fun part => String.ofList part.flatten)
        = String.ofList ([[sep]].intercalate parts).flatten := by
    intro parts
    induction parts with
    | nil => rfl
    | cons part parts ih =>
      cases parts with
      | nil => rw [List.map_singleton, String.intercalate_singleton, List.intercalate_singleton]
      | cons next parts =>
        rw [List.map_cons] at ih
        rw [List.map_cons, List.map_cons, String.intercalate_cons_cons, ih,
          List.intercalate_cons_cons]
        apply String.toList_injective
        simp [hdivider]
  rw [cutAt, hflatten, List.intercalate_splitOn, flatten_pieces]

/-- Items that do not have the divider in them are found again between dividers. -/
theorem cutAt_intercalate (hdivider : divider.toList = [sep]) (hsep : isFree sep = true)
    {items : List String} (hne : items ≠ []) (h : ∀ s ∈ items, Balanced s ∧ [sep] ∉ pieces s) :
    cutAt sep (divider.intercalate items) = items := by
  refine read_intercalate (fun s hs => cutAt_of_notMem hs.2) (fun s t hs => ?_) hne h
  rw [cutAt_append hdivider hsep hs.1, cutAt_of_notMem hs.2, List.singleton_append]

end

/-! ## Lists -/

/-- The items of a list, between which a comma and a blank stand. -/
def cutList (s : String) : List String :=
  match cutAt ',' s with
  | [] => []
  | first :: rest => first :: rest.map fun t => String.ofList (t.toList.drop 1)

theorem cutAt_list {s : String} {items : List String}
    (h : ∀ t ∈ s :: items, Balanced t ∧ [','] ∉ pieces t) :
    cutAt ',' (", ".intercalate (s :: items)) = s :: items.map (" " ++ ·) := by
  induction items generalizing s with
  | nil =>
    rw [String.intercalate_singleton, cutAt_of_notMem (h s List.mem_cons_self).2, List.map_nil]
  | cons t items ih =>
    obtain ⟨hs, htail⟩ := List.forall_mem_cons.1 h
    obtain ⟨ht, hitems⟩ := List.forall_mem_cons.1 htail
    -- the blank goes to the item behind it
    have hblank : Balanced " " := balanced_of_isFree (by decide)
    have ht' : Balanced (" " ++ t) ∧ [','] ∉ pieces (" " ++ t) := by
      refine ⟨hblank.append ht.1, ?_⟩
      rw [pieces_append hblank, List.mem_append, not_or]
      exact ⟨by decide, ht.2⟩
    have hlist : ", ".intercalate (s :: t :: items)
        = s ++ "," ++ ", ".intercalate ((" " ++ t) :: items) := by
      rw [String.intercalate_cons_cons, String.intercalate_cons_append]
      apply String.toList_injective
      simp
    rw [hlist, cutAt_append rfl (by decide) hs.1, cutAt_of_notMem hs.2,
      ih (List.forall_mem_cons.2 ⟨ht', hitems⟩)]
    rfl

theorem cutList_intercalate {items : List String} (hne : items ≠ [])
    (h : ∀ t ∈ items, Balanced t ∧ [','] ∉ pieces t) :
    cutList (", ".intercalate items) = items := by
  obtain ⟨s, items, rfl⟩ := List.exists_cons_of_ne_nil hne
  have hdrop : ∀ t : String, String.ofList ((" " ++ t).toList.drop 1) = t := by
    intro t
    simp
  rw [cutList, cutAt_list h]
  dsimp only
  rw [List.map_map]
  exact congrArg (s :: ·) (List.map_id'' hdrop items)

/-! ## Words -/

/-- The parts of a text between a word that stands between two characters of a kind. -/
def cutAtWord (sep : Char) (word s : String) : List String :=
  ((cutAt sep s).splitOn word).map (String.singleton sep).intercalate

section

variable {sep : Char} {word separator s : String}

theorem toList_divider (sep : Char) : (String.singleton sep).toList = [sep] := by simp

theorem cutAtWord_of_notMem (h : word ∉ cutAt sep s) : cutAtWord sep word s = [s] := by
  rw [cutAtWord, List.splitOn_eq_singleton h, List.map_singleton,
    intercalate_cutAt (toList_divider sep)]

/-- A text is cut at a word into the part before it and the parts behind it. -/
theorem cutAtWord_append (hsep : isFree sep = true)
    (hseparator : String.singleton sep ++ word ++ String.singleton sep = separator)
    (hword : Balanced word ∧ [sep] ∉ pieces word) (hs : Balanced s ∧ word ∉ cutAt sep s)
    (t : String) :
    cutAtWord sep word (s ++ separator ++ t) = s :: cutAtWord sep word t := by
  have htext : s ++ separator ++ t
      = s ++ String.singleton sep ++ (word ++ String.singleton sep ++ t) := by
    rw [← hseparator]
    simp only [String.append_assoc]
  have hdivider := toList_divider sep
  rw [cutAtWord, htext, cutAt_append hdivider hsep hs.1, cutAt_append hdivider hsep hword.1,
    cutAt_of_notMem hword.2, List.singleton_append, List.splitOn_append_cons_self_of_not_mem hs.2,
    List.map_cons, intercalate_cutAt hdivider]
  rfl

/-- Items that do not have the word in them are found again between the words. -/
theorem cutAtWord_intercalate (hsep : isFree sep = true)
    (hseparator : String.singleton sep ++ word ++ String.singleton sep = separator)
    (hword : Balanced word ∧ [sep] ∉ pieces word) {items : List String} (hne : items ≠ [])
    (h : ∀ s ∈ items, Balanced s ∧ word ∉ cutAt sep s) :
    cutAtWord sep word (separator.intercalate items) = items :=
  read_intercalate (fun _ hs => cutAtWord_of_notMem hs.2)
    (fun _ t hs => cutAtWord_append hsep hseparator hword hs t) hne h

end

/-- The words of a text: what stands between blanks. -/
def words (s : String) : List String := cutAt ' ' s

/-- The conditions that are joined by `AND`. -/
def conjuncts (s : String) : List String := cutAtWord ' ' "AND" s

section

variable {s : String}

theorem words_append (hs : Balanced s) (t : String) : words (s ++ " " ++ t) = words s ++ words t :=
  cutAt_append rfl rfl hs t

theorem conjuncts_intercalate {items : List String} (hne : items ≠ [])
    (h : ∀ s ∈ items, Balanced s ∧ "AND" ∉ words s) :
    conjuncts (" AND ".intercalate items) = items :=
  cutAtWord_intercalate rfl rfl ⟨balanced_of_isFree rfl, by decide⟩ hne h

end

/-- A character that divides nothing, and opens and closes nothing. -/
def isTight (c : Char) : Bool := isFree c && c != ',' && c != ' ' && c != '\n'

section

variable {s : String}

theorem isFree_of_isTight (h : s.toList.all isTight = true) : s.toList.all isFree = true := by
  rw [List.all_eq_true] at h ⊢
  intro c hc
  have htight := h c hc
  simp only [isTight, Bool.and_eq_true] at htight
  exact htight.1.1.1

theorem notMem_pieces_of_isTight (h : s.toList.all isTight = true) {c : Char}
    (hc : isTight c = false) :
    [c] ∉ pieces s := by
  refine notMem_pieces_of_isFree (isFree_of_isTight h) fun hmem => ?_
  rw [List.all_eq_true.1 h c hmem] at hc
  exact Bool.noConfusion hc

theorem isTight_toString (n : Int) : (toString n).toList.all isTight = true := by
  rw [List.all_eq_true]
  intro c hc
  rcases Text.isDigit_of_mem_toString_int hc with rfl | hdigit
  · rfl
  · rw [isTight, isFree]
    simp only [Bool.and_eq_true, bne_iff_ne]
    refine ⟨⟨⟨⟨⟨?_, ?_⟩, ?_⟩, ?_⟩, ?_⟩, ?_⟩ <;> rintro rfl <;> exact absurd hdigit (by decide)

end

end Broadband.Sql
