import Broadband.Proofs.Token.Decomposition

/-!
# Where a cursor stands

A cursor counts bytes, lines and columns as it goes, one character at a time. What it should have counted
can be said of the characters behind it all at once (`Position.behind`): how long they are in UTF-8, how many
line feeds are among them, and how many characters come after the last of these.

A cursor may be asked for tokens as often as one likes, also after a fault and at the end of the text. What a
call can do is said once, in `Answer`: blanks are skipped, some characters are taken, and the answer carries
the place between the two. From this one step it follows for every number of calls that the characters
behind the cursor and those ahead of it are the text, and that it has counted right.
-/

namespace Broadband

open Text (isBlank isDigit)

/-! ## Places by what is behind them -/

/-- A text takes the bytes of its first character and those of the rest. -/
theorem utf8ByteSize_ofList_cons (c : Char) (cs : List Char) :
    (String.ofList (c :: cs)).utf8ByteSize = c.utf8Size + (String.ofList cs).utf8ByteSize := by
  have hsplit : String.ofList (c :: cs) = String.singleton c ++ String.ofList cs := by
    rw [String.singleton_eq_ofList, ← String.ofList_append, List.singleton_append]
  rw [hsplit, String.utf8ByteSize_append, String.utf8ByteSize_singleton]

namespace Position

/-- The place behind some characters at the start of a text. -/
def behind (passed : List Char) : Position where
  offset := (String.ofList passed).utf8ByteSize
  line := 1 + passed.count '\n'
  column := 1 + (passed.reverse.takeWhile (· ≠ '\n')).length

theorem advance_behind (passed : List Char) (c : Char) :
    (behind passed).advance c = behind (passed ++ [c]) := by
  have hoffset : (String.ofList (passed ++ [c])).utf8ByteSize
      = (String.ofList passed).utf8ByteSize + c.utf8Size := by
    rw [String.ofList_append, String.utf8ByteSize_append, ← String.singleton_eq_ofList,
      String.utf8ByteSize_singleton]
  rw [advance]
  by_cases hc : c = '\n'
  · simp only [if_pos hc, behind, hoffset]
    simp [hc, Nat.add_assoc]
  · simp only [if_neg hc, behind, hoffset]
    simp [hc, Nat.add_comm]

/-- Counting one character after the other gives the place behind all of them. -/
theorem advanceBy_behind (passed cs : List Char) :
    (behind passed).advanceBy cs = behind (passed ++ cs) := by
  induction cs generalizing passed with
  | nil => rw [List.append_nil]; rfl
  | cons c cs ih =>
    calc (behind passed).advanceBy (c :: cs)
        = ((behind passed).advance c).advanceBy cs := rfl
      _ = behind (passed ++ [c] ++ cs) := by rw [advance_behind, ih]
      _ = behind (passed ++ c :: cs) := by rw [List.append_assoc, List.singleton_append]

/-- Every character takes at least one byte. -/
theorem offset_behind_lt (passed : List Char) {cs : List Char} (h : cs ≠ []) :
    (behind passed).offset < (behind (passed ++ cs)).offset := by
  obtain ⟨c, cs, rfl⟩ := List.exists_cons_of_ne_nil h
  have hc := c.utf8Size_pos
  simp only [behind, String.ofList_append, String.utf8ByteSize_append, utf8ByteSize_ofList_cons]
  omega

theorem offset_behind_le (passed cs : List Char) :
    (behind passed).offset ≤ (behind (passed ++ cs)).offset := by
  simp only [behind, String.ofList_append, String.utf8ByteSize_append]
  omega

end Position

/-! ## What a call answers -/

namespace Lexeme

/-- No quote closes the string that is open. -/
def Unclosed (quote : Char) (cs : List Char) : Prop :=
  ∀ inside text rest, Decodes quote inside text → cs ≠ inside ++ quote :: rest

theorem unclosed_of_stringBody {quote : Char} {cs : List Char} (hquote : quote ≠ '\\')
    (h : stringBody quote cs = none) : Unclosed quote cs := by
  rintro inside text rest hdecodes rfl
  rw [stringBody_of_decodes hquote hdecodes] at h
  cases h

/-- A text that cannot be read starts with a string that does not end, or with a character that starts
no lexeme. -/
theorem cases_of_fault {cs : List Char} {cause : Cause} (h : read cs = .fault cause) :
    ∃ c rest, cs = c :: rest ∧
      ((c = '"' ∨ c = '\'') ∧ Unclosed c rest ∧ cause = .unterminated ∨
        ¬ (c = '"' ∨ c = '\'') ∧ cause = .unexpected c) := by
  cases cs with
  | nil => cases h
  | cons c rest =>
    refine ⟨c, rest, rfl, ?_⟩
    by_cases hquote : c = '"' ∨ c = '\''
    · refine .inl ⟨hquote, ?_⟩
      cases hbody : stringBody c rest with
      | none =>
        have hbackslash : c ≠ '\\' := by rcases hquote with rfl | rfl <;> decide
        refine ⟨unclosed_of_stringBody hbackslash hbody, ?_⟩
        rcases hquote with rfl | rfl <;> simp_all [read]
      | some body => rcases hquote with rfl | rfl <;> simp_all [read]
    · refine .inr ⟨hquote, ?_⟩
      -- a word is always a token, so only the last branch is left
      have hword : ∀ w cause, ofWord w ≠ .fault cause := by
        intro w cause
        simp only [ofWord]
        split <;> exact Reading.noConfusion
      rw [read] at h
      grind

end Lexeme

/-- What a call makes of the characters behind the blanks: which of them it takes, which it leaves, and what
it answers if they start at a place. -/
inductive Answer (p : Position) : (taken left : List Char) → Except LexicalError Token → Prop
  /-- A lexeme that is not cut short is taken. -/
  | token {kind : Token.Kind} {text : String} {w left : List Char} :
      Lexeme.Spells kind text w → Lexeme.Maximal kind w left → Answer p w left (.ok ⟨kind, text, p⟩)
  | ending : Answer p [] [] (.ok ⟨.endOfText, "", p⟩)
  /-- A character that starts no lexeme stays where it is. -/
  | unexpected {c : Char} {left : List Char} : isBlank c = false → ¬ (c = '"' ∨ c = '\'') →
      (∀ kind text n, ¬ Lexeme.Stands (c :: left) kind text n) →
        Answer p [] (c :: left) (.error ⟨.unexpected c, p⟩)
  /-- A string that does not end takes all that follows. -/
  | unterminated {quote : Char} {inside : List Char} : quote = '"' ∨ quote = '\'' →
      Lexeme.Unclosed quote inside → Answer p (quote :: inside) [] (.error ⟨.unterminated, p⟩)

namespace Cursor

/-- **One call.** Blanks are skipped, and what stands behind them is answered at its first character. -/
theorem next_answer (cur : Cursor) :
    ∃ gap taken left : List Char, cur.rest = gap ++ (taken ++ left) ∧ Blanks gap ∧
      Answer (cur.position.advanceBy gap) taken left cur.next.1 ∧
      cur.next.2 = ⟨left, (cur.position.advanceBy gap).advanceBy taken⟩ := by
  obtain ⟨cs, p⟩ := cur
  -- the blanks ahead and what follows them
  obtain ⟨gap, tail, hgap, htail, rfl⟩ : ∃ gap tail, gap = cs.takeWhile isBlank ∧
      tail = cs.dropWhile isBlank ∧ cs = gap ++ tail :=
    ⟨_, _, rfl, rfl, List.takeWhile_append_dropWhile.symm⟩
  have hblanks : Blanks gap := by
    rw [hgap]
    exact fun c hc => List.mem_takeWhile_imp hc
  have hstop : ∀ c ∈ tail.head?, isBlank c = false := by
    rw [htail]
    exact Lexeme.head?_dropWhile
  have hskip : (Cursor.mk (gap ++ tail) p).skipBlanks = ⟨tail, p.advanceBy gap⟩ := by
    simp [skipBlanks, skip, ← hgap]
  rw [next, hskip]
  dsimp only
  cases hread : Lexeme.read tail with
  | nothing =>
    obtain rfl := Lexeme.eq_nil_of_read hread
    exact ⟨gap, [], [], rfl, hblanks, .ending, rfl⟩
  | lexeme kind text n =>
    obtain ⟨w, left, rfl, rfl, hspells, hmax⟩ := Lexeme.read_eq_lexeme_iff.1 hread
    refine ⟨gap, w, left, rfl, hblanks, .token hspells hmax, ?_⟩
    simp [skip]
  | fault cause =>
    obtain ⟨c, left, rfl, ⟨hquote, hunclosed, rfl⟩ | ⟨hquote, rfl⟩⟩ := Lexeme.cases_of_fault hread
    · refine ⟨gap, c :: left, [], by rw [List.append_nil], hblanks, .unterminated hquote hunclosed, ?_⟩
      simp [skip]
    · refine ⟨gap, [], c :: left, rfl, hblanks, .unexpected (hstop c rfl) hquote ?_, rfl⟩
      intro kind text n hstands
      rw [Lexeme.read_eq_lexeme_iff.2 hstands] at hread
      cases hread

/-! ## One call after the other -/

/-- The cursor after a number of calls. -/
def after : Nat → Cursor → Cursor
  | 0, cur => cur
  | n + 1, cur => after n cur.next.2

/-- The answer to a call, of which the first has the number 0. -/
def call (n : Nat) (cur : Cursor) : Except LexicalError Token := (cur.after n).next.1

theorem after_add (m n : Nat) (cur : Cursor) : cur.after (m + n) = (cur.after m).after n := by
  induction m generalizing cur with
  | zero => rw [Nat.zero_add]; rfl
  | succ m ih => rw [Nat.succ_add]; exact ih cur.next.2

theorem after_succ (n : Nat) (cur : Cursor) : cur.after (n + 1) = (cur.after n).next.2 := after_add n 1 cur

theorem call_add (m n : Nat) (cur : Cursor) : cur.call (m + n) = (cur.after m).call n := by
  rw [call, after_add, call]

/-- The answers are those that are listed. -/
theorem outcomes_eq (n : Nat) (cur : Cursor) : cur.outcomes n = (List.range n).map cur.call := by
  induction n generalizing cur with
  | zero => rfl
  | succ n ih =>
    rw [outcomes, ih, List.range_succ_eq_map, List.map_cons, List.map_map]
    refine congrArg _ (List.map_congr_left fun k _ => ?_)
    rw [Function.comp_apply, Nat.succ_eq_one_add, call_add]
    rfl

/-- The cursor stands behind some characters of a text. -/
def StandsIn (chars : List Char) (cur : Cursor) (passed : List Char) : Prop :=
  chars = passed ++ cur.rest ∧ cur.position = .behind passed

/-- A call answers the place behind the blanks and moves the cursor on. -/
theorem StandsIn.next {chars passed : List Char} {cur : Cursor} (h : cur.StandsIn chars passed) :
    ∃ gap taken left : List Char, cur.rest = gap ++ (taken ++ left) ∧ Blanks gap ∧
      Answer (.behind (passed ++ gap)) taken left cur.next.1 ∧ cur.next.2.rest = left ∧
      cur.next.2.StandsIn chars (passed ++ gap ++ taken) := by
  obtain ⟨hchars, hposition⟩ := h
  obtain ⟨gap, taken, left, hrest, hgap, hanswer, hnext⟩ := cur.next_answer
  rw [hposition, Position.advanceBy_behind] at hanswer hnext
  rw [Position.advanceBy_behind] at hnext
  refine ⟨gap, taken, left, hrest, hgap, hanswer, by rw [hnext], ?_, by rw [hnext]⟩
  rw [hchars, hrest, hnext]
  simp only [List.append_assoc]

/-- **Any number of calls.** The cursor has passed some characters and counted them right. -/
theorem exists_standsIn (s : String) (n : Nat) :
    ∃ passed, ((ofText s).after n).StandsIn s.toList passed := by
  induction n with
  | zero => exact ⟨[], rfl, rfl⟩
  | succ n ih =>
    obtain ⟨passed, h⟩ := ih
    obtain ⟨gap, taken, left, -, -, -, -, hnext⟩ := h.next
    rw [after_succ]
    exact ⟨_, hnext⟩

/-- Later calls only go on. -/
theorem StandsIn.after {chars passed : List Char} {cur : Cursor} (h : cur.StandsIn chars passed) (n : Nat) :
    ∃ more, (cur.after n).StandsIn chars (passed ++ more) := by
  induction n with
  | zero => exact ⟨[], by rwa [List.append_nil]⟩
  | succ n ih =>
    obtain ⟨more, hmore⟩ := ih
    obtain ⟨gap, taken, left, -, -, -, -, hnext⟩ := hmore.next
    rw [after_succ]
    exact ⟨more ++ gap ++ taken, by simpa only [List.append_assoc] using hnext⟩

end Cursor

namespace Answer

variable {p : Position} {taken left : List Char} {t : Token}

/-- A token stands at its place. -/
theorem position_eq (h : Answer p taken left (.ok t)) : t.position = p := by
  cases h <;> rfl

/-- A token other than the end takes characters. -/
theorem taken_ne_nil (h : Answer p taken left (.ok t)) (ht : t.kind ≠ .endOfText) : taken ≠ [] := by
  cases h with
  | token hspells hmax =>
    exact List.ne_nil_of_length_pos (Lexeme.length_pos (Lexeme.read_of_spells hspells hmax))
  | ending => exact absurd rfl ht

/-- At the end of the text nothing is left. -/
theorem eq_nil_of_ending (h : Answer p taken left (.ok t)) (ht : t.kind = .endOfText) :
    taken = [] ∧ left = [] := by
  cases h with
  | token hspells hmax => exact absurd ht hspells.kind_ne_endOfText
  | ending => exact ⟨rfl, rfl⟩

end Answer

/-! ## Offsets of tokens -/

namespace Cursor

/-- The end of the text is at its end. -/
theorem position_of_ending {s : String} {n : Nat} {t : Token} (h : (ofText s).call n = .ok t)
    (ht : t.kind = .endOfText) : t.position = .behind s.toList := by
  obtain ⟨passed, hstands⟩ := exists_standsIn s n
  obtain ⟨gap, taken, left, hrest, -, hanswer, -, -⟩ := hstands.next
  rw [call] at h
  rw [h] at hanswer
  obtain ⟨rfl, rfl⟩ := hanswer.eq_nil_of_ending ht
  rw [hanswer.position_eq, hstands.1, hrest, List.append_nil, List.append_nil]

/-- What comes later stands further on, if a token has been taken before it. -/
theorem offset_lt_of_call {s : String} {m n : Nat} {t u : Token} (hmn : m < n)
    (ht : (ofText s).call m = .ok t) (hu : (ofText s).call n = .ok u) (hkind : t.kind ≠ .endOfText) :
    t.position.offset < u.position.offset := by
  obtain ⟨passed, hstands⟩ := exists_standsIn s m
  obtain ⟨gap, taken, left, -, -, hanswer, -, hnext⟩ := hstands.next
  rw [call] at ht hu
  rw [ht] at hanswer
  -- the later call starts at the earliest behind what was taken for the token
  obtain ⟨k, rfl⟩ := Nat.exists_eq_add_of_lt hmn
  rw [Nat.add_right_comm, after_add, after_succ] at hu
  obtain ⟨more, hlater⟩ := hnext.after k
  obtain ⟨gap', taken', left', -, -, hanswer', -, -⟩ := hlater.next
  rw [hu] at hanswer'
  rw [hanswer.position_eq, hanswer'.position_eq]
  calc (Position.behind (passed ++ gap)).offset
      < (Position.behind (passed ++ gap ++ taken)).offset :=
        Position.offset_behind_lt _ (hanswer.taken_ne_nil hkind)
    _ ≤ (Position.behind (passed ++ gap ++ taken ++ (more ++ gap'))).offset := Position.offset_behind_le _ _
    _ = (Position.behind (passed ++ gap ++ taken ++ more ++ gap')).offset := by
        rw [List.append_assoc (_ ++ taken)]

/-- Tokens are answered one after the other, and none before the last is the end of the text. -/
theorem call_of_tokens {cur : Cursor} {ts : List Token} (h : cur.tokens = .ok ts) :
    ∀ k (hk : k < ts.length), cur.call k = .ok (ts.get ⟨k, hk⟩) ∧
      (k + 1 < ts.length → (ts.get ⟨k, hk⟩).kind ≠ .endOfText) := by
  fun_induction Cursor.tokens cur generalizing ts with
  | case1 cur e after hnext => cases h
  | case2 cur t after hnext hend =>
    obtain rfl := Except.ok.inj h
    intro k hk
    obtain rfl : k = 0 := by simpa using hk
    exact ⟨congrArg Prod.fst hnext, fun hlast => absurd hlast (by simp)⟩
  | case3 cur t after hnext hend ih =>
    obtain ⟨us, hus, rfl⟩ := Checks.map_eq_ok_iff.1 h
    intro k hk
    cases k with
    | zero => exact ⟨congrArg Prod.fst hnext, fun _ => hend⟩
    | succ k =>
      obtain ⟨hcall, hkind⟩ := ih hus k (by simpa using hk)
      have hafter : cur.call (k + 1) = cur.next.2.call k := rfl
      rw [hnext] at hafter
      exact ⟨hafter.trans hcall, fun hlast => hkind (by simpa using hlast)⟩

end Cursor

/-- Offsets increase along the tokens of a text. -/
theorem pairwise_offset_of_tokenize {s : String} {ts : List Token} (h : tokenize s = .ok ts) :
    ts.Pairwise fun t u => t.position.offset < u.position.offset := by
  rw [List.pairwise_iff_getElem]
  intro i j hi hj hij
  obtain ⟨hti, hkind⟩ := Cursor.call_of_tokens h i hi
  obtain ⟨htj, -⟩ := Cursor.call_of_tokens h j hj
  exact Cursor.offset_lt_of_call hij hti htj (hkind (by omega))

/-! ## The main statement -/

/-- **Places are right at every call.** However often a cursor has been asked, the text is made of what it
has passed and what it will answer next: blanks, what is taken for the answer, and what is left. Its place is
the one behind the characters that it has passed, before the call and after it, and the answer carries the
place of the first character that it is about, be it a token, a string without an end or a character that
starts no lexeme. The end of the text is behind all characters. Later tokens have larger offsets. -/
theorem calls_placed (s : String) :
    (∀ n, ∃ passed gap taken left : List Char, s.toList = passed ++ gap ++ taken ++ left ∧ Blanks gap ∧
      (Cursor.ofText s).after n = ⟨gap ++ taken ++ left, .behind passed⟩ ∧
      (Cursor.ofText s).after (n + 1) = ⟨left, .behind (passed ++ gap ++ taken)⟩ ∧
      Answer (.behind (passed ++ gap)) taken left ((Cursor.ofText s).call n)) ∧
    (∀ n t, (Cursor.ofText s).call n = .ok t → t.kind = .endOfText → t.position = .behind s.toList) ∧
    (∀ m n t u, m < n → (Cursor.ofText s).call m = .ok t → (Cursor.ofText s).call n = .ok u →
      t.kind ≠ .endOfText → t.position.offset < u.position.offset) ∧
    ∀ ts, tokenize s = .ok ts → ts.Pairwise fun t u => t.position.offset < u.position.offset := by
  refine ⟨fun n => ?_, fun n t => Cursor.position_of_ending,
    fun m n t u hmn ht hu => Cursor.offset_lt_of_call hmn ht hu, fun ts => pairwise_offset_of_tokenize⟩
  obtain ⟨passed, hstands⟩ := Cursor.exists_standsIn s n
  obtain ⟨gap, taken, left, hrest, hgap, hanswer, hleft, hnext⟩ := hstands.next
  refine ⟨passed, gap, taken, left, ?_, hgap, ?_, ?_, hanswer⟩
  · rw [hstands.1, hrest]
    simp only [List.append_assoc]
  · rw [List.append_assoc, ← hrest, ← hstands.2]
  · rw [Cursor.after_succ, ← hleft, ← hnext.2]

/-- A string over two lines with a letter of two bytes, a word, and a string that does not end: asked for a
fifth time, the cursor still answers the end of the text. -/
theorem calls_placed_overLines :
    (Cursor.ofText "'ø\n' x\n \"y").outcomes 4 =
      [.ok ⟨.string, "ø\n", ⟨0, 1, 1⟩⟩, .ok ⟨.identifier, "x", ⟨6, 2, 3⟩⟩,
       .error ⟨.unterminated, ⟨9, 3, 2⟩⟩, .ok ⟨.endOfText, "", ⟨11, 3, 4⟩⟩] ∧
    (Cursor.ofText "'ø\n' x\n \"y").call 4 = .ok ⟨.endOfText, "", .behind "'ø\n' x\n \"y".toList⟩ ∧
    (0 : Nat) < 6 := by
  obtain ⟨-, hend, hlater, -⟩ := calls_placed "'ø\n' x\n \"y"
  have hlast : (Cursor.ofText "'ø\n' x\n \"y").call 4 = .ok ⟨.endOfText, "", ⟨11, 3, 4⟩⟩ := by decide +kernel
  refine ⟨by decide +kernel, ?_, ?_⟩
  · rw [← hend 4 _ hlast rfl]
    exact hlast
  · exact hlater 0 1 ⟨.string, "ø\n", ⟨0, 1, 1⟩⟩ ⟨.identifier, "x", ⟨6, 2, 3⟩⟩ (by decide) (by decide +kernel)
      (by decide +kernel) (by decide)

end Broadband
