import Broadband.Proofs.Token.Places

/-!
# Tokens come to an end

Asking a cursor for tokens either makes progress or brings it to rest. A token other than the end of the text
takes characters, of which there are only so many. Whatever else is answered, the cursor does not move any
more after it (`Cursor.Rests`): at the end of the text, in front of a character that starts no lexeme, and
behind a string that does not end. Only the last of these changes its answer, once, from the fault to the end
of the text.

So a run of calls has one form (`Cursor.Settles`): tokens, no more than the text has characters, then an
answer that is none, and then one answer for ever. The tokens of a text are found within such a run, which is
why looking for them comes to an end.
-/

namespace Broadband

open Text (isBlank)

/-- What starts no lexeme and no string is read as an unexpected character. -/
theorem Lexeme.read_of_not_stands {c : Char} {left : List Char} (hquote : ¬ (c = '"' ∨ c = '\''))
    (h : ∀ kind text n, ¬ Stands (c :: left) kind text n) : read (c :: left) = .fault (.unexpected c) := by
  cases hread : read (c :: left) with
  | nothing => exact absurd (eq_nil_of_read hread) (List.cons_ne_nil _ _)
  | lexeme kind text n => exact absurd (read_eq_lexeme_iff.1 hread) (h kind text n)
  | fault cause =>
    obtain ⟨d, rest, heq, ⟨hd, -⟩ | ⟨-, rfl⟩⟩ := cases_of_fault hread
    · obtain ⟨rfl, -⟩ := List.cons.inj heq
      exact absurd hd hquote
    · obtain ⟨rfl, -⟩ := List.cons.inj heq
      rfl

namespace Cursor

/-! ## Cursors at rest -/

/-- The cursor gives this answer and does not move. -/
def Rests (cur : Cursor) (answer : Except LexicalError Token) : Prop := cur.next = (answer, cur)

section

variable {cur : Cursor} {answer : Except LexicalError Token}

theorem Rests.after (h : cur.Rests answer) (n : Nat) : cur.after n = cur := by
  induction n with
  | zero => rfl
  | succ n ih => rw [after_succ, ih, h]

theorem Rests.call (h : cur.Rests answer) (n : Nat) : cur.call n = answer := by
  rw [Cursor.call, h.after, h]

theorem Rests.outcomes (h : cur.Rests answer) (n : Nat) : cur.outcomes n = List.replicate n answer := by
  rw [outcomes_eq, List.map_congr_left fun k _ => h.call k, List.map_const', List.length_range]

/-- A cursor that has come to rest gives the same answer ever after. -/
theorem call_of_rests {n m : Nat} (h : (cur.after n).next.2.Rests answer) (hm : n < m) :
    cur.call m = answer := by
  obtain ⟨k, rfl⟩ := Nat.exists_eq_add_of_lt hm
  rw [Nat.add_right_comm, call_add, after_succ]
  exact h.call k

/-- Nothing is left to be asked for. -/
theorem rests_at_end (p : Position) : (Cursor.mk [] p).Rests (.ok ⟨.endOfText, "", p⟩) :=
  next_of_blanks (List.forall_mem_nil _) p

theorem rests_of_ending {t : Token} (h : cur.next.1 = .ok t) (ht : t.kind = .endOfText) :
    cur.next.2.Rests (.ok t) := by
  obtain ⟨gap, taken, left, -, -, hanswer, hnext⟩ := cur.next_answer
  rw [h] at hanswer
  rw [hnext]
  cases hanswer with
  | token hspells _ => exact absurd ht hspells.kind_ne_endOfText
  | ending => exact rests_at_end _

theorem rests_of_unexpected {c : Char} {p : Position} (h : cur.next.1 = .error ⟨.unexpected c, p⟩) :
    cur.next.2.Rests (.error ⟨.unexpected c, p⟩) := by
  obtain ⟨gap, taken, left, -, -, hanswer, hnext⟩ := cur.next_answer
  rw [h] at hanswer
  rw [hnext]
  cases hanswer with
  | @unexpected _ left hblank hquote hstands =>
    -- no blank is ahead any more, so the character is looked at again
    have htake : (c :: left).takeWhile isBlank = [] := by rw [List.takeWhile_cons, hblank]; rfl
    simp only [Rests, next, skipBlanks, htake, skip, List.length_nil, List.drop_zero, List.take_zero,
      Lexeme.read_of_not_stands hquote hstands]
    rfl

theorem rests_of_unterminated {p : Position} (h : cur.next.1 = .error ⟨.unterminated, p⟩) :
    cur.next.2.rest = [] ∧ cur.next.2.Rests (.ok ⟨.endOfText, "", cur.next.2.position⟩) := by
  obtain ⟨gap, taken, left, -, -, hanswer, hnext⟩ := cur.next_answer
  rw [h] at hanswer
  rw [hnext]
  cases hanswer with
  | unterminated _ _ => exact ⟨rfl, rests_at_end _⟩

end

/-! ## Runs of calls -/

/-- The form of a run of calls, and of the tokens that are found in it. -/
structure Settles (cur : Cursor) (ts : List Token) (first last : Except LexicalError Token) : Prop where
  lexemes : ∀ t ∈ ts, t.kind ≠ .endOfText
  /-- There is no more than one token for each character. -/
  few : ts.length ≤ cur.rest.length
  /-- The first answer that is no token is the end of the text or a fault. -/
  stop : ∀ t, first = .ok t → t.kind = .endOfText
  /-- It is the last one as well, unless it is a string that does not end. -/
  tail : last = first ∨
    (∃ p, first = .error ⟨.unterminated, p⟩) ∧ ∃ t, last = .ok t ∧ t.kind = .endOfText
  calls : ∀ n, cur.outcomes (ts.length + 1 + n) = ts.map .ok ++ first :: List.replicate n last
  tokens : cur.tokens = first.map (ts ++ [·])

theorem settles_of_rests {cur : Cursor} {first last : Except LexicalError Token} (hfirst : cur.next.1 = first)
    (hlast : cur.next.2.Rests last) (hstop : ∀ t, first = .ok t → t.kind = .endOfText)
    (htail : last = first ∨
      (∃ p, first = .error ⟨.unterminated, p⟩) ∧ ∃ t, last = .ok t ∧ t.kind = .endOfText)
    (htokens : cur.tokens = first.map fun t => [t]) : cur.Settles [] first last where
  lexemes := List.forall_mem_nil _
  few := Nat.zero_le _
  stop := hstop
  tail := htail
  calls n := by
    rw [List.length_nil, Nat.zero_add, Nat.add_comm, outcomes, hfirst, hlast.outcomes]
    rfl
  tokens := htokens

/-- Another token in front of a run. -/
theorem Settles.cons {cur after : Cursor} {t : Token} {ts : List Token}
    {first last : Except LexicalError Token} (h : after.Settles ts first last)
    (hnext : cur.next = (.ok t, after)) (ht : t.kind ≠ .endOfText) : cur.Settles (t :: ts) first last where
  lexemes := List.forall_mem_cons.2 ⟨ht, h.lexemes⟩
  few := h.few.trans_lt (next_rest_lt hnext ht)
  stop := h.stop
  tail := h.tail
  calls n := by
    rw [List.length_cons, Nat.add_right_comm, Nat.add_right_comm _ 1 n, outcomes, hnext, Nat.add_right_comm,
      h.calls]
    rfl
  tokens := by
    rw [tokens_of_next hnext ht, h.tokens]
    cases first <;> rfl

/-- **Every run settles.** Each token takes characters, so the run gets to an answer that is none. -/
theorem exists_settles (cur : Cursor) : ∃ ts first last, cur.Settles ts first last := by
  fun_induction Cursor.tokens cur with
  | case1 cur e after hnext =>
    obtain ⟨cause, p⟩ := e
    have hfirst : cur.next.1 = .error ⟨cause, p⟩ := congrArg Prod.fst hnext
    have hstop : ∀ t, (.error ⟨cause, p⟩ : Except LexicalError Token) = .ok t → t.kind = .endOfText := by
      rintro _ ⟨⟩
    cases cause with
    | unexpected c =>
      exact ⟨[], _, _, settles_of_rests hfirst (rests_of_unexpected hfirst) hstop (.inl rfl)
        (tokens_of_error hnext)⟩
    | unterminated =>
      exact ⟨[], _, _, settles_of_rests hfirst (rests_of_unterminated hfirst).2 hstop
        (.inr ⟨⟨p, rfl⟩, _, rfl, rfl⟩) (tokens_of_error hnext)⟩
  | case2 cur t after hnext hend =>
    have hfirst : cur.next.1 = .ok t := congrArg Prod.fst hnext
    refine ⟨[], _, _, settles_of_rests hfirst (rests_of_ending hfirst hend) ?_ (.inl rfl)
      (tokens_of_end hnext hend)⟩
    rintro _ ⟨⟩
    exact hend
  | case3 cur t after hnext hend ih =>
    obtain ⟨ts, first, last, h⟩ := ih
    exact ⟨t :: ts, first, last, h.cons hnext hend⟩

/-- A token takes at least one character behind the blanks. -/
theorem exists_taken {cur : Cursor} {t : Token} (h : cur.next.1 = .ok t) (ht : t.kind ≠ .endOfText) :
    ∃ taken, taken ≠ [] ∧ cur.rest.dropWhile isBlank = taken ++ cur.next.2.rest := by
  obtain ⟨gap, taken, left, hrest, hgap, hanswer, hnext⟩ := cur.next_answer
  rw [h] at hanswer
  refine ⟨taken, hanswer.taken_ne_nil ht, ?_⟩
  rw [hrest, hnext]
  cases hanswer with
  | token hspells hmax => exact dropWhile_isBlank_of_read hgap (Lexeme.read_of_spells hspells hmax)
  | ending => exact absurd rfl ht

end Cursor

/-! ## The main statement -/

/-- **Calls make progress and settle.** At any number of calls to a text: an answer is a token, for which at
least one character is taken behind the blanks, or the end of the text, or a fault of one of the two kinds.
The end of the text is answered ever after, and so is an unexpected character; a string that does not end is
followed by the end of the text, which is at its end, ever after. So a run is made of tokens, no more than
there are characters, of one other answer, and of a last one that does not change; and the tokens of the text
are those of the run, with its first other answer. -/
theorem calls_settle (s : String) :
    (∀ n, (∃ t taken, (Cursor.ofText s).call n = .ok t ∧ t.kind ≠ .endOfText ∧ taken ≠ [] ∧
        ((Cursor.ofText s).after n).rest.dropWhile isBlank = taken ++ ((Cursor.ofText s).after (n + 1)).rest) ∨
      (∃ p, (Cursor.ofText s).call n = .ok ⟨.endOfText, "", p⟩) ∨
      (∃ c p, (Cursor.ofText s).call n = .error ⟨.unexpected c, p⟩) ∨
      ∃ p, (Cursor.ofText s).call n = .error ⟨.unterminated, p⟩) ∧
    (∀ n t, (Cursor.ofText s).call n = .ok t → t.kind = .endOfText →
      ∀ m, n < m → (Cursor.ofText s).call m = .ok t) ∧
    (∀ n c p, (Cursor.ofText s).call n = .error ⟨.unexpected c, p⟩ →
      ∀ m, n < m → (Cursor.ofText s).call m = .error ⟨.unexpected c, p⟩) ∧
    (∀ n p, (Cursor.ofText s).call n = .error ⟨.unterminated, p⟩ →
      ∀ m, n < m → (Cursor.ofText s).call m = .ok ⟨.endOfText, "", .behind s.toList⟩) ∧
    ∃ ts first last, (Cursor.ofText s).Settles ts first last := by
  refine ⟨fun n => ?_, fun n t h ht m => Cursor.call_of_rests (Cursor.rests_of_ending h ht),
    fun n c p h m => Cursor.call_of_rests (Cursor.rests_of_unexpected h), fun n p h m hm => ?_,
    Cursor.exists_settles _⟩
  · obtain ⟨gap, taken, left, -, -, hanswer, -⟩ := ((Cursor.ofText s).after n).next_answer
    cases hcall : (Cursor.ofText s).call n with
    | error e =>
      obtain ⟨cause, p⟩ := e
      cases cause with
      | unexpected c => exact .inr (.inr (.inl ⟨c, p, rfl⟩))
      | unterminated => exact .inr (.inr (.inr ⟨p, rfl⟩))
    | ok t =>
      by_cases ht : t.kind = .endOfText
      · rw [← Cursor.call, hcall] at hanswer
        cases hanswer with
        | token hspells _ => exact absurd ht hspells.kind_ne_endOfText
        | ending => exact .inr (.inl ⟨_, rfl⟩)
      · obtain ⟨taken, hne, htaken⟩ := Cursor.exists_taken hcall ht
        rw [← Cursor.after_succ] at htaken
        exact .inl ⟨t, taken, rfl, ht, hne, htaken⟩
  · obtain ⟨hrest, hrests⟩ := Cursor.rests_of_unterminated h
    -- with nothing left, the cursor stands behind the whole text
    obtain ⟨passed, hchars, hposition⟩ := Cursor.exists_standsIn s (n + 1)
    rw [Cursor.after_succ] at hchars hposition
    rw [hrest, List.append_nil] at hchars
    rw [Cursor.call_of_rests hrests hm, hposition, hchars]

/-- A character that starts no lexeme is answered for ever, and a string that does not end only once. -/
theorem calls_settle_atFaults :
    (Cursor.ofText "a\n%b").call 1 = .error ⟨.unexpected '%', ⟨2, 2, 1⟩⟩ ∧
    (Cursor.ofText "a\n%b").call 1000 = .error ⟨.unexpected '%', ⟨2, 2, 1⟩⟩ ∧
    (Cursor.ofText "a 'æ").call 1 = .error ⟨.unterminated, ⟨2, 1, 3⟩⟩ ∧
    (Cursor.ofText "a 'æ").call 1000 = .ok ⟨.endOfText, "", ⟨5, 1, 5⟩⟩ := by
  have hunexpected : (Cursor.ofText "a\n%b").call 1 = .error ⟨.unexpected '%', ⟨2, 2, 1⟩⟩ := by decide +kernel
  have hunterminated : (Cursor.ofText "a 'æ").call 1 = .error ⟨.unterminated, ⟨2, 1, 3⟩⟩ := by decide +kernel
  have hplace : Position.behind "a 'æ".toList = ⟨5, 1, 5⟩ := by decide +kernel
  refine ⟨hunexpected, ?_, hunterminated, ?_⟩
  · exact (calls_settle "a\n%b").2.2.1 1 _ _ hunexpected 1000 (by decide)
  · rw [(calls_settle "a 'æ").2.2.2.1 1 _ hunterminated 1000 (by decide), hplace]

end Broadband
