import Broadband.Compile
import Broadband.Proofs.Query.RoundTrip
import Broadband.Proofs.Token.Decomposition

/-!
# Layout

Which blanks stand between the lexemes of a text does not matter. A text is laid out anew if its
lexemes stay and the blanks between them change: some are left where there were some, and new ones
may come anywhere, also where two lexemes touched (`Decomposition.Relaid`). What has to be shown is
that no lexeme is then read differently, although the lexer looks at up to two characters behind a
lexeme to see whether it goes on. A blank is never such a character. And where two lexemes touch as
before, the characters that the lexer looks at are those of the second lexeme, with one exception: a
lone `g` behind a `5`. There the lexer has looked past it, but a number ends in front of a word only
if that word goes on, so the word is longer than that.

The parser never asks where a token stands, so what follows from the tokens is the same query or the
same complaint (`Parser.State.run_unplaced`).
-/

namespace Broadband

open Text (isBlank isDigit)

/-! ## Lexemes and what follows them -/

namespace Lexeme

variable {kind kind' : Token.Kind} {text text' : String} {w v rest tail tail' : List Char}

theorem Spells.ne_nil (h : Spells kind text w) : w ≠ [] := by
  cases h with
  | operator op => cases op <;> decide
  | number hne _ => exact hne
  | keyword _ hword _ => exact hword.ne_nil
  | identifier hword _ => exact hword.ne_nil
  | _ => exact List.cons_ne_nil _ _

/-- The letter of a generation, where it is a lexeme of its own, is a word. -/
theorem Spells.kind_of_letter {g : Char} (h : Spells kind text [g]) (hg : g = 'g' ∨ g = 'G') :
    kind = .keyword ∨ kind = .identifier := by
  generalize hw : [g] = w at h
  cases h with
  | keyword => exact .inl rfl
  | identifier => exact .inr rfl
  | number _ hdigits =>
    have hdigit := hdigits g (hw ▸ List.mem_singleton_self g)
    rcases hg with rfl | rfl <;> cases hdigit
  | operator op => rcases hg with rfl | rfl <;> cases op <;> cases hw
  | generation => cases hw
  | string => simp at hw
  | _ => rcases hg with rfl | rfl <;> cases hw

/-- Whether a lexeme is cut short by the one that touches it does not depend on what comes after
that. -/
theorem Maximal.of_touching (h : Maximal kind w (v ++ tail)) (hnext : Spells kind' text' v)
    (hnextMax : Maximal kind' v tail) : Maximal kind w (v ++ tail') := by
  obtain ⟨c, cs, rfl⟩ := List.exists_cons_of_ne_nil hnext.ne_nil
  cases kind with
  | number =>
    refine ⟨h.1, ?_⟩
    intro d g rest hsingle hrest hgeneration
    obtain ⟨rfl, rfl⟩ := List.cons.inj hrest
    obtain ⟨e, he, hword⟩ := h.2 d c (cs ++ tail) hsingle rfl hgeneration
    cases cs with
    | nil =>
      -- the second lexeme would be a word that goes on
      have hend : ∀ e ∈ tail.head?, isWordChar e = false := by
        rcases hnext.kind_of_letter hgeneration.2 with rfl | rfl
        · exact hnextMax
        · exact hnextMax
      rw [hend e he] at hword
      cases hword
    | cons f cs => exact ⟨e, he, hword⟩
  | _ => exact h

end Lexeme

/-! ## Texts laid out anew -/

namespace Decomposition

/-- The same lexemes with other blanks: some are left where there were some. -/
inductive Relaid : Decomposition → Decomposition → Prop
  | ending {trail trail' : List Char} : Blanks trail' → Relaid (.ending trail) (.ending trail')
  | lexeme {gap gap' w : List Char} {kind : Token.Kind} {text : String}
    {rest rest' : Decomposition} :
      Blanks gap' → (gap ≠ [] → gap' ≠ []) → Relaid rest rest' →
        Relaid (.lexeme gap w kind text rest) (.lexeme gap' w kind text rest')

theorem apart_of_blanks {gap : List Char} (h : Blanks gap) (hne : gap ≠ []) (cs : List Char) :
    Apart (gap ++ cs) := by
  obtain ⟨c, gap, rfl⟩ := List.exists_cons_of_ne_nil hne
  rintro d ⟨⟩
  exact h c List.mem_cons_self

/-- **One lexeme.** It is not cut short where it was not before. -/
theorem Relaid.maximal {d d' : Decomposition} (h : d.Relaid d') (hd : d.Faithful)
    {kind : Token.Kind} {w : List Char} (hmax : Lexeme.Maximal kind w d.chars) :
    Lexeme.Maximal kind w d'.chars := by
  cases h with
  | ending htrail' => exact Lexeme.maximal_of_apart fun c hc => htrail' c (List.mem_of_mem_head? hc)
  | @lexeme gap gap' v kind' text rest rest' hgap' hkeep hrest =>
    by_cases hne : gap' = []
    · have hnone : gap = [] := by
        by_contra hgap
        exact hkeep hgap hne
      cases hd with
      | lexeme _ hspells hmax' _ =>
        rw [chars, hnone, List.nil_append] at hmax
        rw [chars, hne, List.nil_append]
        exact hmax.of_touching hspells hmax'
    · exact Lexeme.maximal_of_apart (apart_of_blanks hgap' hne _)

/-- **All lexemes.** A text laid out anew is made of the same lexemes. -/
theorem Relaid.faithful {d d' : Decomposition} (h : d.Relaid d') (hd : d.Faithful) :
    d'.Faithful := by
  induction h with
  | ending htrail' => exact .ending htrail'
  | lexeme hgap' _ hrelaid ih =>
    cases hd with
    | lexeme _ hspells hmax hrest =>
      exact .lexeme hgap' hspells (hrelaid.maximal hrest hmax) (ih hrest)

theorem Relaid.unplaced_tokens {d d' : Decomposition} (h : d.Relaid d') (p p' : Position) :
    (d'.tokens p').map Token.unplaced = (d.tokens p).map Token.unplaced := by
  induction h generalizing p p' with
  | ending _ => rfl
  | lexeme _ _ _ ih =>
    rw [tokens, tokens, List.map_cons, List.map_cons, ih]
    rfl

end Decomposition

/-- The second text is the first laid out anew: their lexemes are the same. -/
def Relaid (s s' : String) : Prop :=
  ∃ d d' : Decomposition, d.Faithful ∧ d.text = s ∧ d.Relaid d' ∧ d'.text = s'

theorem tokenize_of_relaid {s s' : String} {ts : List Token} (h : tokenize s = .ok ts)
    (hlayout : Relaid s s') :
    ∃ ts', tokenize s' = .ok ts' ∧ ts'.map Token.unplaced = ts.map Token.unplaced := by
  obtain ⟨d, d', hd, rfl, hrelaid, rfl⟩ := hlayout
  rw [tokenize_of_faithful hd] at h
  obtain rfl := Except.ok.inj h
  exact ⟨d'.tokens {}, tokenize_of_faithful (hrelaid.faithful hd), hrelaid.unplaced_tokens {} {}⟩

/-! ## The parser without places -/

/-- The error without the place of its token. -/
def SyntaxError.unplaced (e : SyntaxError) : SyntaxError := { e with found := e.found.unplaced }

theorem Parser.Expectation.message_unplaced (x : Parser.Expectation) (t : Token) :
    x.message t.unplaced = x.message t := by
  have hfound : t.unplaced.describe = t.describe := rfl
  unfold Parser.Expectation.message
  rw [hfound]

theorem SyntaxError.message_unplaced (e : SyntaxError) : e.unplaced.message = e.message := by
  obtain ⟨complaint, found⟩ := e
  cases complaint with
  | expected x => exact x.message_unplaced found
  | invalidNumber => rfl

namespace Parser

theorem State.complaint_unplaced (s : State) (t : Token) :
    s.complaint t.unplaced = s.complaint t := by
  cases s <;> rfl

theorem State.finish_unplaced (s : State) (t : Token) :
    s.finish t.unplaced = (s.finish t).mapError SyntaxError.unplaced := by
  rw [State.finish, State.finish]
  cases s.query? with
  | some q => rfl
  | none => rw [State.complaint_unplaced]; rfl

/-- **A whole run.** Tokens without their places lead to the same query, or to the same error
without its place. -/
theorem State.run_unplaced (stop : Token) (s : State) (ts : List Token) :
    State.run stop.unplaced s (ts.map Token.unplaced)
      = (State.run stop s ts).mapError SyntaxError.unplaced := by
  induction ts generalizing s with
  | nil => exact s.finish_unplaced stop
  | cons t ts ih =>
    rw [List.map_cons, State.run, State.run]
    by_cases hend : t.kind = .endOfText
    · rw [if_pos hend, if_pos (show t.unplaced.kind = .endOfText from hend), State.finish_unplaced]
    · rw [if_neg hend, if_neg (show ¬ t.unplaced.kind = .endOfText from hend), State.next?_unplaced,
        State.complaint_unplaced]
      cases s.next? t with
      | some u => exact ih u
      | none => rfl

end Parser

theorem Query.ofTokens_unplaced {ts ts' : List Token}
    (h : ts'.map Token.unplaced = ts.map Token.unplaced) :
    (Query.ofTokens ts').mapError SyntaxError.unplaced
      = (Query.ofTokens ts).mapError SyntaxError.unplaced := by
  -- behind the tokens the text ends, wherever that may be
  have hstop : ∀ us, (Token.endAfter us).unplaced = ⟨.endOfText, "", {}⟩ := by
    intro us
    rw [Token.endAfter]
    cases us.getLast? <;> rfl
  rw [Query.ofTokens, Query.ofTokens, ← Parser.State.run_unplaced, ← Parser.State.run_unplaced, h,
    hstop, hstop]

/-! ## The main statement -/

/-- What is wrong, without where. -/
def CompileError.message : CompileError → String
  | .text (.lexical e) => e.message
  | .text (.syntactic e) => e.message
  | .rejected r => r.message

/-- **Layout does not matter.** A text that is laid out anew has the same tokens at other places. So
it has the same statement, or it is refused with an error of the same kind that says the same of
another place. -/
theorem compile_of_relaid {s s' : String} {ts : List Token} (h : tokenize s = .ok ts)
    (hlayout : Relaid s s') :
    (∃ ts', tokenize s' = .ok ts' ∧ ts'.map Token.unplaced = ts.map Token.unplaced) ∧
      ∀ o : Options,
        (∃ sql, compile s o = .ok sql ∧ compile s' o = .ok sql) ∨
          ∃ e e', compile s o = .error e ∧ compile s' o = .error e' ∧ e'.kind = e.kind ∧
            e'.message = e.message := by
  obtain ⟨ts', h', htokens⟩ := tokenize_of_relaid h hlayout
  refine ⟨⟨ts', h', htokens⟩, fun o => ?_⟩
  have hparse := Query.ofTokens_unplaced htokens
  rw [compile, compile, Query.parse, Query.parse, h, h']
  dsimp only
  cases hquery : Query.ofTokens ts with
  | error e =>
    rw [hquery] at hparse
    cases hquery' : Query.ofTokens ts' with
    | error e' =>
      rw [hquery'] at hparse
      have herror : e'.unplaced = e.unplaced := Except.error.inj hparse
      refine .inr ⟨.text (.syntactic e), .text (.syntactic e'), rfl, rfl, rfl, ?_⟩
      rw [CompileError.message, CompileError.message, ← e'.message_unplaced, herror,
        e.message_unplaced]
    | ok q' => rw [hquery'] at hparse; cases hparse
  | ok q =>
    rw [hquery] at hparse
    cases hquery' : Query.ofTokens ts' with
    | error e' => rw [hquery'] at hparse; cases hparse
    | ok q' =>
      rw [hquery'] at hparse
      obtain rfl : q' = q := Except.ok.inj hparse
      dsimp only
      cases q'.toSql o with
      | error r => exact .inr ⟨.rejected r, .rejected r, rfl, rfl, rfl, rfl⟩
      | ok sql => exact .inl ⟨sql, rfl, rfl⟩

/-- A query whose lexemes touch wherever they can. -/
def Decomposition.compact : Decomposition :=
  .lexeme [] ['H', 'A', 'S'] .keyword "HAS" <| .lexeme [] ['('] .openParen "(" <|
  .lexeme [] ['5', 'g'] .identifier "5g" <| .lexeme [] [')'] .closeParen ")" <|
  .lexeme [] ['C', 'O', 'U', 'N', 'T'] .keyword "COUNT" <|
  .lexeme [' '] ['h', 'u', 's'] .identifier "hus" <| .ending []

/-- The same query with blanks of many kinds. -/
def Decomposition.roomy : Decomposition :=
  .lexeme [' '] ['H', 'A', 'S'] .keyword "HAS" <| .lexeme ['\n'] ['('] .openParen "(" <|
  .lexeme [' '] ['5', 'g'] .identifier "5g" <| .lexeme ['\t'] [')'] .closeParen ")" <|
  .lexeme [' '] ['C', 'O', 'U', 'N', 'T'] .keyword "COUNT" <|
  .lexeme ['\u3000'] ['h', 'u', 's'] .identifier "hus" <| .ending ['\r', '\n']

theorem compile_roomy :
    Relaid "HAS(5g)COUNT hus" " HAS\n( 5g\t) COUNT\u3000hus\r\n" ∧
      ∃ sql, compile "HAS(5g)COUNT hus" { year := some 2024 } = .ok sql ∧
        compile " HAS\n( 5g\t) COUNT\u3000hus\r\n" { year := some 2024 } = .ok sql := by
  have hfaithful : Decomposition.compact.Faithful := by decide +kernel
  have hrelaid : Decomposition.compact.Relaid .roomy :=
    .lexeme (by decide) (by decide) <| .lexeme (by decide) (by decide) <|
      .lexeme (by decide) (by decide) <| .lexeme (by decide) (by decide) <|
      .lexeme (by decide) (by decide) <| .lexeme (by decide) (by decide) <| .ending (by decide)
  have hlayout : Relaid "HAS(5g)COUNT hus" " HAS\n( 5g\t) COUNT\u3000hus\r\n" :=
    ⟨.compact, .roomy, hfaithful, rfl, hrelaid, rfl⟩
  have htokens : tokenize "HAS(5g)COUNT hus" = .ok (Decomposition.compact.tokens {}) :=
    tokenize_of_faithful hfaithful
  obtain ⟨sql, hsql⟩ : ∃ sql, compile "HAS(5g)COUNT hus" { year := some 2024 } = .ok sql := by
    rw [compile, Query.parse, htokens]
    exact ⟨_, rfl⟩
  refine ⟨hlayout, ?_⟩
  rcases (compile_of_relaid htokens hlayout).2 { year := some 2024 } with h | ⟨e, e', herror, -⟩
  · exact h
  · rw [hsql] at herror
    cases herror

end Broadband
