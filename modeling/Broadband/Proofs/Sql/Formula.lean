import Broadband.Proofs.Numeral
import Broadband.Proofs.Query.Grammar
import Broadband.Proofs.Sql.Marks
import Broadband.Token.Lexer

/-!
# Reading conditions

How a reader of SQL takes the text of a condition: it is cut into symbols, and the symbols are put
together by the usual precedence, `NOT` before `AND` before `OR`, both of which join to the left.
What comes out is a `Formula` over atomic comparisons, and a formula has a truth value for every
assignment of truth values to its atoms.

The precedence is said twice. `Spelled` is the grammar, as a relation between symbols and formulas;
`formula?` is a reader that keeps what is unfinished, one level for each open
parenthesis. The reader follows every derivation
(`formulaOf?_of_spelled`), so whatever text the grammar gives a formula is read as that formula and as
no other.
-/

namespace Broadband

/-- The truth value of two that are joined. -/
def Connective.holds : Connective → Bool → Bool → Bool
  | .and => (· && ·)
  | .or => (· || ·)

namespace Sql

open Grammar (Rank)

/-! ## Formulas -/

/-- What a column is compared with: a constant, or what a name stands for. -/
inductive Term
  | number (n : Int)
  | text (s : String)
  | name (s : String)
  deriving DecidableEq, Repr

/-- An atomic comparison. -/
structure Atom where
  column : String
  op : Comparison
  value : Term
  deriving DecidableEq, Repr

/-- A condition without its text. -/
inductive Formula
  | atom (atom : Atom)
  | join (op : Connective) (left right : Formula)
  | not (inner : Formula)
  deriving DecidableEq, Repr

/-- The truth value of a formula, given those of its atoms. -/
def Formula.holds (v : Atom → Bool) : Formula → Bool
  | .atom a => v a
  | .join op left right => op.holds (left.holds v) (right.holds v)
  | .not inner => !inner.holds v

/-! ## Symbols -/

/-- The symbols of a condition. -/
inductive Symbol
  | openParen
  | closeParen
  | not
  | connective (op : Connective)
  | operator (op : Comparison)
  | term (term : Term)
  deriving DecidableEq, Repr

/-- A letter or an underscore, and then letters, digits, underscores and points. -/
def isName : List Char → Bool
  | [] => false
  | c :: cs => (c.isAlpha || c == '_') && cs.all fun d => isWordChar d || d == '.'

/-- The text is a name without points. -/
structure Identifier (s : String) : Prop where
  name : isName s.toList = true
  single : '.' ∉ s.toList

instance (s : String) : Decidable (Identifier s) :=
  decidable_of_iff (isName s.toList = true ∧ '.' ∉ s.toList)
    ⟨fun h => ⟨h.1, h.2⟩, fun h => ⟨h.1, h.2⟩⟩

/-- The symbol that a name is: one of three keywords, in any case, or a name. -/
def Symbol.ofName (cs : List Char) : Symbol :=
  let capitals := String.ofList (cs.map Char.toUpper)
  if capitals = "AND" then .connective .and
  else if capitals = "OR" then .connective .or
  else if capitals = "NOT" then .not
  else .term (.name (String.ofList cs))

/-- The symbol that characters without a gap are. -/
def Symbol.ofRun? (cs : List Char) : Option Symbol :=
  if isName cs then some (.ofName cs)
  else match Comparison.ofSymbol? (String.ofList cs) with
    | some op => some (.operator op)
    | none => (Text.integer? (String.ofList cs)).map fun n => .term (.number n)

/-- A character of a name or of a number. -/
def isWordPart (c : Char) : Bool := isWordChar c || c == '.' || c == '-'

/-- A character of a comparison. -/
def isOperatorPart (c : Char) : Bool := c == '=' || c == '<' || c == '>' || c == '!'

/-- What a character that belongs to no run is: a gap or a parenthesis. -/
def punctuation? (c : Char) : Option (List Symbol) :=
  if c.isWhitespace then some []
  else if c = '(' then some [.openParen]
  else if c = ')' then some [.closeParen]
  else none

/-- The character goes on with the run, which is given in reverse. -/
def continues (c : Char) : List Char → Bool
  | [] => false
  | d :: _ => (isWordPart d && isWordPart c) || (isOperatorPart d && isOperatorPart c)

/-- The symbols that a finished run is. -/
def ofRun? (run : List Char) : Option (List Symbol) :=
  if run.isEmpty then some [] else (Symbol.ofRun? run.reverse).map ([·])

/-- The symbols of marks, of which the last run so far is given in reverse. A literal directly behind
a word is no text. -/
def symbolsFrom : List Char → List Mark → Option (List Symbol)
  | run, [] => ofRun? run
  | run, .char c :: ms =>
    if continues c run then symbolsFrom (c :: run) ms
    else do
      let done ← ofRun? run
      if isWordPart c || isOperatorPart c then (symbolsFrom [c] ms).map (done ++ ·)
      else do
        let mark ← punctuation? c
        (symbolsFrom [] ms).map (done ++ mark ++ ·)
  | run, .literal content :: ms =>
    if run.any isWordPart then none
    else do
      let done ← ofRun? run
      (symbolsFrom [] ms).map (done ++ .term (.text (String.ofList content)) :: ·)
  | _, .unclosed _ :: _ => none

/-! ## Precedence -/

/-- The symbols spell the formula, of which the outermost word binds at least as tightly as the rank
says. -/
inductive Spelled : Rank → List Symbol → Formula → Prop
  | atom (column : String) (op : Comparison) (value : Term) :
      Spelled .operand [.term (.name column), .operator op, .term value] (.atom ⟨column, op, value⟩)
  | not {ss : List Symbol} {f : Formula} (inner : Spelled .operand ss f) :
      Spelled .operand (.not :: ss) (.not f)
  | paren {ss : List Symbol} {f : Formula} (inner : Spelled .choice ss f) :
      Spelled .operand (.openParen :: (ss ++ [.closeParen])) f
  | operand {ss : List Symbol} {f : Formula} (only : Spelled .operand ss f) : Spelled .term ss f
  | and {ss ts : List Symbol} {f g : Formula} (left : Spelled .term ss f)
      (right : Spelled .operand ts g) :
      Spelled .term (ss ++ .connective .and :: ts) (.join .and f g)
  | term {ss : List Symbol} {f : Formula} (only : Spelled .term ss f) : Spelled .choice ss f
  | or {ss ts : List Symbol} {f g : Formula} (left : Spelled .choice ss f)
      (right : Spelled .term ts g) :
      Spelled .choice (ss ++ .connective .or :: ts) (.join .or f g)

/-- Whatever binds tightly may stand where a choice may. -/
theorem Spelled.choice {rank : Rank} {ss : List Symbol} {f : Formula} (h : Spelled rank ss f) :
    Spelled .choice ss f := by
  cases rank with
  | choice => exact h
  | term => exact .term h
  | operand => exact .term (.operand h)

/-! ## The reader -/

/-- What is open at one depth of parentheses: the terms in front of the last `OR`, the operands
between it and the last `AND`, and how many `NOT`s stand behind that. -/
structure Level where
  choice : Option Formula := none
  term : Option Formula := none
  negations : Nat := 0
  deriving DecidableEq, Repr

/-- A formula joined to the one in front of it, if there is one. -/
def Formula.after (op : Connective) (f : Formula) : Option Formula → Formula
  | none => f
  | some left => .join op left f

/-- A formula under several `NOT`s. -/
def Formula.negate : Nat → Formula → Formula
  | 0, f => f
  | n + 1, f => negate n (.not f)

/-- The term that an operand completes. -/
def Level.fill (l : Level) (f : Formula) : Formula := (f.negate l.negations).after .and l.term

/-- How far a formula has been read; the levels around the innermost one are listed from the inside. -/
inductive Reader
  /-- An operand is due. -/
  | operand (level : Level) (outer : List Level)
  /-- A column has been named, and a comparison is due. -/
  | operator (level : Level) (outer : List Level) (column : String)
  /-- The value that the column is compared with is due. -/
  | value (level : Level) (outer : List Level) (column : String) (op : Comparison)
  /-- A term is complete as far as it has been read, behind the terms of a choice. -/
  | complete (choice : Option Formula) (term : Formula) (outer : List Level)
  deriving DecidableEq, Repr

namespace Reader

/-- The step for a symbol. -/
def next? : Reader → Symbol → Option Reader
  | .operand l outer, .not => some (.operand { l with negations := l.negations + 1 } outer)
  | .operand l outer, .openParen => some (.operand {} (l :: outer))
  | .operand l outer, .term (.name column) => some (.operator l outer column)
  | .operator l outer column, .operator op => some (.value l outer column op)
  | .value l outer column op, .term x =>
    some (.complete l.choice (l.fill (.atom ⟨column, op, x⟩)) outer)
  | .complete choice f outer, .connective .and => some (.operand ⟨choice, some f, 0⟩ outer)
  | .complete choice f outer, .connective .or =>
    some (.operand ⟨some (f.after .or choice), none, 0⟩ outer)
  | .complete choice f (l :: outer), .closeParen =>
    some (.complete l.choice (l.fill (f.after .or choice)) outer)
  | _, _ => none

/-- The formula that has been read, if no parenthesis is open. -/
def formula? : Reader → Option Formula
  | .complete choice f [] => some (f.after .or choice)
  | _ => none

/-- The reader after the symbols, unless one of them cannot stand where it does. -/
def after? (r : Reader) (ss : List Symbol) : Option Reader := ss.foldlM next? r

end Reader

/-- The formula of symbols. -/
def formulaOf? (ss : List Symbol) : Option Formula :=
  ((Reader.operand {} []).after? ss).bind Reader.formula?

/-- The formula of a text, all of which is read. -/
def formula? (s : String) : Option Formula := (symbolsFrom [] (read s)).bind formulaOf?

-- `NOT` binds tighter than `AND` and `AND` than `OR`; a quote in a text is written twice
example : formula? "a = 1 OR NOT b != 'it''s' AND c >= -2" = some
    (.join .or (.atom ⟨"a", .eq, .number 1⟩)
      (.join .and (.not (.atom ⟨"b", .ne, .text "it's"⟩)) (.atom ⟨"c", .ge, .number (-2)⟩))) := by
  decide +kernel

/-! ### The reader follows every derivation -/

namespace Reader

theorem after?_cons {r u v : Reader} {s : Symbol} {ss : List Symbol} (h : r.next? s = some u)
    (hss : u.after? ss = some v) : r.after? (s :: ss) = some v := by
  rw [after?, List.foldlM_cons, h]
  exact hss

theorem after?_append {r u v : Reader} {ss ts : List Symbol} (h : r.after? ss = some u)
    (hts : u.after? ts = some v) : r.after? (ss ++ ts) = some v := by
  rw [after?] at h
  rw [after?, List.foldlM_append, h]
  exact hts

/-- Where the symbols of a formula lead, by how tightly it binds: an operand may stand behind `NOT` and
`AND`, a term behind `OR` only, and a choice where a formula starts. -/
def Leads (ss : List Symbol) (f : Formula) : Rank → Prop
  | .operand => ∀ l outer, (operand l outer).after? ss = some (.complete l.choice (l.fill f) outer)
  | .term => ∀ choice outer,
      (operand ⟨choice, none, 0⟩ outer).after? ss = some (.complete choice f outer)
  | .choice => ∀ outer, ∃ choice last,
      (operand {} outer).after? ss = some (.complete choice last outer) ∧ last.after .or choice = f

theorem leads_of_spelled {rank : Rank} {ss : List Symbol} {f : Formula} (h : Spelled rank ss f) :
    Leads ss f rank := by
  induction h with
  | atom column op value =>
    intro l outer
    rfl
  | not _ ih =>
    intro l outer
    exact after?_cons rfl (ih { l with negations := l.negations + 1 } outer)
  | paren _ ih =>
    intro l outer
    obtain ⟨choice, last, hreads, hlast⟩ := ih (l :: outer)
    refine after?_cons (u := .operand {} (l :: outer)) rfl (after?_append hreads ?_)
    refine after?_cons (v := .complete l.choice (l.fill _) outer) ?_ rfl
    rw [next?, hlast]
  | operand _ ih =>
    intro choice outer
    exact ih ⟨choice, none, 0⟩ outer
  | @and ss ts f g _ _ ihl ihr =>
    intro choice outer
    refine after?_append (ihl choice outer) (after?_cons rfl ?_)
    exact ihr ⟨choice, some f, 0⟩ outer
  | term _ ih =>
    intro outer
    exact ⟨none, _, ih none outer, rfl⟩
  | @or ss ts f g _ _ ihl ihr =>
    intro outer
    obtain ⟨choice, last, hreads, hlast⟩ := ihl outer
    refine ⟨some f, g, after?_append hreads (after?_cons ?_ (ihr (some f) outer)), rfl⟩
    rw [next?, hlast]

end Reader

/-- **Symbols that spell a formula are read as that formula.** -/
theorem formulaOf?_of_spelled {rank : Rank} {ss : List Symbol} {f : Formula}
    (h : Spelled rank ss f) : formulaOf? ss = some f := by
  obtain ⟨choice, last, hreads, hlast⟩ := Reader.leads_of_spelled h.choice []
  rw [formulaOf?, hreads, Option.bind_some, Reader.formula?, hlast]

end Sql

end Broadband
