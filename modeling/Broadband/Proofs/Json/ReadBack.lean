import Broadband.Json
import Mathlib.Data.List.Basic

/-!
# Written texts are read back

A text is written with escapes, and reading takes them apart again: character by character
(`units?_written`, `decode?_pieceOf`), hence for a text as a whole, whatever follows its closing quote
(`text?_written`, `name?_written`). An object is then read member by member.
-/

namespace Broadband.Json

/-! ## Characters -/

/-- An escape of one letter. -/
theorem units?_cons_of_escape {e c : Char} (h : escape? e = some c) (rest : List Char) :
    units? ('\\' :: e :: rest) = (units? rest).map (Prod.map (.char c :: ·) id) := by
  have hu : e ≠ 'u' := by
    rintro rfl
    cases h
  rw [units?, h]
  · cases units? rest <;> rfl
  · exact fun _ _ _ _ _ he _ => hu he

/-- A character that stands for itself. -/
theorem units?_cons_self {c : Char} (hquote : c ≠ '"') (hbackslash : c ≠ '\\') (hcontrol : ¬ c.toNat < 0x20)
    (rest : List Char) : units? (c :: rest) = (units? rest).map (Prod.map (.char c :: ·) id) := by
  rw [units?, if_neg hcontrol]
  · cases units? rest <;> rfl
  · exact hquote
  · exact fun _ _ _ _ _ h _ => hbackslash h
  · exact fun _ _ h _ => hbackslash h

theorem hexNumber?_hexDigit : ∀ n < 0x20,
    hexNumber? ['0', '0', Text.hexDigit (n / 16), Text.hexDigit (n % 16)] = some n := by
  decide

/-- The piece as which a written character is read: its number, if it is written so. -/
def pieceOf (c : Char) : Piece :=
  if c.toNat < 0x20 ∧ c ∉ ['\x08', '\x0c', '\n', '\r', '\t'] then .code c.toNat else .char c

theorem units?_written (c : Char) (rest : List Char) :
    units? (written c ++ rest) = (units? rest).map (Prod.map (pieceOf c :: ·) id) := by
  unfold written
  split
  case h_8 _ hquote hbackslash h8 h12 h10 h13 h9 =>
    split
    · next hcontrol =>
      have hpiece : pieceOf c = .code c.toNat := by simp_all [pieceOf]
      have hnumber := hexNumber?_hexDigit c.toNat hcontrol
      rw [hpiece, List.cons_append, List.cons_append, List.cons_append, List.cons_append, List.cons_append,
        List.cons_append, List.nil_append, units?, hnumber]
      cases units? rest <;> rfl
    · next hcontrol =>
      have hpiece : pieceOf c = .char c := by simp [pieceOf, hcontrol]
      rw [hpiece]
      exact units?_cons_self hquote hbackslash hcontrol rest
  all_goals exact units?_cons_of_escape rfl rest

theorem decode?_code {n : Nat} (h : n < 0xD800) (ps : List Piece) :
    decode? (.code n :: ps) = (decode? ps).map (Char.ofNat n :: ·) := by
  have hhigh : isHigh n = false := by simp [isHigh]; omega
  have hlow : isLow n = false := by simp [isLow]; omega
  cases ps with
  | nil => simp [decode?, hhigh, hlow]
  | cons p ps => cases p <;> simp [decode?, hhigh, hlow]

theorem decode?_pieceOf (c : Char) (ps : List Piece) :
    decode? (pieceOf c :: ps) = (decode? ps).map (c :: ·) := by
  unfold pieceOf
  split
  · next h => rw [decode?_code (by omega), Char.ofNat_toNat]
  · rfl

/-! ## Texts -/

theorem units?_flatMap_written (cs rest : List Char) :
    units? (cs.flatMap written ++ '"' :: rest) = some (cs.map pieceOf, rest) := by
  induction cs with
  | nil => rfl
  | cons c cs ih => rw [List.flatMap_cons, List.append_assoc, units?_written, ih]; rfl

theorem decode?_map_pieceOf (cs : List Char) : decode? (cs.map pieceOf) = some cs := by
  induction cs with
  | nil => rfl
  | cons c cs ih => rw [List.map_cons, decode?_pieceOf, ih]; rfl

/-- A written text is read as itself, up to its closing quote. -/
theorem text?_written (s : String) (rest : List Char) :
    text? (s.toList.flatMap written ++ '"' :: rest) = some (.text (some s), rest) := by
  rw [text?, units?_flatMap_written]
  simp only [Option.map_some, decode?_map_pieceOf, String.ofList_toList]

theorem name?_written (s : String) (rest : List Char) :
    name? (s.toList.flatMap written ++ '"' :: ':' :: rest) = some (s, rest) := by
  rw [name?, units?_flatMap_written]
  simp only [Option.bind_eq_bind, Option.bind_some, decode?_map_pieceOf, String.ofList_toList]
  rfl

theorem toList_quoted_append (s : String) (rest : List Char) :
    (quoted s).toList ++ rest = '"' :: (s.toList.flatMap written ++ '"' :: rest) := by
  simp [quoted]

/-! ## Objects -/

theorem value?_quoted (n : Nat) (s : String) (rest : List Char) :
    value? (n + 1) ((quoted s).toList ++ rest) = some (.text (some s), rest) := by
  rw [toList_quoted_append, value?]
  exact text?_written s rest

/-- A member of an object is read first, then what follows it. -/
theorem members?_quoted (n : Nat) (name : String) (cs : List Char) :
    members? (n + 1) ((quoted name).toList ++ ':' :: cs) =
      (value? n cs).bind fun (v, rest) =>
        match skip rest with
        | ',' :: rest => (members? n rest).map fun (ms, rest) => ((name, v) :: ms, rest)
        | '\x7d' :: rest => some ([(name, v)], rest)
        | _ => none := by
  rw [toList_quoted_append, members?]
  change (name? _).bind _ = _
  rw [name?_written]
  rfl

theorem value?_object {n : Nat} {name : String} {ms : List (String × Json)} {cs rest : List Char}
    (hms : members? n ((quoted name).toList ++ cs) = some (ms, rest)) :
    value? (n + 1) ('\x7b' :: ((quoted name).toList ++ cs)) = some (.object ms, rest) := by
  rw [toList_quoted_append] at hms ⊢
  rw [value?]
  change Option.map _ (members? n _) = _
  rw [hms]
  rfl

/-- An object of two members, of which the second is a text. -/
theorem ofText?_object {v : Json} {value : String} (first second text : String)
    (hv : ∀ n rest, value? (n + 1) (value.toList ++ rest) = some (v, rest)) :
    ofText? ("\x7b" ++ quoted first ++ ":" ++ value ++ "," ++ quoted second ++ ":" ++ quoted text ++ "\x7d") =
      some (.object [(first, v), (second, .text (some text))]) := by
  generalize hs : "\x7b" ++ quoted first ++ ":" ++ value ++ "," ++ quoted second ++ ":" ++ quoted text ++ "\x7d" = s
  have hchars : s.toList = '\x7b' :: ((quoted first).toList ++ ':' :: (value.toList ++ ',' ::
      ((quoted second).toList ++ ':' :: ((quoted text).toList ++ ['\x7d'])))) := by
    rw [← hs]
    simp [List.append_assoc]
  have hlength : 2 ≤ s.length := by
    rw [← String.length_toList, hchars]
    simp only [List.length_cons, List.length_append]
    omega
  -- the search goes four steps deep, for which the text is long enough
  obtain ⟨n, hn⟩ : ∃ n, 2 * s.length + 2 = n + 4 := ⟨2 * s.length - 2, by omega⟩
  have hlast : members? (n + 2) ((quoted second).toList ++ ':' :: ((quoted text).toList ++ ['\x7d'])) =
      some ([(second, .text (some text))], []) := by
    rw [members?_quoted, value?_quoted]
    rfl
  have hmembers : members? (n + 3) ((quoted first).toList ++ ':' :: (value.toList ++ ',' ::
      ((quoted second).toList ++ ':' :: ((quoted text).toList ++ ['\x7d'])))) =
      some ([(first, v), (second, .text (some text))], []) := by
    rw [members?_quoted, hv, Option.bind_some]
    change Option.map _ (members? (n + 2) _) = _
    rw [hlast]
    rfl
  rw [ofText?, hn, hchars, value?_object hmembers]
  rfl

end Broadband.Json
