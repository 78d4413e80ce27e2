/-!
# Lines

A text is cut into lines at its line feeds. One carriage return directly before a line feed
belongs to the line's end and not to the line; a carriage return anywhere else is an ordinary
character. A final line feed ends the last line and does not start an empty one, so the empty text
has no lines at all.
-/

namespace Broadband.Text

/-- The lines of a text, without their ends. -/
def lines : List Char → List (List Char)
  | [] => []
  | '\n' :: cs => [] :: lines cs
  | '\r' :: '\n' :: cs => [] :: lines cs
  | c :: cs =>
    match lines cs with
    | [] => [[c]]
    | l :: ls => (c :: l) :: ls

/-- Every line of a text moved right by two blanks and ended by a line feed. -/
def indent (s : String) : String :=
  String.ofList ((lines s.toList).flatMap fun l => ' ' :: ' ' :: l ++ ['\n'])

end Broadband.Text
