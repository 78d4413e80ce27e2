/-!
# Outlines

A value is shown as an outline: its parts on lines of their own, moved right by four blanks, each
with a comma after it. An outline is the list of its lines and never empty, so that the outline of a
whole is put together from those of its parts.
-/

namespace Broadband.Text.Outline

/-- The lines with a comma after the last. -/
def closed : List String → List String
  | [] => []
  | [l] => [l ++ ","]
  | l :: ls => l :: closed ls

/-- The lines with a label before the first. -/
def labelled (label : String) : List String → List String
  | [] => []
  | l :: ls => (label ++ l) :: ls

/-- A part of a value. -/
def part (label : String) (ls : List String) : List String :=
  (closed (labelled label ls)).map ("    " ++ ·)

/-- A value with named parts. -/
def record (name : String) (fields : List (String × List String)) : List String :=
  (name ++ " \x7b") :: (fields.flatMap fun (field, ls) => part (field ++ ": ") ls) ++ ["\x7d"]

/-- A value around another one. -/
def wrapped (name : String) (ls : List String) : List String :=
  (name ++ "(") :: part "" ls ++ [")"]

/-- Several values. -/
def list (items : List (List String)) : List String :=
  if items.isEmpty then ["[]"] else "[" :: items.flatMap (part "") ++ ["]"]

/-- A value that may be missing. -/
def optional : Option (List String) → List String
  | none => ["None"]
  | some ls => wrapped "Some" ls

/-- A value without parts. -/
def atom {α : Type} [ToString α] (a : α) : List String := [toString a]

end Broadband.Text.Outline
