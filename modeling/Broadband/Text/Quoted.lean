/-!
# Quoted text in SQL

A text literal stands between single quotes, and a single quote inside it is written twice. A
reader can therefore find the end of a literal without knowing what is in it: the first quote
that is not followed by another one.
-/

namespace Broadband.Text

/-- The characters of a literal's inside: every single quote twice, all else once. -/
def doubleQuotes : List Char → List Char
  | [] => []
  | c :: cs => if c = '\'' then '\'' :: '\'' :: doubleQuotes cs else c :: doubleQuotes cs

/-- The text as an SQL literal. -/
def quoted (s : String) : String :=
  "'" ++ String.ofList (doubleQuotes s.toList) ++ "'"

end Broadband.Text
