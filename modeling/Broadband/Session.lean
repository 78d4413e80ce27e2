import Broadband.Compile
import Broadband.Query.Outline
import Broadband.Text.Lines
import Broadband.Text.Typed
import Broadband.Token.Grid

/-!
# Sessions

A session takes one line at a time and answers it before the next. A line is a query, or a command
that starts with a backslash or ends the session. No line changes how a later one is answered, so a
session is a function from lines to answers and what it writes is those answers in a row.

In Span this is the loop in `main` of the command, with `split_command`, `render` and `print_help`.
A transcript holds what is printed there and no log lines: at a failed query Span also logs
`Compilation failed:` with the message of the error, which a setting of its log can turn off.
Editing a line, the file of earlier lines, and how a session ends on an interrupt or a fault of the
terminal are left out as well; the end of the input is not.
-/

namespace Broadband

/-! ## Views of a query -/

/-- What is shown of a query. Span's `Output` of the command. -/
inductive View
  | statement
  | tokens
  | outline
  deriving DecidableEq, Repr

/-- What is shown of the query in a text. Span's `render`. -/
def View.render (v : View) (query : String) (o : Options) : Except CompileError String :=
  match v with
  | .statement => compile query o
  | .tokens =>
    match tokenize query with
    | .ok ts => .ok (Token.grid ts)
    | .error e => .error (.text (.lexical e))
  | .outline =>
    match Query.parse query with
    | .ok q => .ok ("\n".intercalate q.outline)
    | .error e => .error (.text e)

/-! ## Output -/

/-- What has been written, to the output and to the error output. -/
structure Transcript where
  output : String := ""
  errors : String := ""
  deriving DecidableEq, Repr

namespace Transcript

/-- One transcript after another. -/
def append (a b : Transcript) : Transcript := ⟨a.output ++ b.output, a.errors ++ b.errors⟩

/-- A line on the output. -/
def line (s : String) : Transcript := ⟨s ++ "\n", ""⟩

/-- A line on the error output. -/
def error (s : String) : Transcript := ⟨"", "Error: " ++ s ++ "\n"⟩

end Transcript

namespace Session

/-- What a session says first. -/
def greeting : Transcript :=
  ⟨"Span REPL\nType 'exit' or 'quit' to exit, '\\h' for help\n\n", ""⟩

/-- What a session says about itself. Span's `print_help`. -/
def help : Transcript :=
  ⟨String.join ([
    "Span REPL Help:",
    "  exit, quit    - Exit the REPL",
    "  \\h            - Show this help message",
    "  \\t <query>    - Show the tokens of a query",
    "  \\a <query>    - Show the parsed query",
    "  <query>       - Compile a Span query to SQL",
    "",
    "Example queries:",
    "  HAS fiber COUNT hus BY fylke",
    "  HAS ANY(fiber, 5g) IN tett COUNT hus SORT andel DESC TOP 5 FOR (2023, 2024)",
    "  HAS nedhast >= 100 IN privat COUNT ab BY tilb",
    "  HAS kabel COUNT hus FOR 2018"].map (· ++ "\n")), ""⟩

/-! ## Lines -/

/-- What a line asks for. -/
inductive Request
  | nothing
  | leave
  | help
  | query (view : View) (text : String)
  deriving DecidableEq, Repr

/-- What a line asks for. Blanks at its ends do not count. Span's `split_command` and the tests
before it. -/
def Request.ofLine (line : String) : Request :=
  let line := Text.trim line
  let word := String.ofList (line.toList.map Char.toLower)
  if line.isEmpty then .nothing
  else if word == "exit" || word == "quit" then .leave
  else if line == "\\h" then .help
  else match line.toList with
    | '\\' :: 't' :: rest => .query .tokens (Text.trimStart (String.ofList rest))
    | '\\' :: 'a' :: rest => .query .outline (Text.trimStart (String.ofList rest))
    | _ => .query .statement line

/-- The answer to a query: the view of it, or the error on the error output. Span also logs the
error, which is not in the transcript. -/
def answer (o : Options) (v : View) (query : String) : Transcript :=
  match v.render query o with
  | .ok s => .line s
  | .error e => .error e.describe

/-- What is written in answer to a line, and whether the session goes on. -/
def respond (o : Options) (line : String) : Transcript × Bool :=
  match Request.ofLine line with
  | .nothing => ({}, true)
  | .leave => (.line "Goodbye!", false)
  | .help => (help, true)
  | .query v text => (answer o v text, true)

/-- What is written in answer to lines until the session is left or they end. In Span it is the loop
in `main`. -/
def answers (o : Options) : List String → Transcript
  | [] => .line "CTRL-D"
  | line :: rest =>
    let (reply, goesOn) := respond o line
    if goesOn then reply.append (answers o rest) else reply

/-- A line as it was meant. -/
def readLine (line : List Char) : String := String.ofList (Text.typed line)

/-- What a session writes whose input is a text. -/
def run (o : Options) (input : String) : Transcript :=
  greeting.append (answers o ((Text.lines input.toList).map readLine))

end Session

end Broadband
