import Broadband.Command

/-!
# The program

What the command needs from outside is gathered here and what it leaves behind is put out; what it
does is decided in `Command`. A session is answered line by line.
-/

namespace Broadband

/-- Puts out what has been written. -/
def Transcript.put (t : Transcript) : IO Unit := do
  IO.print t.output
  IO.eprint t.errors
  (← IO.getStdout).flush

/-- The settings file at a path, as it is found. -/
def readSource (path : String) : IO Settings.Source := do
  try return .found (← IO.FS.readFile path)
  catch _ => return .missing path

/-- The variables that settings can come from. -/
def readVariables : IO (List (String × String)) := do
  let names := Settings.variableNames
  let values ← names.mapM fun name => return (name, ← IO.getEnv name)
  return values.filterMap fun (name, value) => value.map (name, ·)

/-- Answers lines until the session is left or they end. -/
partial def converse (o : Options) (stdin : IO.FS.Stream) : IO Unit := do
  let line ← stdin.getLine
  if line.isEmpty then Transcript.put (Session.answers o [])
  else
    let lines := (Text.lines line.toList).map Session.readLine
    let (reply, goesOn) := Session.respond o (String.join lines)
    reply.put
    if goesOn then converse o stdin

end Broadband

open Broadband in
/-- Runs the command. -/
def main (args : List String) : IO UInt32 := do
  let some a := Command.Arguments.read? {} args
    | IO.eprintln "error: unknown, repeated or incomplete argument"
      return 2
  let file ← a.settingsFile.mapM readSource
  let environment ← readVariables
  match Command.settings file environment, a.query with
  | .ok s, none =>
    Session.greeting.put
    converse (a.override s.options) (← IO.getStdin)
    return 0
  | _, _ =>
    let outcome := Command.run a file environment ""
    outcome.transcript.put
    return outcome.exitCode.toUInt32
