import Broadband.Session
import Broadband.Settings.Load

/-!
# The command line

The command compiles one query, or starts a session if none is given. Its settings come from a file
and the environment, and arguments win over both.

In Span the arguments are `Args`, and what is done with them is the `main` of the command.
-/

namespace Broadband.Command

/-! ## Arguments -/

/-- The arguments of the command. Span's `Args`. -/
structure Arguments where
  /-- A query to compile. -/
  query : Option String := none
  /-- The path of a settings file. -/
  settingsFile : Option String := none
  year : Option Int := none
  dataPath : Option String := none
  tokens : Bool := false
  outline : Bool := false
  deriving DecidableEq, Repr

/-- The options that take a value. -/
inductive Key
  | query
  | settingsFile
  | year
  | dataPath
  deriving DecidableEq, Repr

/-- The option that an argument names, long or short. -/
def Key.ofName? : String → Option Key
  | "--exec" | "-e" => some .query
  | "--config" | "-c" => some .settingsFile
  | "--year" | "-y" => some .year
  | "--data-path" | "-d" => some .dataPath
  | _ => none

namespace Arguments

/-- The arguments with the value of an option, which is given once. -/
def set? (a : Arguments) (key : Key) (value : String) : Option Arguments :=
  match key with
  | .query => if a.query.isSome then none else some { a with query := value }
  | .settingsFile => if a.settingsFile.isSome then none else some { a with settingsFile := value }
  | .year =>
    if a.year.isSome then none else (Text.int32? value).map fun y => { a with year := some y }
  | .dataPath => if a.dataPath.isSome then none else some { a with dataPath := value }

/-- An option written together with its value, after a sign of equality or, for a short name,
directly. -/
def attached? (arg : String) : Option (Key × String) :=
  let before := arg.toList.takeWhile (· != '=')
  match arg.toList.drop before.length with
  | _ :: value =>
    match Key.ofName? (String.ofList before), arg.toList with
    | some key, _ => some (key, String.ofList value)
    | none, '-' :: c :: rest =>
      (Key.ofName? (String.ofList ['-', c])).map fun key => (key, String.ofList rest)
    | none, _ => none
  | [] =>
    match arg.toList with
    | '-' :: c :: d :: rest =>
      (Key.ofName? (String.ofList ['-', c])).map fun key => (key, String.ofList (d :: rest))
    | _ => none

/-- An argument that can stand as the value of the option before it. -/
def isValue (arg : String) : Bool := arg.toList.head? != some '-' || arg == "-"

/-- The arguments in a list, added to those read before it. -/
def read? (a : Arguments) : List String → Option Arguments
  | [] => some a
  | "--tokens" :: rest => if a.tokens then none else read? { a with tokens := true } rest
  | "--ast" :: rest => if a.outline then none else read? { a with outline := true } rest
  | [arg] => do
    let (key, value) ← attached? arg
    a.set? key value
  | arg :: value :: rest =>
    match Key.ofName? arg with
    | some key =>
      if isValue value then do
        let a ← a.set? key value
        read? a rest
      else none
    | none => do
      let (key, attached) ← attached? arg
      let a ← a.set? key attached
      read? a (value :: rest)

/-- What the arguments say beside a query, over what the settings say. -/
def override (a : Arguments) (o : Options) : Options :=
  ⟨a.year <|> o.year, a.dataPath <|> o.dataPath⟩

/-- What is shown of the query. -/
def view (a : Arguments) : View :=
  if a.tokens then .tokens else if a.outline then .outline else .statement

end Arguments

/-! ## Running -/

/-- What a run of the command leaves behind. -/
structure Outcome where
  exitCode : Nat := 0
  transcript : Transcript := {}
  deriving DecidableEq, Repr

/-- A run that ends with an error. -/
def failed (message : String) : Outcome := ⟨1, .error message⟩

/-- The settings in use, or the run that ends without them. -/
def settings (file : Option Settings.Source) (environment : List (String × String)) :
    Except Outcome Settings := do
  let s ← (Settings.load file environment).mapError fun e => failed e.message
  (s.check).mapError fun e =>
    failed ("Invalid configuration\n\nCaused by:\n    " ++ e.message)
  return s

/-- The run of a single query. -/
def execute (a : Arguments) (o : Options) (query : String) : Outcome :=
  match a.view.render query o with
  | .ok s => ⟨0, .line s⟩
  | .error e => failed e.describe

/-- A run of the command, given the settings file as it was found, the environment and the input. -/
def run (a : Arguments) (file : Option Settings.Source) (environment : List (String × String))
    (input : String) : Outcome :=
  match settings file environment with
  | .error outcome => outcome
  | .ok s =>
    let o := a.override s.options
    match a.query with
    | some query => execute a o query
    | none => ⟨0, Session.run o input⟩

end Broadband.Command
