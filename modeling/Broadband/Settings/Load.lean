import Broadband.Settings
import Broadband.Settings.File

/-!
# Loading settings

Settings are taken from three places: the defaults, then a settings file, then the environment. A
later place wins. The environment is heard last and only in variables named
`SPAN_<SECTION>__<KEY>`, in any case.

In Span this is `Config.load`.
-/

namespace Broadband.Settings

/-! ## The environment -/

/-- The parts of a text between double underscores or dots. -/
def splitPath : List Char → List (List Char)
  | [] => [[]]
  | '_' :: '_' :: cs => [] :: splitPath cs
  | '.' :: cs => [] :: splitPath cs
  | c :: cs =>
    match splitPath cs with
    | [] => [[c]]
    | part :: parts => (c :: part) :: parts

/-- A part of a path: letters, digits, underscores and hyphens. -/
def pathPart? (cs : List Char) : Option String :=
  if !cs.isEmpty && cs.all File.isNameChar then some (String.ofList cs) else none

/-- The path that a variable sets, if it is one of those that set anything. -/
def variablePath? (name : String) : Option (List String) :=
  match name.toList.map Char.toLower with
  | 's' :: 'p' :: 'a' :: 'n' :: '_' :: rest => (splitPath rest).mapM pathPart?
  | _ => none

/-- The variables that set something, as they are usually spelt. -/
def variableNames : List String :=
  ["SPAN_COMPILER__DATA_PATH", "SPAN_COMPILER__DEFAULT_YEAR", "SPAN_SERVER__HOST",
   "SPAN_SERVER__PORT", "SPAN_SERVER__STATIC_DIR"]

/-- The value of a variable: a truth value or a number if it can be read as one, else a text. -/
def variableValue (s : String) : RawValue :=
  match String.ofList (s.toList.map Char.toLower) with
  | "true" => .truth true
  | "false" => .truth false
  | _ =>
    match Text.int64? s with
    | some n => .number n
    | none =>
      match Double.ofText? s with
      | some x => .real x
      | none => .text s

/-- The values that variables set. -/
def ofVariables (environment : List (String × String)) : List (List String × RawValue) :=
  environment.filterMap fun (name, s) =>
    (variablePath? name).map fun path => (path, variableValue s)

/-! ## The defaults and the meaning of a tree -/

/-- The defaults as values under paths. -/
def defaultValues : List (List String × RawValue) :=
  let d : Settings := {}
  [(["compiler", "data_path"], .text d.dataPath), (["server", "host"], .text d.host),
   (["server", "port"], .number d.port)] ++
    d.defaultYear.toList.map fun year => (["compiler", "default_year"], .number year)

/-- A year that fits 32 bits. -/
def year? (v : RawValue) : Option (Option Int) := (v.toInt?.filter Text.fitsInt32).map some

/-- A port that fits 16 bits. -/
def port? (v : RawValue) : Option Nat := v.toNat?.filter (· ≤ 65535)

/-- The settings that a tree holds, if each of its values has a reading. -/
def ofTree? (t : Tree) : Option Settings := do
  let d : Settings := {}
  let compiler ← t.table? "compiler"
  let server ← t.table? "server"
  return {
    dataPath := ← compiler.get? "data_path" d.dataPath (some ·.toText)
    defaultYear := ← compiler.get? "default_year" d.defaultYear year?
    host := ← server.get? "host" d.host (some ·.toText)
    port := ← server.get? "port" d.port port?
    staticDir := ← server.get? "static_dir" d.staticDir (some <| some ·.toText) }

/-! ## Loading -/

/-- A settings file as it was found. -/
inductive Source
  | missing (path : String)
  | found (content : String)
  deriving DecidableEq, Repr

/-- Why settings cannot be loaded. -/
inductive LoadError
  | fileNotFound (path : String)
  | malformed
  | unusable
  deriving DecidableEq, Repr

/-- Why settings cannot be loaded, in words. -/
def LoadError.message : LoadError → String
  | .fileNotFound path => "Configuration file not found: " ++ path
  | .malformed => "Failed to build configuration"
  | .unusable => "Failed to deserialize configuration"

/-- The values that a settings file sets; no file sets none. -/
def ofSource : Option Source → Except LoadError (List (List String × RawValue))
  | none => .ok []
  | some (.missing path) => .error (.fileNotFound path)
  | some (.found content) =>
    match File.parse? content with
    | some values => .ok values
    | none => .error .malformed

/-- The settings from a file, if any, and the environment. Span's `Config.load`. -/
def load (file : Option Source) (environment : List (String × String)) :
    Except LoadError Settings := do
  let fileValues ← ofSource file
  let tree := (Tree.table []).setAll (defaultValues ++ fileValues ++ ofVariables environment)
  match ofTree? tree with
  | some settings => return settings
  | none => throw .unusable

end Broadband.Settings
