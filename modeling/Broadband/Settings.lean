import Broadband.Compile

/-!
# Settings

What can be set from outside: where the data lie, the year of queries that name none, and how the
service is reached. Every setting has a default, and settings are checked as a whole before use.

In Span they are a `Config`, of a `CompilerConfig` and a `ServerConfig`.
-/

namespace Broadband

/-- The settings. Span's `Config`. -/
structure Settings where
  dataPath : String := defaultDataPath
  /-- The year of queries that name none. -/
  defaultYear : Option Int := some Year.last
  host : String := "0.0.0.0"
  port : Nat := 3000
  /-- A directory of files that the service offers as they are. -/
  staticDir : Option String := none
  deriving DecidableEq, Repr

/-- What can be wrong with settings. -/
inductive SettingsError
  | emptyDataPath
  | unknownYear (year : Int)
  | emptyHost
  | zeroPort
  | emptyStaticDir
  deriving DecidableEq, Repr

/-- What is wrong, in words. -/
def SettingsError.message : SettingsError → String
  | .emptyDataPath => "Data path cannot be empty"
  | .unknownYear year =>
    "Default year " ++ toString year ++ " has no data (known years: " ++ Year.range ++ ")"
  | .emptyHost => "Server host cannot be empty"
  | .zeroPort => "Server port cannot be 0"
  | .emptyStaticDir => "Static directory cannot be empty when set"

namespace Settings

/-- The settings can be used; otherwise the first thing that is wrong with them. Span's
`validate`. -/
def check (s : Settings) : Except SettingsError Unit := do
  if s.dataPath.isEmpty then
    throw .emptyDataPath
  if let some year := s.defaultYear then
    if !Year.known.contains year then
      throw (.unknownYear year)
  if s.host.isEmpty then
    throw .emptyHost
  if s.port = 0 then
    throw .zeroPort
  if s.staticDir = some "" then
    throw .emptyStaticDir

/-- What the settings say beside a query. Span's `sql_options`. -/
def options (s : Settings) : Options := ⟨s.defaultYear, some s.dataPath⟩

/-- The address of the service. Span's `bind_address`. -/
def bindAddress (s : Settings) : String := s.host ++ ":" ++ toString s.port

end Settings

end Broadband
