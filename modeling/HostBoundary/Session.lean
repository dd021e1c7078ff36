-- A session is a registry with a configured preset on top. Building it
-- checks the names of the preset. A reset puts every flag back to the value
-- that it had after the build.
import HostBoundary.Startup.Config

namespace HostBoundary

structure Session where
  registry : Registry
  config : Config

inductive SessionError where
  | table (e : RowError)
  /-- The names that the preset has and the registry has not. -/
  | unknownFlags (names : List (Kind × String))

namespace SessionError

def flagText (flag : Kind × String) : String := flag.1.text ++ ":" ++ flag.2

def message : SessionError → String
  | .table e => "build flag registry: " ++ e.message
  | .unknownFlags names =>
    "flag preset names unknown flags: " ++ String.intercalate ", " (names.map flagText)

end SessionError

namespace Session

/-- Builds a session. In strict checking a name that the registry does not
have is an error, else it is a warning. -/
def build (rows : List Row) (config : Config) : Logged (Except SessionError Session) :=
  match Registry.ofRows rows with
  | .error e => pure (.error (.table e))
  | .ok defaults => do
    let (report, registry) ← config.preset.apply defaults
    if config.strict && !report.unknown.isEmpty then
      return .error (.unknownFlags report.unknown)
    else
      Logged.recordAll (report.unknown.map fun flag => .unknownFlag flag.1 flag.2)
      Logged.record (.sessionReady registry.size)
      return .ok ⟨registry, config⟩

/-- Every flag at its default, with the preset on top. -/
def reset (s : Session) : Logged Session := do
  let (_, registry) ← s.config.preset.apply s.registry.reset
  return { s with registry := registry }

end Session

end HostBoundary
