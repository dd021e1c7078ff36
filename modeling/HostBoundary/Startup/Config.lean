-- The configuration of a startup, from three variables. One names a file
-- with a preset, one holds entries that go on top of it, and one turns
-- strict checking on. Outside strict checking a preset that cannot be used
-- is dropped whole, with a word in the log.
import HostBoundary.Preset.Spec
import HostBoundary.Preset.Document
import HostBoundary.Startup.Files

namespace HostBoundary

/-- The variables of a startup. A variable that is unset is none. -/
structure Environment where
  flags : Option Bytes
  file : Option Bytes
  strict : Option Bytes

namespace Environment

def flagsVariable : String := "VMBRIDGE_FLAGS"

def fileVariable : String := "VMBRIDGE_FLAGS_FILE"

def strictVariable : String := "VMBRIDGE_STRICT_FLAGS"

def empty : Environment := ⟨none, none, none⟩

/-- The entries, where the variable is text. -/
def flagsText? (env : Environment) : Option String := env.flags.bind Text.ofBytes?

/-- The path. An empty path counts as none. -/
def path? (env : Environment) : Option Bytes := env.file.filter fun p => !p.isEmpty

/-- The strict switch, where the variable is text. -/
def strictText? (env : Environment) : Option String := env.strict.bind Text.ofBytes?

end Environment

/-! ## The strict switch -/

/-- A word that says neither yes nor no. -/
structure SwitchError where
  word : String

def SwitchError.message (e : SwitchError) : String :=
  "invalid environment variable " ++ Environment.strictVariable ++ "=" ++ Text.quoted e.word
    ++ " (expected one of: 1, 0, true, false, yes, no)"

namespace Switch

def onWords : List String := ["1", "true", "TRUE", "yes", "YES"]

def offWords : List String := ["0", "false", "FALSE", "no", "NO"]

/-- Reads a switch. Blanks around the word do not count. -/
def read (s : String) : Except SwitchError Bool :=
  let word := String.ofList (Text.trim s.toList)
  if word ∈ onWords then .ok true
  else if word ∈ offWords then .ok false
  else .error ⟨word⟩

/-- The switch of an environment. It is off unless a word turns it on. -/
def resolve (text? : Option String) : Logged Bool :=
  match text?.map read with
  | none => pure false
  | some (.ok strict) => pure strict
  | some (.error e) => ⟨false, [.strictIgnored e.message]⟩

end Switch

/-! ## The preset -/

/-- Why a file gives no preset. -/
inductive LoadError where
  | unreadable (path : Bytes) (e : FileError)
  | undecodable (path : Bytes) (e : DocumentError)

def LoadError.message : LoadError → String
  | .unreadable path e => "read flag preset: " ++ Text.lossy path ++ ": " ++ e.message
  | .undecodable path e => "load flag preset: " ++ Text.lossy path ++ ": " ++ e.message

def Preset.load (files : Files) (path : Bytes) : Except LoadError Preset :=
  match files.readText path with
  | .error e => .error (.unreadable path e)
  | .ok s =>
    match ofDocument s with
    | .error e => .error (.undecodable path e)
    | .ok p => .ok p

structure Config where
  preset : Preset
  /-- Names that the registry does not have, and presets that cannot be used, are errors. -/
  strict : Bool

inductive ConfigError where
  | file (e : LoadError)
  | flags (text : String) (e : SpecError)

def ConfigError.message : ConfigError → String
  | .file e => "invalid environment variable " ++ Environment.fileVariable ++ ": " ++ e.message
  | .flags text e =>
    "invalid environment variable " ++ Environment.flagsVariable ++ "=" ++ Text.quoted text
      ++ ": " ++ e.message

namespace Config

/-- The preset of the file, where there is one. -/
def filePreset (files : Files) : Option Bytes → Except ConfigError Preset
  | none => .ok .empty
  | some path => (Preset.load files path).mapError .file

/-- The preset of the file with the entries of the text on top. The file is read first. -/
def layered (files : Files) (flags? : Option String) (path? : Option Bytes) :
    Except ConfigError Preset := do
  let p ← filePreset files path?
  match flags? with
  | none => return p
  | some text =>
    match Preset.ofSpec text with
    | .ok upper => return p.merge upper
    | .error e => .error (.flags text e)

/-- The configuration of three texts. Only strict checking fails. -/
def ofTexts (files : Files) (flags? : Option String) (path? : Option Bytes)
    (strict? : Option String) : Logged (Except ConfigError Config) := do
  let strict ← Switch.resolve strict?
  match layered files flags? path? with
  | .ok p => return .ok ⟨p, strict⟩
  | .error e =>
    if strict then return .error e
    else
      Logged.record (.presetIgnored e.message)
      return .ok ⟨.empty, false⟩

/-- The configuration of an environment. -/
def resolve (env : Environment) (files : Files) : Logged (Except ConfigError Config) :=
  ofTexts files env.flagsText? env.path? env.strictText?

end Config

end HostBoundary
