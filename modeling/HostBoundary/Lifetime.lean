-- The session over the lifetime of a program, and the calls on it. The
-- first call that needs the session builds it from the runtime's flag table
-- and the environment. A build that fails is not tried again before a
-- shutdown.
import HostBoundary.Flag.Snapshot
import HostBoundary.Session

namespace HostBoundary

/-! ## The runtime's flag table -/

/-- One row as the runtime keeps it: the memory from its name on, if it has a
name, the tag of its kind, and its value. -/
structure RawRow where
  name : Option Bytes
  tag : Int32
  value : Int32

/-- The runtime's table: its rows, if there is a table, and the length that it states. -/
structure RawTable where
  rows : Option (List RawRow)
  length : Nat

/-- A default as a flag of the kind holds it: any number but zero is true. -/
def Kind.ofRaw (v : Int32) : (k : Kind) → k.Value
  | .bool => v != 0
  | .int => v

/-- Reads one row. A row without name, or with a tag of no kind, is skipped with a warning. -/
def RawRow.read (index : Nat) (raw : RawRow) : Logged (Option Row) :=
  match raw.name with
  | none => ⟨none, [.rowWithoutName index]⟩
  | some memory =>
    let name := Text.untilZero memory
    match Kind.ofTag? raw.tag with
    | none => ⟨none, [.unknownTag name raw.tag]⟩
    | some k => pure (some ⟨k, name, Kind.ofRaw raw.value k⟩)

/-- The rows that the table states. -/
def RawTable.stated (t : RawTable) : List RawRow := (t.rows.getD []).take t.length

/-- Reads the table: the rows that can be read, in table order. The runtime
counts how often its table is read. -/
def RawTable.read (t : RawTable) (reads : Nat) : Logged (List Row × Nat) := do
  let rows ← t.stated.zipIdx.mapM fun p => p.1.read p.2
  return (rows.filterMap id, reads + 1)

/-! ## The session, built when it is needed -/

/-- All that a build reads. -/
structure Surroundings where
  environment : Environment
  files : Files
  table : RawTable

inductive StartError where
  | config (e : ConfigError)
  | session (e : SessionError)

def StartError.message : StartError → String
  | .config e => e.message
  | .session e => e.message

/-- Builds a session. The table is read before the configuration. -/
def start (around : Surroundings) (reads : Nat) : Logged (Except StartError Session × Nat) := do
  let (rows, reads) ← around.table.read reads
  match ← Config.resolve around.environment around.files with
  | .error e => return (.error (.config e), reads)
  | .ok config => return ((← Session.build rows config).mapError .session, reads)

inductive Slot where
  | unbuilt
  | ready (s : Session)
  /-- The build failed. -/
  | failed

structure Lifetime where
  slot : Slot
  /-- How often the runtime's table was read. -/
  reads : Nat

namespace Lifetime

def initial : Lifetime := ⟨.unbuilt, 0⟩

/-- Builds the session where it is not built. -/
def ensure (around : Surroundings) (l : Lifetime) : Logged Lifetime :=
  match l.slot with
  | .unbuilt => do
    let (outcome, reads) ← start around l.reads
    match outcome with
    | .ok s => return ⟨.ready s, reads⟩
    | .error e =>
      Logged.record (.startFailed e.message)
      return ⟨.failed, reads⟩
  | .ready _ | .failed => pure l

/-! ## The two ways to the session -/

/-- Works on the session, which is built before where it is not built. -/
def write {α : Type} (around : Surroundings) (l : Lifetime)
    (work : Session → Logged (α × Session)) : Logged (Option α × Lifetime) := do
  let l ← l.ensure around
  match l.slot with
  | .ready s =>
    let (a, s) ← work s
    return (some a, { l with slot := .ready s })
  | .unbuilt | .failed => return (none, l)

/-- Looks at the session. Where there is one, or where there will be none, the
lifetime is left as it is. Else this goes the way of those that write. -/
def read {α : Type} (around : Surroundings) (l : Lifetime) (look : Session → α) :
    Logged (Option α × Lifetime) :=
  match l.slot with
  | .ready s => pure (some (look s), l)
  | .failed => pure (none, l)
  | .unbuilt => l.write around fun s => pure (look s, s)

end Lifetime

/-! ## Calls -/

/-- A name as a caller gives it: a place in memory, if any, and a length. -/
structure NameArgument where
  memory : Option Bytes
  length : Nat

/-- The bytes of the name. No place is an empty name. -/
def NameArgument.bytes (a : NameArgument) : Bytes := (a.memory.getD []).take a.length

/-- An enumeration that a caller owns. It has no names and no kinds where it is empty. -/
structure Group where
  entries : List Entry

namespace Group

def empty : Group := ⟨[]⟩

def isNull (g : Group) : Bool := g.entries.isEmpty

def size (g : Group) : Nat := g.entries.length

/-- The memory of each name: its bytes, with a zero byte at the end. -/
def names (g : Group) : List Bytes := g.entries.map fun e => e.name ++ [0]

/-- The tags of the kinds, in an array of their own beside the names. -/
def kinds (g : Group) : List Int32 := g.entries.map fun e => e.kind.tag

/-- A name goes out with a zero byte at its end, so a name with one inside cannot. -/
def ofSnapshot (s : Snapshot) : Group := ⟨s.entries.filter fun e => !e.name.contains 0⟩

end Group

/-- The report of a snapshot, which goes out with a zero byte at its end. -/
def Snapshot.reportText? (s : Snapshot) : Option String :=
  let text := s.report.toText
  if text.toList.contains '\x00' then none else some text

inductive Call where
  | init
  | shutdown
  | set (k : Kind) (name : NameArgument) (v : k.Value)
  /-- A look-up with the value at the caller's place for the answer, if it has one. -/
  | get (k : Kind) (name : NameArgument) (out : Option k.Value)
  | reset
  | flags
  | report

inductive Reply where
  | done
  | status (ok : Bool)
  /-- Whether the flag was found, and the value at the caller's place after the call. -/
  | value (k : Kind) (found : Bool) (out : Option k.Value)
  | group (g : Group)
  | report (text : Option String)

namespace Lifetime

/-- Makes a call. A shutdown drops the session. Every other call needs it. -/
def step (around : Surroundings) (l : Lifetime) : Call → Logged (Reply × Lifetime)
  | .init => do
    let (done?, l) ← l.write around fun s => pure ((), s)
    return (.status done?.isSome, l)
  | .shutdown => pure (.done, { l with slot := .unbuilt })
  | .set k name v => do
    let (hit?, l) ← l.write around fun s => do
      let (hit, registry) ← s.registry.set k name.bytes v
      return (hit, { s with registry := registry })
    return (.status (hit?.getD false), l)
  | .get k name out => do
    let (found?, l) ← l.read around fun s => s.registry.get k name.bytes
    match found?.join with
    | some v => return (.value k true (out.map fun _ => v), l)
    | none => return (.value k false out, l)
  | .reset => do
    let (_, l) ← l.write around fun s => do return ((), ← s.reset)
    return (.done, l)
  | .flags => do
    let (snapshot?, l) ← l.read around fun s => s.registry.snapshot
    return (.group ((snapshot?.map Group.ofSnapshot).getD .empty), l)
  | .report => do
    let (snapshot?, l) ← l.read around fun s => s.registry.snapshot
    return (.report (snapshot?.bind Snapshot.reportText?), l)

end Lifetime

end HostBoundary
