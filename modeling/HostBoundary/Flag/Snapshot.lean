-- A snapshot is the names and kinds of a registry, copied out. It can be
-- shown as a JSON report.
import HostBoundary.Flag.Registry
import HostBoundary.Json.Value

namespace HostBoundary

structure Snapshot where
  entries : List Entry
  deriving DecidableEq

/-- The entries of bool flags first, then int flags, each in byte order of name. -/
def Registry.snapshot (r : Registry) : Snapshot := ⟨r.values.rows.map Row.entry⟩

namespace Snapshot

def size (s : Snapshot) : Nat := s.entries.length

def isEmpty (s : Snapshot) : Bool := s.entries.isEmpty

def reportVersion : String := "vmbridge.flags.report@0.1.0"

def entryReport (e : Entry) : Json.Value :=
  .object [("kind", .text e.kind.text), ("name", .text (Text.lossy e.name))]

/-- The report. The members of its objects stand in order of name. -/
def report (s : Snapshot) : Json.Value :=
  .object [("flags", .list (s.entries.map entryReport)), ("schema_version", .text reportVersion)]

end Snapshot

end HostBoundary
