import HostBoundary.Lifetime
import HostBoundary.Hook
import HostBoundary.Proofs.Flag.LastWriter
import HostBoundary.Proofs.Relay.Embedder
import HostBoundary.Proofs.Startup.Sources
import HostBoundary.Proofs.Startup.Values
import HostBoundary.Proofs.Lifetime.BuiltOnce
import HostBoundary.Proofs.Relay.OneShot
import HostBoundary.Proofs.Lifetime.Reset
import HostBoundary.Proofs.Startup.Strict
import HostBoundary.Proofs.Startup.Resolution
import HostBoundary.Proofs.Flag.Enumeration
import HostBoundary.Proofs.Json.ReadBack
import HostBoundary.Proofs.Lifetime.Enumeration
import HostBoundary.Proofs.Lifetime.Report
import HostBoundary.Proofs.Relay.AnyHost
import HostBoundary.Proofs.Relay.Completed
import HostBoundary.Proofs.Hook.LastInstalled
import HostBoundary.Proofs.Relay.Tower
import HostBoundary.Proofs.Preset.Grammar
import HostBoundary.Proofs.Preset.Written
import HostBoundary.Proofs.Json.Lexemes
import HostBoundary.Proofs.Preset.Sections
import HostBoundary.Proofs.Preset.Documents
import HostBoundary.Proofs.Preset.Stated
import HostBoundary.Proofs.Preset.Accounting
import HostBoundary.Proofs.Preset.Merging
import HostBoundary.Proofs.Flag.Acceptance
import HostBoundary.Proofs.Startup.Shapes
import HostBoundary.Proofs.Flag.SortedTable
import HostBoundary.Proofs.Stack.Room
import HostBoundary.Proofs.Stack.Refusals
import HostBoundary.Proofs.Stack.Limits
