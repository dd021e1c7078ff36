-- A failure on its way across the boundary, and what an unwind carries. An
-- unwind that the relay started carries the failure itself. Any other
-- becomes a panic failure with the panic's text.
import HostBoundary.Text.Utf8
import HostBoundary.Decimal.Signed

namespace HostBoundary

inductive FailureKind where
  /-- An error of engine code: a script error, a bad argument. -/
  | runtime
  | stackOverflow
  | memory
  /-- A panic that the relay did not raise. -/
  | panic
  deriving DecidableEq, Repr

def FailureKind.text : FailureKind → String
  | .runtime => "runtime"
  | .stackOverflow => "stack-overflow"
  | .memory => "memory"
  | .panic => "panic"

structure Failure where
  kind : FailureKind
  message : String
  deriving DecidableEq, Repr

namespace Failure

def runtime (message : String) : Failure := ⟨.runtime, message⟩

def memory (message : String) : Failure := ⟨.memory, message⟩

/-- The stack has no room for `requested` more slots. -/
def stackOverflow (requested : UInt64) : Failure :=
  ⟨.stackOverflow, "stack overflow (requested " ++ String.ofList (Decimal.ofNat requested.toNat)
    ++ " extra slots)"⟩

/-- The bytes that an embedder reads of a failure that it holds. No failure reads as none. -/
def messageBytes : Option Failure → Bytes
  | some f => Text.toBytes f.message
  | none => []

end Failure

/-- What an unwind carries. -/
inductive Payload where
  /-- A failure that the relay raised through its own unwinding. -/
  | failure (f : Failure)
  /-- The text of a panic. -/
  | text (s : String)
  /-- A panic with anything else. -/
  | other
  /-- A failure that a foreign embedder threw. The payload is the embedder's
  own, so only the embedder can take the failure out. -/
  | thrown (f : Failure)
  deriving DecidableEq, Repr

namespace Payload

/-- The failure that an unwind of this payload is, where it is caught by native code. -/
def toFailure : Payload → Failure
  | .failure f => f
  | .text s => ⟨.panic, s⟩
  | .other => ⟨.panic, "panic with non-string payload"⟩
  | .thrown _ => ⟨.panic, "panic with non-string payload"⟩

/-- What an embedder delivers without a failure of its own. -/
def foreign : Failure := .runtime "foreign exception"

/-- The failure that the embedder takes out of a payload, if the payload is its own. -/
def thrown? : Payload → Option Failure
  | .thrown f => some f
  | _ => none

/-- The failure that an unwind of this payload is, where the embedder catches it. -/
def toEmbedder (p : Payload) : Failure := p.thrown?.getD foreign

end Payload

end HostBoundary
