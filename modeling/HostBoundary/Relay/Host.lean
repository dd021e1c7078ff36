-- Hosts. A host throws failures in its own way, and drives a relay context
-- by a script: it enters the operation, with a response to what unwinds out
-- of it, or delivers a failure. No host is trusted to do this once, or in
-- order.
import HostBoundary.Relay.Context

namespace HostBoundary.Relay

/-- What a host does with an unwind out of the operation. -/
inductive Response where
  | drop
  | letOut
  | deliver (f : Failure)

inductive HostStep where
  | enter (onUnwind : Payload → Response)
  | deliver (f : Failure)

structure Host where
  throw : Failure → Payload
  script : List HostStep

namespace Host

/-! ## The hosts -/

/-- Enters the operation once, and delivers what unwinds out of it as `take` reads it. -/
def catchScript (take : Payload → Failure) : List HostStep := [.enter fun p => .deliver (take p)]

/-- Enters the operation, and delivers what unwinds as native code catches it. -/
def nativeScript : List HostStep := catchScript Payload.toFailure

/-- Native unwinding: the payload is the failure. -/
def native : Host := ⟨.failure, nativeScript⟩

/-- A foreign embedder. Its payload is its own, and what it catches but did
not throw is a foreign exception. -/
def embedder : Host := ⟨.thrown, catchScript Payload.toEmbedder⟩

/-- A host that throws natively and follows a script. -/
def scripted (script : List HostStep) : Host := ⟨.failure, script⟩

/-- Never enters the operation. -/
def idle : Host := scripted []

/-- Drops what unwinds. -/
def dropping : Host := scripted [.enter fun _ => .drop]

/-- Lets out what unwinds. -/
def leaking : Host := scripted [.enter fun _ => .letOut]

/-- Enters the operation two times. -/
def repeating : Host := scripted (nativeScript ++ nativeScript)

/-- Delivers failures before the operation and after it. -/
def delivering (early late : List Failure) : Host :=
  scripted (early.map .deliver ++ nativeScript ++ late.map .deliver)

/-! ## Driving a context -/

variable {σ : Type}

def runStep (h : Host) (c : Context σ) (w : World σ) : HostStep →
    Ending Unit × Context σ × World σ
  | .deliver f => c.runCatching f w
  | .enter onUnwind =>
    match c.runTrying h.throw w with
    | (.returned (), c', w') => (.returned (), c', w')
    | (.unwound p, c', w') =>
      match onUnwind p with
      | .drop => (.returned (), c', w')
      | .letOut => (.unwound p, c', w')
      | .deliver f => c'.runCatching f w'

/-- Follows steps in order. What unwinds out of a step ends them. -/
def runSteps (h : Host) : List HostStep → Context σ → World σ → Ending Unit × Context σ × World σ
  | [], c, w => (.returned (), c, w)
  | s :: steps, c, w =>
    match h.runStep c w s with
    | (.returned (), c', w') => runSteps h steps c' w'
    | (.unwound p, c', w') => (.unwound p, c', w')

def tryCatch (h : Host) (c : Context σ) (w : World σ) : Ending Unit × Context σ × World σ :=
  h.runSteps h.script c w

end Host

/-! ## Guarded runs -/

section

variable {σ α : Type}

/-- Runs an operation under a host and says where it ended. -/
def runGuarded (h : Host) (trying : Operation σ Unit) (catching : Continuation σ) (w : World σ) :
    Ending Phase × World σ :=
  match h.tryCatch (Context.new trying catching) w with
  | (.returned (), c, w') => (.returned c.phase, w')
  | (.unwound p, _, w') => (.unwound p, w')

/-- What a guard learns: the value, if the operation returned one, and the
failure, if one was delivered. -/
structure Outcome (α : Type) where
  value : Option α
  caught : Option Failure

/-- The failure of a guard whose host does nothing. -/
def neverEntered : Failure := .runtime "guarded operation was never entered"

/-- A failure that was delivered counts more than a value. -/
def Outcome.result : Outcome α → Except Failure α
  | ⟨_, some f⟩ => .error f
  | ⟨some a, none⟩ => .ok a
  | ⟨none, none⟩ => .error neverEntered

/-- The operation, with its value kept. -/
def Operation.keeping (op : Operation σ α) : Operation (σ × Outcome α) Unit := fun w =>
  match op ⟨w.user.1, w.log⟩ with
  | (.returned (.ok a), w') =>
    (.returned (.ok ()), ⟨(w'.user, { w.user.2 with value := some a }), w'.log⟩)
  | (.returned (.error f), w') => (.returned (.error f), ⟨(w'.user, w.user.2), w'.log⟩)
  | (.unwound p, w') => (.unwound p, ⟨(w'.user, w.user.2), w'.log⟩)

/-- The continuation that keeps the failure. -/
def keepCaught : Continuation (σ × Outcome α) := fun f w =>
  (.returned (), { w with user := (w.user.1, { w.user.2 with caught := some f }) })

/-- Runs an operation under a host and gives its result. -/
def guard (h : Host) (op : Operation σ α) : Operation σ α := fun w =>
  match runGuarded h op.keeping keepCaught ⟨(w.user, ⟨none, none⟩), w.log⟩ with
  | (.returned _, w') => (.returned w'.user.2.result, ⟨w'.user.1, w'.log⟩)
  | (.unwound p, w') => (.unwound p, ⟨w'.user.1, w'.log⟩)

/-- Hands a failure to the host's own failure mechanism. -/
def raise (h : Host) (f : Failure) (w : World σ) : Ending α × World σ :=
  (.unwound (h.throw f), w.record (.raising f.kind))

end

/-! ## Calls of the host on one context -/

inductive ContextCall where
  | runTrying (h : Host)
  | runCatching (f : Failure)
  | tryCatch (h : Host)
  /-- The embedder enters the operation of a context, if it gives one. -/
  | enterExport (hasContext : Bool)
  /-- The embedder delivers what it caught to a context, if it gives one. -/
  | deliverExport (hasContext : Bool) (caught : Option Failure)

/-- Makes a call on a context. -/
def Context.perform {σ : Type} (c : Context σ) (w : World σ) : ContextCall →
    Ending Unit × Context σ × World σ
  | .runTrying h => c.runTrying h.throw w
  | .runCatching f => c.runCatching f w
  | .tryCatch h => h.tryCatch c w
  | .enterExport true => c.runTrying Host.embedder.throw w
  | .enterExport false => (.returned (), c, w)
  | .deliverExport true caught => c.runCatching (caught.getD Payload.foreign) w
  | .deliverExport false caught =>
    (.returned (), c, w.record (.noContext (caught.getD Payload.foreign)))

end HostBoundary.Relay
