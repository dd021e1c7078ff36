-- The relay context: an operation that may fail, paired with what to do with
-- its failure. Each of the two runs at most once. The host drives the
-- context, in any order, and each run may end in an unwind.
import HostBoundary.Event

namespace HostBoundary.Relay

/-- How a run ends. -/
inductive Ending (α : Type) where
  | returned (a : α)
  | unwound (p : Payload)

/-- What guarded code works on, and the log. -/
structure World (σ : Type) where
  user : σ
  log : List Event

def World.record {σ : Type} (w : World σ) (e : Event) : World σ := { w with log := w.log ++ [e] }

@[simp] theorem World.record_user {σ : Type} (w : World σ) (e : Event) :
    (w.record e).user = w.user := rfl

/-- Code that returns a value or a failure, or unwinds. -/
abbrev Operation (σ α : Type) := World σ → Ending (Except Failure α) × World σ

/-- Code that takes a failure, and returns or unwinds. -/
abbrev Continuation (σ : Type) := Failure → World σ → Ending Unit × World σ

namespace Operation

variable {σ α β : Type}

def succeed (a : α) : Operation σ α := fun w => (.returned (.ok a), w)

def fail (f : Failure) : Operation σ α := fun w => (.returned (.error f), w)

def unwind (p : Payload) : Operation σ α := fun w => (.unwound p, w)

/-- Goes on with the value. A failure or an unwind ends the whole. -/
def andThen (x : Operation σ α) (next : α → Operation σ β) : Operation σ β := fun w =>
  match x w with
  | (.returned (.ok a), w') => next a w'
  | (.returned (.error f), w') => (.returned (.error f), w')
  | (.unwound p, w') => (.unwound p, w')

end Operation

/-- Where an operation stands. -/
inductive Phase where
  /-- The host has not entered it. -/
  | pending
  | running
  /-- It returned without a failure. -/
  | completed
  /-- A failure reached the continuation. -/
  | handled
  deriving DecidableEq, Repr

structure Context (σ : Type) where
  /-- The operation, until it is entered or a failure is delivered. -/
  trying : Option (Operation σ Unit)
  /-- The continuation, until a failure is delivered. -/
  catching : Option (Continuation σ)
  phase : Phase

namespace Context

variable {σ : Type}

def new (trying : Operation σ Unit) (catching : Continuation σ) : Context σ :=
  ⟨some trying, some catching, .pending⟩

/-- Enters the operation. A failure that it returns is thrown, as the host
throws. An operation that is gone is not entered again. -/
def runTrying (throw : Failure → Payload) (c : Context σ) (w : World σ) :
    Ending Unit × Context σ × World σ :=
  match c.trying with
  | none => (.returned (), c, w.record .enteredTwice)
  | some op =>
    let entered : Context σ := { c with trying := none, phase := .running }
    match op w with
    | (.returned (.ok ()), w') => (.returned (), { entered with phase := .completed }, w')
    | (.returned (.error f), w') =>
      (.unwound (throw f), entered, w'.record (.guardedFailed f.kind))
    | (.unwound p, w') => (.unwound p, entered, w')

/-- Delivers a failure. The first one goes to the continuation and ends the
operation. Later ones are dropped. -/
def runCatching (f : Failure) (c : Context σ) (w : World σ) :
    Ending Unit × Context σ × World σ :=
  match c.catching with
  | none => (.returned (), c, w.record (.caughtTwice f))
  | some k =>
    let r := k f w
    (r.1, ⟨none, none, .handled⟩, r.2)

end Context

end HostBoundary.Relay
