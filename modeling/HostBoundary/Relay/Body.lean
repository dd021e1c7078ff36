-- Guarded code as data. A body is a list of actions, some of which guard
-- further bodies, to any depth. Running it leaves notes of what it did.
import HostBoundary.Relay.Host
import HostBoundary.Stack.Engine

namespace HostBoundary.Relay

/-- What a body notes. A guard may yield a value of `ν`. -/
inductive Note (ν : Type) where
  | text (s : String)
  | guardOk (value : ν)
  | guardErr (f : Failure)
  | caught (f : Failure)
  /-- The code of a continuation returned a failure. -/
  | catchErr (f : Failure)
  | phase (p : Phase)

/-- What a body works on: its notes, oldest first, and a stack, asked for
slots directly and through the engine's entry points. -/
structure Scene (ν : Type) where
  notes : List (Note ν)
  stack : Stack.Bounded
  engine : Stack.BoundedEngine

/-- An action with no body of its own. Hosts go by the names of `η`. -/
inductive Action (η : Type) where
  | note (s : String)
  | fail (f : Failure)
  | raise (host : η) (f : Failure)
  | panic (p : Payload)
  /-- Asks the stack for slots, and returns the failure. -/
  | ensure (n : Int32)
  /-- Asks the engine for slots, which raises the failure. -/
  | ensureRaising (n : Int32)

/-- What follows a guard that gave a failure. -/
inductive OnFailure (η : Type) where
  | ignore
  | giveBack
  | raise (host : η)

inductive Body (η ν : Type) where
  | done
  | act (a : Action η) (rest : Body η ν)
  | guard (host : η) (body : Body η ν) (value : ν) (onFailure : OnFailure η) (rest : Body η ν)
  /-- What the continuation does hangs on the failure that it gets. -/
  | runGuarded (host : η) (body : Body η ν) (catching : Failure → Body η ν) (rest : Body η ν)

variable {η ν : Type}

def Scene.note (s : Scene ν) (n : Note ν) : Scene ν := { s with notes := s.notes ++ [n] }

/-- Adds a note. -/
def World.note (w : World (Scene ν)) (n : Note ν) : World (Scene ν) :=
  { w with user := w.user.note n }

def noting (n : Note ν) : Operation (Scene ν) Unit := fun w => (.returned (.ok ()), w.note n)

def Action.run (hosts : η → Host) : Action η → Operation (Scene ν) Unit
  | .note s => noting (.text s)
  | .fail f => Operation.fail f
  | .raise host f => Relay.raise (hosts host) f
  | .panic p => Operation.unwind p
  | .ensure n => fun w =>
    let r := Stack.Bounded.view.ensure n w.user.stack
    (.returned r.1, { w with user := { w.user with stack := r.2 } })
  | .ensureRaising n => fun w =>
    match Stack.BoundedEngine.engine.ensure (some ()) n ⟨w.user.engine, w.log⟩ with
    | (.returned (), w') =>
      (.returned (.ok ()), ⟨{ w.user with engine := w'.user }, w'.log⟩)
    | (.unwound p, w') => (.unwound p, ⟨{ w.user with engine := w'.user }, w'.log⟩)

def OnFailure.run (hosts : η → Host) (f : Failure) : OnFailure η → Operation (Scene ν) Unit
  | .ignore => Operation.succeed ()
  | .giveBack => Operation.fail f
  | .raise host => Relay.raise (hosts host) f

/-- Notes the result of a guard and says how to go on. -/
def afterGuard (hosts : η → Host) (onFailure : OnFailure η) (x : Operation (Scene ν) ν) :
    Operation (Scene ν) Unit := fun w =>
  match x w with
  | (.returned (.ok v), w') => noting (.guardOk v) w'
  | (.returned (.error f), w') => onFailure.run hosts f (w'.note (.guardErr f))
  | (.unwound p, w') => (.unwound p, w')

/-- A continuation that notes the failure and runs the code for it. A failure
that the code returns is noted. -/
def continuation (code : Failure → Operation (Scene ν) Unit) : Continuation (Scene ν) := fun f w =>
  match code f (w.note (.caught f)) with
  | (.returned (.ok ()), w') => (.returned (), w')
  | (.returned (.error g), w') => (.returned (), w'.note (.catchErr g))
  | (.unwound p, w') => (.unwound p, w')

/-- Runs code under a host and notes where it ended. -/
def notingPhase (h : Host) (trying : Operation (Scene ν) Unit) (catching : Continuation (Scene ν)) :
    Operation (Scene ν) Unit := fun w =>
  match Relay.runGuarded h trying catching w with
  | (.returned p, w') => (.returned (.ok ()), w'.note (.phase p))
  | (.unwound p, w') => (.unwound p, w')

/-- Runs a body. -/
def Body.run (hosts : η → Host) : Body η ν → Operation (Scene ν) Unit
  | .done => Operation.succeed ()
  | .act a rest => (a.run hosts).andThen fun _ => rest.run hosts
  | .guard host body value onFailure rest =>
    (afterGuard hosts onFailure (Relay.guard (hosts host)
      ((body.run hosts).andThen fun _ => Operation.succeed value))).andThen
      fun _ => rest.run hosts
  | .runGuarded host body catching rest =>
    (notingPhase (hosts host) (body.run hosts)
      (continuation fun f => (catching f).run hosts)).andThen fun _ => rest.run hosts

end HostBoundary.Relay
