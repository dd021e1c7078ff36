-- The events that operations log, by cause. What a reader of the log sees
-- of an event is its level, its message and its fields, all text.
import HostBoundary.Flag.Kind
import HostBoundary.Failure

namespace HostBoundary

inductive Level where
  | debug
  | warn
  | error
  deriving DecidableEq, Repr

def Level.text : Level → String
  | .debug => "DEBUG"
  | .warn => "WARN"
  | .error => "ERROR"

inductive Event where
  /-- A flag was overwritten. -/
  | flagSet (kind : Kind) (name : Bytes) (value : kind.Value)
  /-- A preset names a flag that the registry does not have. -/
  | unknownFlag (kind : Kind) (name : String)
  /-- A session was built over this many flags. -/
  | sessionReady (flags : Nat)
  /-- The strict switch holds something else than yes or no. -/
  | strictIgnored (cause : String)
  /-- The configured preset cannot be used. -/
  | presetIgnored (cause : String)
  /-- A row of the runtime's table has no name. -/
  | rowWithoutName (index : Nat)
  /-- A row of the runtime's table has a tag of no kind. -/
  | unknownTag (name : Bytes) (tag : Int32)
  /-- No session could be built. -/
  | startFailed (cause : String)
  /-- A guarded operation returned a failure. -/
  | guardedFailed (kind : FailureKind)
  /-- A failure goes to the host's own failure mechanism. -/
  | raising (kind : FailureKind)
  /-- The host entered a guarded operation that it had entered before. -/
  | enteredTwice
  /-- The host delivered a failure after the first one. -/
  | caughtTwice (failure : Failure)
  /-- The host delivered a failure to no context. -/
  | noContext (failure : Failure)

namespace Event

def level : Event → Level
  | .flagSet .. | .sessionReady .. | .guardedFailed .. | .raising .. => .debug
  | .unknownFlag .. | .rowWithoutName .. | .unknownTag .. | .enteredTwice | .caughtTwice ..
  | .noContext .. => .warn
  | .strictIgnored .. | .presetIgnored .. | .startFailed .. => .error

def message : Event → String
  | .flagSet .. => "flag set"
  | .unknownFlag .. => "flag preset names an unknown flag; skipped"
  | .sessionReady .. => "bridge context ready"
  | .strictIgnored cause => cause ++ "; strict flag checking stays off"
  | .presetIgnored cause => "flag preset ignored, runtime defaults apply: " ++ cause
  | .rowWithoutName .. => "runtime flag table row has no name; skipped"
  | .unknownTag .. => "unknown flag kind tag; skipped"
  | .startFailed cause => "vmbridge init failed: " ++ cause
  | .guardedFailed .. => "guarded operation failed"
  | .raising .. => "raising failure to host"
  | .enteredTwice => "guarded operation entered twice; ignoring"
  | .caughtTwice .. => "failure caught twice; dropping the second one"
  | .noContext .. => "caught failure has no relay context; dropped"

def fields : Event → List (String × String)
  | .flagSet kind name value =>
    [("kind", kind.text), ("name", Text.lossy name), ("value", kind.valueText value)]
  | .unknownFlag kind name => [("kind", kind.text), ("name", name)]
  | .sessionReady flags => [("flags", String.ofList (Decimal.ofNat flags))]
  | .rowWithoutName index => [("index", String.ofList (Decimal.ofNat index))]
  | .unknownTag name tag =>
    [("name", Text.lossy name), ("tag", String.ofList (Decimal.ofInt tag.toInt))]
  | .guardedFailed kind | .raising kind => [("kind", kind.text)]
  | .caughtTwice failure | .noContext failure => [("failure", failure.message)]
  | .strictIgnored .. | .presetIgnored .. | .startFailed .. | .enteredTwice => []

end Event

/-- A value and the events logged while it was found, oldest first. -/
structure Logged (α : Type) where
  value : α
  log : List Event

namespace Logged

variable {α β γ : Type}

instance : Monad Logged where
  pure a := ⟨a, []⟩
  bind x f := ⟨(f x.value).value, x.log ++ (f x.value).log⟩

/-- Logs one event. -/
def record (e : Event) : Logged Unit := ⟨(), [e]⟩

def recordAll (es : List Event) : Logged Unit := ⟨(), es⟩

@[simp] theorem value_pure (a : α) : (pure a : Logged α).value = a := rfl

@[simp] theorem log_pure (a : α) : (pure a : Logged α).log = [] := rfl

@[simp] theorem value_bind (x : Logged α) (f : α → Logged β) :
    (x >>= f).value = (f x.value).value := rfl

@[simp] theorem log_bind (x : Logged α) (f : α → Logged β) :
    (x >>= f).log = x.log ++ (f x.value).log := rfl

@[simp] theorem log_record (e : Event) : (record e).log = [e] := rfl

@[simp] theorem log_recordAll (es : List Event) : (recordAll es).log = es := rfl

/-- What a fold over logged steps gives is the fold of what the steps give. -/
theorem value_foldlM (f : β → α → Logged β) (b : β) (l : List α) :
    (l.foldlM f b).value = l.foldl (fun b a => (f b a).value) b := by
  induction l generalizing b with
  | nil => rfl
  | cons a l ih =>
    rw [List.foldlM_cons, value_bind, ih]
    rfl

theorem ext {x y : Logged α} (hv : x.value = y.value) (hl : x.log = y.log) : x = y := by
  cases x
  cases y
  cases hv
  cases hl
  rfl

instance : LawfulMonad Logged :=
  LawfulMonad.mk' Logged (fun _ => ext rfl (List.append_nil _)) (fun _ _ => rfl)
    (fun _ _ _ => ext rfl (List.append_assoc ..))

theorem value_mapM (f : α → Logged β) (l : List α) :
    (l.mapM f).value = l.map fun a => (f a).value := by
  induction l with
  | nil => rfl
  | cons a l ih =>
    rw [List.mapM_cons, value_bind, value_bind, ih]
    rfl

end Logged

end HostBoundary
