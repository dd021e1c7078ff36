-- The assertion hook: one handler for failed invariants. Installing a
-- handler replaces the one before. The engine reaches the hook through a
-- callback, once that is registered.
import HostBoundary.Relay.Context

namespace HostBoundary

/-- A failed invariant. -/
structure AssertionReport where
  expression : String
  file : String
  line : Int32
  function : String
  deriving DecidableEq

/-- The text of a report. A function without name is left out. -/
def AssertionReport.text (r : AssertionReport) : String :=
  r.file ++ "(" ++ String.ofList (Decimal.ofInt r.line.toInt) ++ "): ASSERTION FAILED: "
    ++ r.expression ++ (if r.function = "" then "" else " in " ++ r.function)

namespace Hook

/-- What a handler answers: that the engine is to trap, or that it may go on. Or it panics. -/
inductive Verdict where
  | trap
  | proceed
  | panic (p : Payload)

/-- What handlers work on: a state of their own, and the text on the standard error stream. -/
structure Scene (σ : Type) where
  own : σ
  written : String

/-- A handler. Every call of it works on the scene, also one that panics. -/
abbrev Handler (σ : Type) := AssertionReport → Scene σ → Verdict × Scene σ

/-- Writes the report to the standard error stream and traps. -/
def standard {σ : Type} : Handler σ := fun r s =>
  (.trap, { s with written := s.written ++ (r.text ++ "\n") })

end Hook

/-- The handler installed last, and whether the engine has the callback. -/
structure Hook (σ : Type) where
  handler : Option (Hook.Handler σ)
  registered : Bool

namespace Hook

variable {σ : Type}

def empty : Hook σ := ⟨none, false⟩

def isInstalled (hook : Hook σ) : Bool := hook.handler.isSome

def install (hook : Hook σ) (h : Handler σ) : Hook σ := { hook with handler := some h }

/-- Installs the standard handler and gives the engine the callback. -/
def register (hook : Hook σ) : Hook σ := { hook.install standard with registered := true }

/-- Passes a report to the handler. Without one the verdict is to trap. -/
def dispatch (hook : Hook σ) : Handler σ := fun r s =>
  match hook.handler with
  | some h => h r s
  | none => (.trap, s)

/-! ## The engine's callback -/

/-- A report as the engine gives it: the memory of each text, if it has one. -/
structure RawReport where
  expression : Option Bytes
  file : Option Bytes
  line : Int32
  function : Option Bytes

/-- The text of a C string, with a stand-in where there is none. -/
def textOr (missing : String) : Option Bytes → String
  | none => missing
  | some memory => Text.lossy (Text.untilZero memory)

def RawReport.read (r : RawReport) : AssertionReport where
  expression := textOr "?" r.expression
  file := textOr "?" r.file
  line := r.line
  function := textOr "" r.function

/-- The number that the callback answers for a verdict. A handler that panics traps. -/
def Verdict.code : Verdict → Int32
  | .proceed => 0
  | .trap | .panic _ => 1

/-- The engine's call of the callback, if it has it. It answers a number. -/
def callback (hook : Hook σ) (raw : RawReport) (s : Scene σ) : Option Int32 × Scene σ :=
  if hook.registered then
    let r := hook.dispatch raw.read s
    (some r.1.code, r.2)
  else (none, s)

end Hook

end HostBoundary
