-- The engine's own entry points for its stack. They take and answer 32-bit
-- numbers with a sign, and answer in codes. `Engine.view` shows them as a
-- stack, and the calls here are those that a host makes on the engine's
-- state, which may be missing.
import HostBoundary.Relay.Host
import HostBoundary.Stack.View

namespace HostBoundary.Stack

/-- The entry points of an engine with states `η`. -/
structure Engine (η ω : Type) where
  /-- Answers a code for a request for more slots. -/
  checkStack : η → Int32 → ω → Int32 × ω
  stackTop : η → ω → Int32
  expandLimit : η → Int32 → ω → ω
  /-- Answers a code for a level of the call stack. -/
  isNative : η → Int32 → ω → Int32 × ω

namespace Engine

/-- The code for a request that was met. -/
def codeOk : Int32 := 0

/-- The code for a request that ran out of memory. All codes but these two are overflows. -/
def codeMemory : Int32 := 2

/-- The code for a level that has no frame. -/
def codeNoFrame : Int32 := -1

variable {η ω : Type} (e : Engine η ω)

/-- What a code says of a request for `n` slots. -/
def granted (code : Int32) (n : UInt64) : Except Failure Unit :=
  if code = codeOk then .ok ()
  else if code = codeMemory then .error outOfMemory
  else .error (.stackOverflow n)

def frame? (code : Int32) : Option Bool :=
  if code = codeNoFrame then none else some (code ≠ 0)

/-- The stack of one state. A top below zero counts as zero, and a limit
that is too large is cut down. -/
def view (h : η) : View ω where
  top s := (Word.unsigned? (e.stackTop h s)).getD 0
  grow n s :=
    match Word.signed? n with
    | none => (.error (.stackOverflow n), s)
    | some slots =>
      let r := e.checkStack h slots s
      (granted r.1 n, r.2)
  raiseLimit l s := e.expandLimit h (Word.clampInt32 l.toNat) s
  isNative level s :=
    match Word.signed? level with
    | none => (none, s)
    | some l =>
      let r := e.isNative h l s
      (frame? r.1, r.2)

/-- A request that fits goes to the engine, and its code is the answer. -/
theorem view_grow {h : η} {n : Int32} {slots : UInt64} (hfits : Word.signed? slots = some n)
    (s : ω) : (e.view h).grow slots s =
      (granted (e.checkStack h n s).1 slots, (e.checkStack h n s).2) := by
  -- The test whether a number fits is not to be computed here: its bounds are large.
  rw [view, View.grow_mk, hfits]

/-- A call for slots is one request, and its code is the answer. -/
theorem view_ensure {h : η} {n : Int32} (hpos : 0 < n.toInt) {slots : UInt64}
    (hslots : Word.unsigned? n = some slots) (s : ω) : (e.view h).ensure n s =
      (granted (e.checkStack h n s).1 slots, (e.checkStack h n s).2) := by
  rw [View.ensure_of_pos _ hpos hslots, e.view_grow (Word.signed?_of_unsigned? hslots)]

/-- A request that does not fit is refused here, and the engine is not asked. -/
theorem view_grow_of_large {h : η} {slots : UInt64} (hlarge : 0x80000000 ≤ slots.toNat) (s : ω) :
    (e.view h).grow slots s = (.error (.stackOverflow slots), s) := by
  rw [view, View.grow_mk, Word.signed?_of_large hlarge]

/-! ## Calls of the host -/

/-- Makes room for `n` more slots, and raises the failure natively where
there is none. Without a state nothing is asked. -/
def ensure (state : Option η) (n : Int32) (w : Relay.World ω) :
    Relay.Ending Unit × Relay.World ω :=
  match state with
  | none => (.returned (), w)
  | some h =>
    match (e.view h).ensure n w.user with
    | (.ok (), s) => (.returned (), { w with user := s })
    | (.error f, s) => Relay.raise Relay.Host.native f { w with user := s }

def expand (state : Option η) (n : Int32) (s : ω) : ω :=
  match state with
  | none => s
  | some h => (e.view h).expandLimit n s

/-- One for a native frame, and zero else. -/
def isNativeFrame (state : Option η) (level : Int32) (s : ω) : Int32 × ω :=
  match state with
  | none => (0, s)
  | some h =>
    let r := (e.view h).isNativeFrame level s
    (if r.1 then 1 else 0, r.2)

end Engine

/-! ## An engine with a ceiling -/

/-- A call that reached an engine. -/
inductive EngineCall where
  | checkStack (n : Int32)
  | limit (l : Int32)
  | isNative (level : Int32)
  deriving DecidableEq

/-- An engine with one state, whose stack grows up to a ceiling. -/
structure BoundedEngine where
  top : Int32
  size : Int32
  limit : Int32
  ceiling : Int32
  /-- The codes of its frames, innermost first. -/
  frames : List Int32
  /-- The code that every request for slots is answered with, if it is set. -/
  forced : Option Int32
  /-- The calls that reached it, oldest first. -/
  calls : List EngineCall

namespace BoundedEngine

def checkStack (n : Int32) (s : BoundedEngine) : Int32 × BoundedEngine :=
  let asked := { s with calls := s.calls ++ [.checkStack n] }
  match s.forced with
  | some code => (code, asked)
  | none =>
    let needed := Word.addClamped s.top n
    if s.ceiling < needed then (1, asked)
    else (Engine.codeOk, { asked with size := max s.size needed })

def isNative (level : Int32) (s : BoundedEngine) : Int32 × BoundedEngine :=
  let code := match Word.unsigned? level with
    | none => Engine.codeNoFrame
    | some l => s.frames[l.toNat]?.getD Engine.codeNoFrame
  (code, { s with calls := s.calls ++ [.isNative level] })

def engine : Engine Unit BoundedEngine where
  checkStack _ := checkStack
  stackTop _ s := s.top
  expandLimit _ l s := { s with limit := max s.limit l, calls := s.calls ++ [.limit l] }
  isNative _ := isNative

end BoundedEngine

end HostBoundary.Stack
