-- The stack of a running engine, as the boundary sees it: 64-bit numbers of
-- slots. Requests come as 32-bit numbers with a sign, and a request that is
-- not positive asks for nothing.
import HostBoundary.Failure

namespace HostBoundary.Stack

/-- What the boundary asks of a stack whose state is `ω`. -/
structure View (ω : Type) where
  /-- The first free slot. -/
  top : ω → UInt64
  /-- Makes room for more slots above the top, or fails. -/
  grow : UInt64 → ω → Except Failure Unit × ω
  /-- Raises the soft limit to at least this. -/
  raiseLimit : UInt64 → ω → ω
  /-- Whether a frame runs native code, if there is such a frame. -/
  isNative : UInt64 → ω → Option Bool × ω

namespace View

/-- The growth of a stack that is given by its parts, without a look into them. -/
theorem grow_mk {ω : Type} (top : ω → UInt64) (grow : UInt64 → ω → Except Failure Unit × ω)
    (raiseLimit : UInt64 → ω → ω) (isNative : UInt64 → ω → Option Bool × ω) :
    (View.mk top grow raiseLimit isNative).grow = grow := rfl

variable {ω : Type} (v : View ω)

/-- Guarantees `n` more slots. -/
def ensure (n : Int32) (s : ω) : Except Failure Unit × ω :=
  match Word.unsigned? n with
  | none => (.ok (), s)
  | some slots => if slots = 0 then (.ok (), s) else v.grow slots s

/-- A request that is not positive asks for nothing. -/
theorem ensure_of_nonpos {n : Int32} (h : n.toInt ≤ 0) (s : ω) :
    v.ensure n s = (.ok (), s) := by
  unfold ensure
  split
  · rfl
  · rename_i slots hslots
    have hzero : slots = 0 := by
      have hnat := Word.toNat_of_unsigned? hslots
      apply UInt64.toNat_inj.1
      show slots.toNat = 0
      omega
    rw [if_pos hzero]

/-- Any other goes to the stack as it is. -/
theorem ensure_of_pos {n : Int32} (h : 0 < n.toInt) {slots : UInt64}
    (hslots : Word.unsigned? n = some slots) (s : ω) : v.ensure n s = v.grow slots s := by
  have hsome : slots ≠ 0 := by
    have hnat := Word.toNat_of_unsigned? hslots
    rintro rfl
    rw [← hnat] at h
    exact absurd h (by decide)
  simp only [ensure, hslots, if_neg hsome]

/-- Raises the soft limit to the top and `n` slots above it. -/
def expandLimit (n : Int32) (s : ω) : ω :=
  v.raiseLimit (Word.addSaturating (v.top s) ((Word.unsigned? n).getD 0)) s

/-- Whether the frame at a level runs native code. No frame does not. -/
def isNativeFrame (level : Int32) (s : ω) : Bool × ω :=
  match Word.unsigned? level with
  | none => (false, s)
  | some l =>
    let r := v.isNative l s
    (r.1.getD false, r.2)

end View

/-! ## A stack with a ceiling -/

/-- A request that reached a stack. -/
inductive Request where
  | grow (n : UInt64)
  | limit (l : UInt64)
  deriving DecidableEq

/-- A stack that grows up to a ceiling, unless memory is out. -/
structure Bounded where
  top : UInt64
  size : UInt64
  limit : UInt64
  ceiling : UInt64
  outOfMemory : Bool
  native : List Bool
  /-- The requests that reached it, oldest first. -/
  requests : List Request

def outOfMemory : Failure := .memory "not enough memory"

namespace Bounded

def grow (n : UInt64) (s : Bounded) : Except Failure Unit × Bounded :=
  let asked := { s with requests := s.requests ++ [.grow n] }
  let needed := Word.addSaturating s.top n
  if s.outOfMemory then (.error Stack.outOfMemory, asked)
  else if s.ceiling < needed then (.error (.stackOverflow n), asked)
  else (.ok (), { asked with size := max s.size needed })

def raiseLimit (l : UInt64) (s : Bounded) : Bounded :=
  { s with limit := max s.limit l, requests := s.requests ++ [.limit l] }

def view : View Bounded where
  top s := s.top
  grow := grow
  raiseLimit := raiseLimit
  isNative level s := (s.native[level.toNat]?, s)

end Bounded

end HostBoundary.Stack
