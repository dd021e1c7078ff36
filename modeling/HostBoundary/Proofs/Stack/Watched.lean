-- Stacks and engines that are watched. Beside its own state each keeps the
-- list of what was asked of it, and it answers as before.
import HostBoundary.Stack.Engine

namespace HostBoundary.Stack

variable {η ω : Type}

/-- The stack, with the requests for slots and limits that reached it, oldest first. -/
def View.watched (v : View ω) : View (ω × List Request) where
  top s := v.top s.1
  grow n s :=
    let r := v.grow n s.1
    (r.1, (r.2, s.2 ++ [.grow n]))
  raiseLimit l s := (v.raiseLimit l s.1, s.2 ++ [.limit l])
  isNative level s :=
    let r := v.isNative level s.1
    (r.1, (r.2, s.2))

/-- A call that reached an engine, with the code that answered it. -/
inductive Reached (η : Type) where
  | checkStack (h : η) (n code : Int32)
  | expandLimit (h : η) (limit : Int32)
  | isNative (h : η) (level code : Int32)
  deriving DecidableEq

/-- The engine, with the calls that reached it, oldest first. Reading the top is no such call. -/
def Engine.watched (e : Engine η ω) : Engine η (ω × List (Reached η)) where
  checkStack h n s :=
    let r := e.checkStack h n s.1
    (r.1, (r.2, s.2 ++ [.checkStack h n r.1]))
  stackTop h s := e.stackTop h s.1
  expandLimit h l s := (e.expandLimit h l s.1, s.2 ++ [.expandLimit h l])
  isNative h level s :=
    let r := e.isNative h level s.1
    (r.1, (r.2, s.2 ++ [.isNative h level r.1]))

end HostBoundary.Stack
