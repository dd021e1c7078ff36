-- What the calls of a host come to. Whatever call it makes, and whatever
-- unwinds out of it, to the context it is one touch after another: the
-- operation is entered, or a failure is delivered. What runs depends on the
-- touches alone.
import HostBoundary.Relay.Host

namespace HostBoundary.Relay

variable {σ : Type}

/-! ## What calls come to -/

/-- What a host does to a context. -/
inductive Touch where
  /-- It enters the operation. -/
  | enter
  | deliver (f : Failure)

def Response.touches : Response → List Touch
  | .drop | .letOut => []
  | .deliver f => [.deliver f]

def Host.stepTouches (h : Host) (c : Context σ) (w : World σ) : HostStep → List Touch
  | .deliver f => [.deliver f]
  | .enter onUnwind =>
    .enter :: match (c.runTrying h.throw w).1 with
      | .returned () => []
      | .unwound p => (onUnwind p).touches

def Host.stepsTouches (h : Host) : List HostStep → Context σ → World σ → List Touch
  | [], _, _ => []
  | s :: steps, c, w =>
    h.stepTouches c w s ++ match h.runStep c w s with
      | (.returned (), c', w') => h.stepsTouches steps c' w'
      | (.unwound _, _, _) => []

/-- What each touch keeps, a script keeps. -/
theorem Host.runSteps_keeps (h : Host) {P : List Touch → Context σ → World σ → Prop}
    (henter : ∀ {ts c w}, P ts c w →
      P (ts ++ [.enter]) (c.runTrying h.throw w).2.1 (c.runTrying h.throw w).2.2)
    (hdeliver : ∀ {ts c w} f, P ts c w →
      P (ts ++ [.deliver f]) (c.runCatching f w).2.1 (c.runCatching f w).2.2)
    (steps : List HostStep) (ts : List Touch) {c : Context σ} {w : World σ} (hp : P ts c w) :
    P (ts ++ h.stepsTouches steps c w) (h.runSteps steps c w).2.1 (h.runSteps steps c w).2.2 := by
  have hstep : ∀ {ts c w} s, P ts c w →
      P (ts ++ h.stepTouches c w s) (h.runStep c w s).2.1 (h.runStep c w s).2.2 := by
    intro ts c w s hp
    cases s with
    | deliver f => exact hdeliver f hp
    | enter onUnwind =>
      have hentered := henter hp
      simp only [Host.stepTouches, Host.runStep]
      generalize c.runTrying h.throw w = r at hentered ⊢
      rcases r with ⟨⟨⟩ | p, c', w'⟩
      · exact hentered
      · simp only
        cases onUnwind p with
        | drop => exact hentered
        | letOut => exact hentered
        | deliver f =>
          rw [List.append_cons]
          exact hdeliver f hentered
  induction steps generalizing ts c w with
  | nil =>
    rw [Host.stepsTouches, List.append_nil]
    exact hp
  | cons s steps ih =>
    have hnext := hstep s hp
    simp only [Host.stepsTouches, Host.runSteps, ← List.append_assoc]
    generalize h.runStep c w s = r at hnext ⊢
    rcases r with ⟨⟨⟩ | p, c', w'⟩
    · exact ih _ hnext
    · rw [List.append_nil]
      exact hnext

namespace Context

/-- What a call does to this context. A call for no context does nothing to it. -/
def touches (c : Context σ) (w : World σ) : ContextCall → List Touch
  | .runTrying _ | .enterExport true => [.enter]
  | .runCatching f | .deliverExport true (some f) => [.deliver f]
  | .deliverExport true none => [.deliver ⟨.runtime, "foreign exception"⟩]
  | .tryCatch h => h.stepsTouches h.script c w
  | .enterExport false | .deliverExport false _ => []

/-- Makes calls in a row. The host goes on, whatever unwinds out of them. -/
def performAll (c : Context σ) (w : World σ) : List ContextCall → Context σ × World σ
  | [] => (c, w)
  | call :: calls =>
    let r := c.perform w call
    r.2.1.performAll r.2.2 calls

def touchesAll (c : Context σ) (w : World σ) : List ContextCall → List Touch
  | [] => []
  | call :: calls =>
    let r := c.perform w call
    c.touches w call ++ r.2.1.touchesAll r.2.2 calls

theorem performAll_append (c : Context σ) (w : World σ) (calls more : List ContextCall) :
    c.performAll w (calls ++ more) =
      (c.performAll w calls).1.performAll (c.performAll w calls).2 more := by
  induction calls generalizing c w with
  | nil => rfl
  | cons call calls ih => exact ih _ _

theorem touchesAll_append (c : Context σ) (w : World σ) (calls more : List ContextCall) :
    c.touchesAll w (calls ++ more) = c.touchesAll w calls ++
      (c.performAll w calls).1.touchesAll (c.performAll w calls).2 more := by
  induction calls generalizing c w with
  | nil => rfl
  | cons call calls ih =>
    simp only [List.cons_append, touchesAll, performAll, ih, List.append_assoc]

end Context

/-- The failures that are delivered, in order. -/
def Touch.delivered : List Touch → List Failure :=
  List.filterMap fun
    | .enter => none
    | .deliver f => some f

/-! ## What runs -/

/-- A part of a context, and what the continuation is called with. -/
inductive Part where
  | trying
  | catching (f : Failure)
  deriving DecidableEq

def Part.failure? : Part → Option Failure
  | .trying => none
  | .catching f => some f

/-- The operation runs if it is entered before anything else. The
continuation runs with the first failure. -/
def Touch.running : List Touch → List Part
  | .enter :: ts => .trying :: (delivered ts).head?.toList.map .catching
  | ts => (delivered ts).head?.toList.map .catching

namespace Touch

variable {ts : List Touch}

theorem delivered_append (ts ts' : List Touch) :
    delivered (ts ++ ts') = delivered ts ++ delivered ts' :=
  List.filterMap_append

theorem delivered_enter (ts : List Touch) : delivered (ts ++ [.enter]) = delivered ts := by
  simp [delivered]

theorem delivered_deliver (ts : List Touch) (f : Failure) :
    delivered (ts ++ [.deliver f]) = delivered ts ++ [f] := by
  simp [delivered]

/-- What is entered late does not run. -/
theorem running_enter (h : ts ≠ []) : running (ts ++ [.enter]) = running ts := by
  rcases ts with _ | ⟨⟨⟩ | f, ts⟩
  · exact absurd rfl h
  · simp [running, delivered_enter]
  · rfl

/-- Nothing runs after a failure was delivered. -/
theorem running_late (h : delivered ts ≠ []) (more : List Touch) :
    running (ts ++ more) = running ts := by
  rcases ts with _ | ⟨⟨⟩ | g, ts⟩
  · exact absurd rfl h
  · obtain ⟨g, gs, hg⟩ := List.exists_cons_of_ne_nil (l := delivered ts) h
    simp [running, delivered_append, hg]
  · rfl

theorem running_first (h : delivered ts = []) (f : Failure) :
    running (ts ++ [.deliver f]) = running ts ++ [.catching f] := by
  rcases ts with _ | ⟨⟨⟩ | g, ts⟩
  · rfl
  · have hrest : delivered ts = [] := h
    simp [running, delivered_deliver, hrest]
  · cases h

/-- Where touches came and no failure, the first one entered the operation. -/
theorem running_undelivered (h : ts ≠ []) (h' : delivered ts = []) (more : List Touch) :
    running (ts ++ more) = .trying :: (delivered (ts ++ more)).head?.toList.map .catching := by
  rcases ts with _ | ⟨⟨⟩ | f, ts⟩
  · exact absurd rfl h
  · rfl
  · cases h'

theorem count_trying_running (ts : List Touch) : (running ts).count .trying ≤ 1 := by
  have hcatching : ∀ l : List Failure, (l.map Part.catching).count .trying = 0 := by
    intro l
    simp [List.count_eq_zero]
  rcases ts with _ | ⟨⟨⟩ | f, ts⟩
  · exact Nat.zero_le 1
  · simp [running, hcatching]
  · exact Nat.zero_le 1

theorem failures_running (ts : List Touch) :
    (running ts).filterMap Part.failure? = (delivered ts).head?.toList := by
  have hcatching : ∀ l : List Failure, (l.map Part.catching).filterMap Part.failure? = l := by
    intro l
    simp [List.filterMap_map, Function.comp_def, Part.failure?]
  rcases ts with _ | ⟨⟨⟩ | f, ts⟩
  · rfl
  · exact hcatching _
  · rfl

end Touch

end HostBoundary.Relay
