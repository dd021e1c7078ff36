-- The law of a relay context under any host. The host may enter the operation
-- and deliver failures in any order, as often as it likes, and go on after
-- whatever unwinds. Still each part of the context runs at most once, and the
-- phase says which parts there still are.
import HostBoundary.Proofs.Relay.Touches

namespace HostBoundary.Relay

variable {σ : Type}

/-! ## Runs with marks -/

/-- The world beside a list of the parts that ran. -/
def World.beside (w : World σ) (ran : List Part) : World (σ × List Part) :=
  ⟨(w.user, ran), w.log⟩

/-- The operation, with a mark that it ran. -/
def Operation.marking {α : Type} (op : Operation σ α) : Operation (σ × List Part) α := fun w =>
  let r := op ⟨w.user.1, w.log⟩
  (r.1, r.2.beside (w.user.2 ++ [.trying]))

/-- The continuation, with a mark that it ran, and with what failure. -/
def Continuation.marking (k : Continuation σ) : Continuation (σ × List Part) := fun f w =>
  let r := k f ⟨w.user.1, w.log⟩
  (r.1, r.2.beside (w.user.2 ++ [.catching f]))

def Context.marking (c : Context σ) : Context (σ × List Part) :=
  ⟨c.trying.map Operation.marking, c.catching.map Continuation.marking, c.phase⟩

/-- A part that is spent is spent with marks too. -/
theorem Context.marking_trying {c : Context σ} (h : c.trying = none) :
    c.marking.trying = none := by
  simp [marking, h]

theorem Context.marking_catching {c : Context σ} (h : c.catching = none) :
    c.marking.catching = none := by
  simp [marking, h]

/-! ## One touch -/

/-- How a fresh context is kept by touches. -/
structure Context.Kept (ts : List Touch) (c : Context σ) : Prop where
  held : c.trying = none ↔ ts ≠ []
  given_up : c.catching = none ↔ Touch.delivered ts ≠ []
  pending : c.phase = .pending ↔ ts = []
  handled : c.phase = .handled ↔ Touch.delivered ts ≠ []

/-- A run, and the same run with marks: they show the same, and the marks are
those of the touches. -/
structure Shows (ts : List Touch) (r : Ending Unit × Context σ × World σ)
    (r' : Ending Unit × Context (σ × List Part) × World (σ × List Part)) : Prop where
  kept : r.2.1.Kept ts
  marked : r' = (r.1, r.2.1.marking, r.2.2.beside (Touch.running ts))

theorem Context.kept_new (op : Operation σ Unit) (k : Continuation σ) :
    (Context.new op k).Kept [] := by
  constructor <;> simp [Context.new, Touch.delivered]

section

variable {c : Context σ}

theorem Context.runTrying_spent (h : c.trying = none) (throw : Failure → Payload) (w : World σ) :
    c.runTrying throw w = (.returned (), c, w.record .enteredTwice) := by
  unfold runTrying
  rw [h]

theorem Context.runCatching_spent (h : c.catching = none) (f : Failure) (w : World σ) :
    c.runCatching f w = (.returned (), c, w.record (.caughtTwice f)) := by
  unfold runCatching
  rw [h]

variable {ts : List Touch}

theorem Context.Kept.enter_late (hc : c.Kept ts) (h : ts ≠ []) : c.Kept (ts ++ [.enter]) where
  held := by simpa [h] using hc.held
  given_up := by simpa [Touch.delivered_enter] using hc.given_up
  pending := by simpa [h] using hc.pending
  handled := by simpa [Touch.delivered_enter] using hc.handled

theorem Context.Kept.deliver_late (hc : c.Kept ts) (h : Touch.delivered ts ≠ []) (f : Failure) :
    c.Kept (ts ++ [.deliver f]) := by
  have hts : ts ≠ [] := by
    rintro rfl
    exact h rfl
  constructor
  · simpa [hts] using hc.held
  · simpa [Touch.delivered_deliver, h] using hc.given_up
  · simpa [hts] using hc.pending
  · simpa [Touch.delivered_deliver, h] using hc.handled

theorem shows_runTrying (hc : c.Kept ts) (throw : Failure → Payload) (w : World σ) :
    Shows (ts ++ [.enter]) (c.runTrying throw w)
      (c.marking.runTrying throw (w.beside (Touch.running ts))) := by
  rcases htrying : c.trying with _ | op
  · have hts : ts ≠ [] := hc.held.1 htrying
    rw [Context.runTrying_spent htrying, Context.runTrying_spent (Context.marking_trying htrying)]
    refine ⟨hc.enter_late hts, ?_⟩
    rw [Touch.running_enter hts]
    rfl
  · obtain rfl : ts = [] := by simpa [htrying] using hc.held
    have hcatching : c.catching ≠ none := by simpa [Touch.delivered] using hc.given_up
    have hmarking : c.marking.trying = some op.marking := by simp [Context.marking, htrying]
    have hmark : op.marking (w.beside []) = ((op w).1, (op w).2.beside [.trying]) := rfl
    simp only [Context.runTrying, htrying, hmarking]
    rw [show Touch.running [] = [] from rfl, hmark]
    -- Whether the operation returns, fails or unwinds, it is gone.
    rcases op w with ⟨(f | ⟨⟩) | p, w'⟩
    · refine ⟨⟨?_, ?_, ?_, ?_⟩, rfl⟩ <;> simp [Touch.delivered, hcatching]
    · refine ⟨⟨?_, ?_, ?_, ?_⟩, rfl⟩ <;> simp [Touch.delivered, hcatching]
    · refine ⟨⟨?_, ?_, ?_, ?_⟩, rfl⟩ <;> simp [Touch.delivered, hcatching]

theorem shows_runCatching (hc : c.Kept ts) (f : Failure) (w : World σ) :
    Shows (ts ++ [.deliver f]) (c.runCatching f w)
      (c.marking.runCatching f (w.beside (Touch.running ts))) := by
  rcases hcatching : c.catching with _ | k
  · have hlate : Touch.delivered ts ≠ [] := hc.given_up.1 hcatching
    rw [Context.runCatching_spent hcatching,
      Context.runCatching_spent (Context.marking_catching hcatching)]
    refine ⟨hc.deliver_late hlate f, ?_⟩
    rw [Touch.running_late hlate]
    rfl
  · have hfirst : Touch.delivered ts = [] := by simpa [hcatching] using hc.given_up
    have hmarking : c.marking.catching = some k.marking := by simp [Context.marking, hcatching]
    simp only [Context.runCatching, hcatching, hmarking]
    refine ⟨?_, ?_⟩
    · constructor <;> simp [Touch.delivered_deliver]
    · rw [Touch.running_first hfirst]
      rfl

/-! ## Calls -/

theorem shows_runStep (hc : c.Kept ts) (h : Host) (w : World σ) (s : HostStep) :
    Shows (ts ++ h.stepTouches c w s) (h.runStep c w s)
      (h.runStep c.marking (w.beside (Touch.running ts)) s) := by
  cases s with
  | deliver f => exact shows_runCatching hc f w
  | enter onUnwind =>
    obtain ⟨hkept, hmark⟩ := shows_runTrying hc h.throw w
    simp only [Host.stepTouches, Host.runStep, hmark]
    generalize c.runTrying h.throw w = r at hkept ⊢
    rcases r with ⟨⟨⟩ | p, c', w'⟩
    · exact ⟨hkept, rfl⟩
    · simp only
      cases onUnwind p with
      | drop => exact ⟨hkept, rfl⟩
      | letOut => exact ⟨hkept, rfl⟩
      | deliver f =>
        rw [List.append_cons]
        exact shows_runCatching hkept f w'

theorem shows_runSteps (hc : c.Kept ts) (h : Host) (steps : List HostStep) (w : World σ) :
    Shows (ts ++ h.stepsTouches steps c w) (h.runSteps steps c w)
      (h.runSteps steps c.marking (w.beside (Touch.running ts))) := by
  induction steps generalizing ts c w with
  | nil =>
    rw [Host.stepsTouches, List.append_nil]
    exact ⟨hc, rfl⟩
  | cons s steps ih =>
    obtain ⟨hkept, hmark⟩ := shows_runStep hc h w s
    simp only [Host.stepsTouches, Host.runSteps, hmark, ← List.append_assoc]
    generalize h.runStep c w s = r at hkept ⊢
    rcases r with ⟨⟨⟩ | p, c', w'⟩
    · exact ih hkept w'
    · rw [List.append_nil]
      exact ⟨hkept, rfl⟩

theorem shows_perform (hc : c.Kept ts) (w : World σ) (call : ContextCall) :
    Shows (ts ++ c.touches w call) (c.perform w call)
      (c.marking.perform (w.beside (Touch.running ts)) call) := by
  cases call with
  | runTrying h => exact shows_runTrying hc h.throw w
  | runCatching f => exact shows_runCatching hc f w
  | tryCatch h => exact shows_runSteps hc h h.script w
  | enterExport hasContext =>
    cases hasContext with
    | true => exact shows_runTrying hc .thrown w
    | false =>
      rw [Context.touches, List.append_nil]
      exact ⟨hc, rfl⟩
  | deliverExport hasContext caught =>
    cases hasContext with
    | true => cases caught <;> exact shows_runCatching hc _ w
    | false =>
      rw [Context.touches, List.append_nil]
      exact ⟨hc, rfl⟩

/-- What one call preserves, every run of calls preserves. -/
theorem shows_performAll (hc : c.Kept ts) (w : World σ) (calls : List ContextCall) :
    (c.performAll w calls).1.Kept (ts ++ c.touchesAll w calls) ∧
      c.marking.performAll (w.beside (Touch.running ts)) calls =
        ((c.performAll w calls).1.marking,
          (c.performAll w calls).2.beside (Touch.running (ts ++ c.touchesAll w calls))) := by
  induction calls generalizing ts c w with
  | nil =>
    rw [Context.touchesAll, List.append_nil]
    exact ⟨hc, rfl⟩
  | cons call calls ih =>
    obtain ⟨hkept, hmark⟩ := shows_perform hc w call
    simp only [Context.touchesAll, Context.performAll, hmark, ← List.append_assoc]
    exact ih hkept _

end

/-! ## Calls that change nothing -/

/-- The step is for a part that is spent. -/
def Context.IdleStep (c : Context σ) : HostStep → Prop
  | .enter _ => c.trying = none
  | .deliver _ => c.catching = none

/-- The call is for no context, or for a part that is spent. -/
def Context.Idle (c : Context σ) : ContextCall → Prop
  | .runTrying _ | .enterExport true => c.trying = none
  | .runCatching _ | .deliverExport true _ => c.catching = none
  | .tryCatch h => ∀ s ∈ h.script, c.IdleStep s
  | .enterExport false | .deliverExport false _ => True

/-- The run returns. Of the context and the world it leaves all but the log as it was. -/
def OnlyLogs (c : Context σ) (w : World σ) (r : Ending Unit × Context σ × World σ) : Prop :=
  ∃ log, r = (.returned (), c, { w with log := log })

section

variable {c : Context σ}

theorem onlyLogs_runTrying (h : c.trying = none) (throw : Failure → Payload) (w : World σ) :
    OnlyLogs c w (c.runTrying throw w) :=
  ⟨_, Context.runTrying_spent h throw w⟩

theorem onlyLogs_runCatching (h : c.catching = none) (f : Failure) (w : World σ) :
    OnlyLogs c w (c.runCatching f w) :=
  ⟨_, Context.runCatching_spent h f w⟩

theorem onlyLogs_runStep (h : Host) {s : HostStep} (hs : c.IdleStep s) (w : World σ) :
    OnlyLogs c w (h.runStep c w s) := by
  cases s with
  | deliver f => exact onlyLogs_runCatching hs f w
  | enter onUnwind =>
    obtain ⟨log, hrun⟩ := onlyLogs_runTrying hs h.throw w
    refine ⟨log, ?_⟩
    rw [Host.runStep, hrun]

theorem onlyLogs_runSteps (h : Host) {steps : List HostStep} (hs : ∀ s ∈ steps, c.IdleStep s)
    (w : World σ) : OnlyLogs c w (h.runSteps steps c w) := by
  induction steps generalizing w with
  | nil => exact ⟨w.log, rfl⟩
  | cons s steps ih =>
    rw [List.forall_mem_cons] at hs
    obtain ⟨log, hrun⟩ := onlyLogs_runStep h hs.1 w
    rw [Host.runSteps, hrun]
    exact ih hs.2 _

theorem onlyLogs_perform {call : ContextCall} (h : c.Idle call) (w : World σ) :
    OnlyLogs c w (c.perform w call) := by
  cases call with
  | runTrying host => exact onlyLogs_runTrying h host.throw w
  | runCatching f => exact onlyLogs_runCatching h f w
  | tryCatch host => exact onlyLogs_runSteps host h w
  | enterExport hasContext =>
    cases hasContext with
    | true => exact onlyLogs_runTrying h .thrown w
    | false => exact ⟨w.log, rfl⟩
  | deliverExport hasContext caught =>
    cases hasContext with
    | true => exact onlyLogs_runCatching h _ w
    | false => exact ⟨_, rfl⟩

theorem Context.performAll_idle {w : World σ} {calls : List ContextCall} {call : ContextCall}
    (h : (c.performAll w calls).1.Idle call) :
    (c.performAll w (calls ++ [call])).1 = (c.performAll w calls).1 ∧
      (c.performAll w (calls ++ [call])).2.user = (c.performAll w calls).2.user := by
  obtain ⟨log, hrun⟩ := onlyLogs_perform h (c.performAll w calls).2
  rw [performAll_append, performAll, hrun]
  exact ⟨rfl, rfl⟩

theorem Context.Idle.marking {call : ContextCall} (h : c.Idle call) : c.marking.Idle call := by
  cases call with
  | runTrying host => exact marking_trying h
  | runCatching f => exact marking_catching h
  | tryCatch host =>
    intro s hs
    cases s with
    | enter onUnwind => exact marking_trying (h _ hs)
    | deliver f => exact marking_catching (h _ hs)
  | enterExport hasContext =>
    cases hasContext with
    | true => exact marking_trying h
    | false => trivial
  | deliverExport hasContext caught =>
    cases hasContext with
    | true => exact marking_catching h
    | false => trivial

end

/-! ## The law -/

/-- The parts that run while calls are made on a context. -/
def Context.ran (c : Context σ) (w : World σ) (calls : List ContextCall) : List Part :=
  (c.marking.performAll (w.beside []) calls).2.user.2

/-- Of a fresh context the parts run that the touches of the calls make run. -/
theorem Context.ran_new (op : Operation σ Unit) (k : Continuation σ) (w : World σ)
    (calls : List ContextCall) :
    (Context.new op k).ran w calls = Touch.running ((Context.new op k).touchesAll w calls) := by
  have hmarked := (shows_performAll (kept_new op k) w calls).2
  exact congrArg (fun r => r.2.user.2) hmarked

/-- The law of a context and the calls that were made on it. -/
structure OneShot (c : Context σ) (w : World σ) (calls : List ContextCall) : Prop where
  /-- Marks change nothing of a run. They stand beside it. -/
  beside : c.marking.performAll (w.beside []) calls =
    ((c.performAll w calls).1.marking, (c.performAll w calls).2.beside (c.ran w calls))
  ran : c.ran w calls = Touch.running (c.touchesAll w calls)
  trying_once : (c.ran w calls).count .trying ≤ 1
  /-- The continuation runs at most once, and with the first failure that is delivered. -/
  first_failure : (c.ran w calls).filterMap Part.failure? =
    (Touch.delivered (c.touchesAll w calls)).head?.toList
  /-- Once a failure was delivered, nothing runs any more. -/
  after_delivery : Touch.delivered (c.touchesAll w calls) ≠ [] →
    ∀ more, c.ran w (calls ++ more) = c.ran w calls
  held : (c.performAll w calls).1.trying.isSome ↔ (c.performAll w calls).1.phase = .pending
  given_up : (c.performAll w calls).1.catching = none ↔ (c.performAll w calls).1.phase = .handled
  handled_stays : (c.performAll w calls).1.phase = .handled →
    ∀ more, (c.performAll w (calls ++ more)).1.phase = .handled
  /-- A call for no context, or for a part that is spent, runs nothing and changes nothing. -/
  idle : ∀ call, (c.performAll w calls).1.Idle call →
    (c.performAll w (calls ++ [call])).1 = (c.performAll w calls).1 ∧
      c.ran w (calls ++ [call]) = c.ran w calls

/-- Whatever a host does with a fresh context, neither part runs twice. -/
theorem each_part_of_a_context_runs_at_most_once (op : Operation σ Unit) (k : Continuation σ)
    (w : World σ) (calls : List ContextCall) : OneShot (Context.new op k) w calls := by
  have hkept : ∀ calls, ((Context.new op k).performAll w calls).1.Kept
      ((Context.new op k).touchesAll w calls) :=
    fun calls => (shows_performAll (Context.kept_new op k) w calls).1
  have hmarked : ∀ calls, (Context.new op k).marking.performAll (w.beside []) calls =
      (((Context.new op k).performAll w calls).1.marking,
        ((Context.new op k).performAll w calls).2.beside
          (Touch.running ((Context.new op k).touchesAll w calls))) :=
    fun calls => (shows_performAll (Context.kept_new op k) w calls).2
  have hran : ∀ calls, (Context.new op k).ran w calls =
      Touch.running ((Context.new op k).touchesAll w calls) := Context.ran_new op k w
  refine ⟨?_, hran calls, ?_, ?_, ?_, ?_, ?_, ?_, ?_⟩
  · rw [hran, hmarked]
  · rw [hran]
    exact Touch.count_trying_running _
  · rw [hran]
    exact Touch.failures_running _
  · intro h more
    rw [hran, hran, Context.touchesAll_append, Touch.running_late h]
  · rw [(hkept calls).pending, Option.isSome_iff_ne_none, Ne, (hkept calls).held,
      Classical.not_not]
  · rw [(hkept calls).given_up, (hkept calls).handled]
  · intro h more
    rw [(hkept calls).handled] at h
    rw [(hkept _).handled, Context.touchesAll_append, Touch.delivered_append]
    exact List.append_ne_nil_of_left_ne_nil h _
  · intro call h
    refine ⟨(Context.performAll_idle h).1, ?_⟩
    have hmarking : ((Context.new op k).marking.performAll (w.beside []) calls).1.Idle call := by
      rw [hmarked]
      exact h.marking
    rw [Context.ran, (Context.performAll_idle hmarking).2]
    rfl

/-- What a host caught elsewhere is the first failure of the context. The operation that it
enters then is gone. -/
example (op : Operation σ Unit) (k : Continuation σ) (w : World σ) (f : Failure) :
    (Context.new op k).ran w [.deliverExport true none, .tryCatch Host.native, .runCatching f] =
      [.catching ⟨.runtime, "foreign exception"⟩] := rfl

end HostBoundary.Relay
