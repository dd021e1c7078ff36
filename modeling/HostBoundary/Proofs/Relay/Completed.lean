-- The laws of an operation that returned well. Its context stays completed,
-- and its continuation is not called, as long as the host delivers only what
-- unwinds. A context does not close to a failure that comes unasked, though:
-- the first one that comes late goes to the continuation all the same.
import HostBoundary.Proofs.Relay.AnyHost

namespace HostBoundary.Relay

variable {σ α : Type}

/-! ## Failures that come unasked -/

/-- The failure of a step that does not answer an unwind. -/
def HostStep.unasked? : HostStep → Option Failure
  | .enter _ => none
  | .deliver f => some f

/-- The failures that a host delivers and that answer no unwind. -/
def Host.unasked (h : Host) : List Failure := h.script.filterMap HostStep.unasked?

/-- The failures that a call brings to its context and that answer no unwind. -/
def ContextCall.unasked : ContextCall → List Failure
  | .runTrying _ | .enterExport _ | .deliverExport false _ => []
  | .runCatching f => [f]
  | .tryCatch h => h.unasked
  | .deliverExport true caught => [caught.getD Payload.foreign]

/-- The first failure that calls bring unasked. -/
def firstUnasked (calls : List ContextCall) : Option Failure :=
  (calls.flatMap ContextCall.unasked).head?

theorem firstUnasked_cons (call : ContextCall) (calls : List ContextCall) :
    firstUnasked (call :: calls) = call.unasked.head?.or (firstUnasked calls) := by
  rw [firstUnasked, List.flatMap_cons, List.head?_append]
  rfl

theorem firstUnasked_eq_none {calls : List ContextCall} :
    firstUnasked calls = none ↔ ∀ call ∈ calls, call.unasked = [] := by
  rw [firstUnasked, List.head?_eq_none_iff, List.flatMap_eq_nil_iff]

/-! ## An operation that is spent -/

section

variable {c : Context σ} (hc : c.trying = none)

include hc

theorem runStep_enter_spent (h : Host) (onUnwind : Payload → Response) (w : World σ) :
    h.runStep c w (.enter onUnwind) = (.returned (), c, w.record .enteredTwice) := by
  rw [Host.runStep, Context.runTrying_spent hc]

/-- With the operation spent nothing unwinds out of it, so what a script
delivers first is what it delivers unasked. -/
theorem head?_delivered_steps (h : Host) (steps : List HostStep) (w : World σ) :
    (Touch.delivered (h.stepsTouches steps c w)).head? =
      (steps.filterMap HostStep.unasked?).head? := by
  induction steps generalizing w with
  | nil => rfl
  | cons s steps ih =>
    cases s with
    | deliver f => rfl
    | enter onUnwind =>
      rw [Host.stepsTouches, runStep_enter_spent hc, Host.stepTouches, Context.runTrying_spent hc,
        Touch.delivered_append]
      exact ih _

theorem head?_delivered_call (call : ContextCall) (w : World σ) :
    (Touch.delivered (c.touches w call)).head? = call.unasked.head? := by
  cases call with
  | runTrying h => rfl
  | runCatching f => rfl
  | tryCatch h => exact head?_delivered_steps hc h h.script w
  | enterExport hasContext => cases hasContext <;> rfl
  | deliverExport hasContext caught => cases hasContext <;> cases caught <;> rfl

theorem runCatching_trying (f : Failure) (w : World σ) :
    (c.runCatching f w).2.1.trying = none := by
  unfold Context.runCatching
  split
  · exact hc
  · rfl

/-- An operation that is spent stays so. -/
theorem perform_spent (call : ContextCall) (w : World σ) :
    (c.perform w call).2.1.trying = none := by
  cases call with
  | runTrying h =>
    rw [Context.perform, Context.runTrying_spent hc]
    exact hc
  | runCatching f => exact runCatching_trying hc f w
  | tryCatch h =>
    refine h.runSteps_keeps (P := fun _ c _ => c.trying = none) ?_ ?_ h.script [] hc
    · intro ts c w hc
      rw [Context.runTrying_spent hc]
      exact hc
    · exact fun f hc => runCatching_trying hc f _
  | enterExport hasContext =>
    cases hasContext with
    | true =>
      rw [Context.perform, Context.runTrying_spent hc]
      exact hc
    | false => exact hc
  | deliverExport hasContext caught =>
    cases hasContext with
    | true => exact runCatching_trying hc _ w
    | false => exact hc

/-- With the operation spent, what calls deliver first is what they bring unasked. -/
theorem head?_delivered_calls (calls : List ContextCall) (w : World σ) :
    (Touch.delivered (c.touchesAll w calls)).head? = firstUnasked calls := by
  induction calls generalizing c w with
  | nil => rfl
  | cons call calls ih =>
    rw [Context.touchesAll, Touch.delivered_append, List.head?_append, head?_delivered_call hc,
      ih (perform_spent hc call w), firstUnasked_cons]

/-- A call that brings nothing is for no part that is left. -/
theorem idle_of_unasked {call : ContextCall} (h : call.unasked = []) : c.Idle call := by
  cases call with
  | runTrying _ => exact hc
  | runCatching f => cases h
  | tryCatch host =>
    intro s hs
    cases s with
    | enter _ => exact hc
    | deliver f => cases List.filterMap_eq_nil_iff.1 h _ hs
  | enterExport hasContext =>
    cases hasContext with
    | true => exact hc
    | false => trivial
  | deliverExport hasContext caught =>
    cases hasContext with
    | true => cases h
    | false => trivial

/-- If the continuation returns too, nothing unwinds out of what a host still does. -/
theorem runSteps_returns (hk : ∀ k, c.catching = some k → ∀ f w, (k f w).1 = .returned ())
    (h : Host) (steps : List HostStep) (w : World σ) :
    (h.runSteps steps c w).1 = .returned () := by
  induction steps generalizing c w with
  | nil => rfl
  | cons s steps ih =>
    rw [Host.runSteps]
    cases s with
    | enter onUnwind =>
      rw [runStep_enter_spent hc]
      exact ih hc hk _
    | deliver f =>
      rcases hcatching : c.catching with _ | k
      · rw [Host.runStep, Context.runCatching_spent hcatching]
        exact ih hc hk _
      · have hreturns := hk k hcatching f w
        simp only [Host.runStep, Context.runCatching, hcatching, hreturns]
        exact ih rfl (by rintro k ⟨⟩) _

/-- Calls that bring nothing leave the context as it is. -/
theorem performAll_quiet {calls : List ContextCall} (h : firstUnasked calls = none)
    (w : World σ) : (c.performAll w calls).1 = c := by
  rw [firstUnasked_eq_none] at h
  induction calls generalizing w with
  | nil => rfl
  | cons call calls ih =>
    rw [List.forall_mem_cons] at h
    obtain ⟨log, hrun⟩ := onlyLogs_perform (idle_of_unasked hc h.1) w
    rw [Context.performAll, hrun]
    exact ih h.2 _

end

/-! ## An operation that returns well -/

section

variable {op : Operation σ Unit} {w : World σ} (hop : (op w).1 = .returned (.ok ()))

include hop

/-- A host that enters an operation that returns well has nothing to answer. -/
theorem runStep_enter_of_ok (h : Host) (onUnwind : Payload → Response) (k : Continuation σ) :
    h.runStep (Context.new op k) w (.enter onUnwind) =
      (.returned (), ⟨none, some k, .completed⟩, (op w).2) := by
  rcases h' : op w with ⟨e, w'⟩
  rw [h'] at hop
  cases hop
  simp [Host.runStep, Context.runTrying, Context.new, h']

theorem head?_delivered_of_ok (h : Host) (k : Continuation σ) :
    (Touch.delivered (h.stepsTouches h.script (Context.new op k) w)).head? =
      h.unasked.head? := by
  unfold Host.unasked
  rcases h.script with _ | ⟨onUnwind | f, steps⟩
  · rfl
  · have hrun := runStep_enter_of_ok hop h onUnwind k
    have htouches : h.stepTouches (Context.new op k) w (.enter onUnwind) = [.enter] := by
      rcases h' : op w with ⟨e, w'⟩
      rw [h'] at hop
      cases hop
      simp [Host.stepTouches, Context.runTrying, Context.new, h']
    rw [Host.stepsTouches, hrun, htouches, Touch.delivered_append]
    exact head?_delivered_steps rfl h steps _
  · rfl

end

/-- A guarded run that returns well, and whose host delivers nothing unasked. -/
theorem runGuarded_of_quiet {op : Operation σ Unit} {w : World σ}
    (hop : (op w).1 = .returned (.ok ())) {h : Host} (hquiet : h.unasked = [])
    (hscript : h.script ≠ []) (k : Continuation σ) :
    ∃ log, runGuarded h op k w = (.returned .completed, { (op w).2 with log := log }) := by
  rw [Host.unasked, List.filterMap_eq_nil_iff] at hquiet
  rcases hsteps : h.script with _ | ⟨onUnwind | f, steps⟩
  · exact absurd hsteps hscript
  · have hidle : ∀ s ∈ steps, (⟨none, some k, .completed⟩ : Context σ).IdleStep s := by
      intro s hs
      cases s with
      | enter _ => rfl
      | deliver f => cases hquiet (.deliver f) (by simp [hsteps, hs])
    obtain ⟨log, hrest⟩ := onlyLogs_runSteps h hidle (op w).2
    refine ⟨log, ?_⟩
    rw [runGuarded, Host.tryCatch, hsteps, Host.runSteps, runStep_enter_of_ok hop]
    simp only [hrest]
  · cases hquiet (.deliver f) (by simp [hsteps])

section

variable {op : Operation σ α} {w : World σ} {a : α} (hop : (op w).1 = .returned (.ok a))

include hop

theorem keeping_of_ok : (op.keeping w.guarding).1 = .returned (.ok ()) := by
  rcases h' : op w with ⟨e, w'⟩
  rw [h'] at hop
  cases hop
  simp [Operation.keeping, World.guarding, h']

/-- A guard of an operation that returns well lets nothing out. -/
theorem tryCatch_guarding_of_ok (h : Host) :
    (h.tryCatch op.guarding w.guarding).1 = .returned () := by
  rw [Host.tryCatch, Operation.guarding]
  rcases h.script with _ | ⟨onUnwind | f, steps⟩
  · rfl
  · rw [Host.runSteps, runStep_enter_of_ok (keeping_of_ok hop)]
    refine runSteps_returns rfl ?_ h steps _
    rintro k ⟨⟩ f w
    rfl
  · exact runSteps_returns rfl (by rintro k ⟨⟩) h steps _

/-- The result of a guard of an operation that returns well. -/
theorem guard_of_ok {h : Host} (hscript : h.script ≠ []) :
    (guard h op w).1 = .returned (match h.unasked.head? with
      | none => .ok a
      | some f => .error f) := by
  have hdelivered : (guardDelivered h op w).head? = h.unasked.head? :=
    head?_delivered_of_ok (keeping_of_ok hop) h keepCaught
  rw [guard_of_returned (tryCatch_guarding_of_ok hop h), hdelivered]
  rcases hfirst : h.unasked.head? with _ | f
  · have hran : .trying ∈ guardRan h op w := by
      rw [guardRan_eq, guardTouches]
      rcases h with ⟨throw, _ | ⟨onUnwind | f, steps⟩⟩
      · exact absurd rfl hscript
      · exact List.mem_cons_self
      · cases hfirst
    rw [if_pos hran, Ending.value?_eq_some.2 hop]
    rfl
  · rfl

end

/-! ## The law -/

/-- What becomes of a completed context when more calls are made on it. -/
structure StaysCompleted (c : Context σ) (w : World σ) (calls : List ContextCall) : Prop where
  /-- The operation ran. The continuation is called with the first failure
  that comes unasked, and not at all if none does. -/
  ran : ∀ more, c.ran w (calls ++ more) = .trying :: (firstUnasked more).toList.map .catching
  phase : ∀ more, (c.performAll w (calls ++ more)).1.phase =
    if firstUnasked more = none then .completed else .handled

/-- What becomes of an operation that returns well, on a context and under any host. -/
structure HandledOnlyLate (w : World σ) : Prop where
  context : ∀ op k calls, ((Context.new op k).performAll w calls).1.phase = .completed →
    StaysCompleted (Context.new op k) w calls
  /-- A host calls the continuation with the first failure that it delivers
  unasked. One that answers unwinds only does not call it. -/
  calls : ∀ (h : Host) (op : Operation σ Unit) k, (op w).1 = .returned (.ok ()) →
    ((Context.new op k).ran w [.tryCatch h]).filterMap Part.failure? = h.unasked.head?.toList
  completed : ∀ (h : Host) (op : Operation σ Unit) k, (op w).1 = .returned (.ok ()) →
    h.unasked = [] → h.script ≠ [] →
      ∃ log, runGuarded h op k w = (.returned .completed, { (op w).2 with log := log })
  /-- A guard gives the value, unless a failure takes its place. -/
  guard : ∀ {α : Type} (h : Host) (op : Operation σ α) a, (op w).1 = .returned (.ok a) →
    h.script ≠ [] → (guard h op w).1 = .returned (match h.unasked.head? with
      | none => .ok a
      | some f => .error f)

theorem staysCompleted_of_completed {op : Operation σ Unit} {k : Continuation σ} {w : World σ}
    {calls : List ContextCall}
    (h : ((Context.new op k).performAll w calls).1.phase = .completed) :
    StaysCompleted (Context.new op k) w calls := by
  have hkept : ∀ calls, ((Context.new op k).performAll w calls).1.Kept
      ((Context.new op k).touchesAll w calls) :=
    fun calls => (shows_performAll (Context.kept_new op k) w calls).1
  have hts : (Context.new op k).touchesAll w calls ≠ [] := by
    rw [Ne, ← (hkept calls).pending, h]
    decide
  have hundelivered : Touch.delivered ((Context.new op k).touchesAll w calls) = [] := by
    refine Classical.byContradiction fun hdelivered => ?_
    have hhandled := (hkept calls).handled.2 hdelivered
    rw [h] at hhandled
    cases hhandled
  have hspent := (hkept calls).held.2 hts
  have hfirst : ∀ more, (Touch.delivered ((Context.new op k).touchesAll w (calls ++ more))).head? =
      firstUnasked more := by
    intro more
    rw [Context.touchesAll_append, Touch.delivered_append, hundelivered, List.nil_append,
      head?_delivered_calls hspent]
  constructor
  · intro more
    rw [Context.ran_new, ← hfirst, Context.touchesAll_append,
      Touch.running_undelivered hts hundelivered]
  · intro more
    split
    · rename_i hquiet
      rw [Context.performAll_append, performAll_quiet hspent hquiet, h]
    · rename_i hlate
      rw [(hkept _).handled, Ne, ← List.head?_eq_none_iff, hfirst]
      exact hlate

/-- An operation that returned well is handled as failed only where a host
delivers a failure unasked, after the operation returned. -/
theorem a_completed_operation_is_handled_only_late (w : World σ) : HandledOnlyLate w where
  context _ _ _ h := staysCompleted_of_completed h
  calls h op k hop := by
    rw [Context.ran_new, Touch.failures_running, Context.touchesAll, Context.touchesAll,
      List.append_nil, ← head?_delivered_of_ok hop h k]
    rfl
  completed _ _ k hop hquiet hscript := runGuarded_of_quiet hop hquiet hscript k
  guard _ _ _ hop hscript := guard_of_ok hop hscript

/-- A failure that comes after the operation returned well goes to the
continuation, and in a guard it takes the place of the value. -/
theorem a_late_failure_is_handled_after_completion :
    let late : Failure := .runtime "late"
    let op : Operation Unit Unit := Operation.succeed ()
    let k : Continuation Unit := fun _ w => (.returned (), w)
    let w : World Unit := ⟨(), []⟩
    let entered : List ContextCall := [.runTrying Host.native]
    let delivered : List ContextCall := entered ++ [.runCatching late]
    let h : Host := Host.delivering [] [late, late]
    (op w).1 = .returned (.ok ()) ∧
      ((Context.new op k).performAll w entered).1.phase = .completed ∧
      ((Context.new op k).performAll w delivered).1.phase = .handled ∧
      (Context.new op k).ran w delivered = [.trying, .catching late] ∧
      (runGuarded h op k w).1 = .returned .handled ∧
      (guard h op w).1 = .returned (.error late) :=
  ⟨rfl, rfl, rfl, rfl, rfl, rfl⟩

end HostBoundary.Relay
