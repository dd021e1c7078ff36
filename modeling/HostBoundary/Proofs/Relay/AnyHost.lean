-- The law of a guard under any host. A guard hands its host a context whose
-- operation keeps the value and whose continuation keeps the failure. What
-- the host does to that context is touches, and the result of the guard is
-- read off the touches: the first failure that was delivered, or else the
-- value of the operation if that was entered.
import HostBoundary.Proofs.Relay.OneShot

namespace HostBoundary.Relay

variable {σ α : Type}

/-! ## What a guard hands to its host -/

/-- The context of a guard. -/
def Operation.guarding (op : Operation σ α) : Context (σ × Outcome α) :=
  Context.new op.keeping keepCaught

/-- The world of a guard before the host does anything. -/
def World.guarding (w : World σ) : World (σ × Outcome α) := ⟨(w.user, ⟨none, none⟩), w.log⟩

/-- The value of a run that ended well. -/
def Ending.value? : Ending (Except Failure α) → Option α
  | .returned (.ok a) => some a
  | _ => none

theorem Ending.value?_eq_some {e : Ending (Except Failure α)} {a : α} :
    e.value? = some a ↔ e = .returned (.ok a) := by
  rcases e with (f | b) | p <;> simp [value?]

theorem Outcome.result_eq_ok {o : Outcome α} {a : α} :
    o.result = .ok a ↔ o.value = some a ∧ o.caught = none := by
  rcases o with ⟨_ | b, _ | f⟩ <;> simp [result]

/-- What the host does to the context of a guard. -/
def guardTouches (h : Host) (op : Operation σ α) (w : World σ) : List Touch :=
  h.stepsTouches h.script op.guarding w.guarding

/-- A guard goes by what its host did: it lets out what the host lets out, and
else gives the result of what was kept. -/
theorem guard_eq (h : Host) (op : Operation σ α) (w : World σ) :
    guard h op w =
      let r := h.tryCatch op.guarding w.guarding
      let left : World σ := ⟨r.2.2.user.1, r.2.2.log⟩
      match r.1 with
      | .returned () => (.returned r.2.2.user.2.result, left)
      | .unwound p => (.unwound p, left) := by
  simp only [guard, runGuarded, Operation.guarding, World.guarding]
  rcases h.tryCatch (Context.new op.keeping keepCaught) ⟨(w.user, ⟨none, none⟩), w.log⟩ with
    ⟨⟨⟩ | p, c, v⟩ <;> rfl

/-! ## What is kept, touch by touch -/

/-- How the context of a guard stands after touches, and what it kept. -/
structure GuardKept (op : Operation σ α) (w : World σ) (ts : List Touch)
    (c : Context (σ × Outcome α)) (v : World (σ × Outcome α)) : Prop where
  kept : c.Kept ts
  fresh : ts = [] → v = w.guarding
  trying : ∀ op', c.trying = some op' → op' = op.keeping
  catching : ∀ k, c.catching = some k → k = keepCaught
  user : v.user.1 = if .trying ∈ Touch.running ts then (op w).2.user else w.user
  value : v.user.2.value = if .trying ∈ Touch.running ts then (op w).1.value? else none
  caught : v.user.2.caught = (Touch.delivered ts).head?

section

variable {op : Operation σ α} {w : World σ} {ts : List Touch} {c : Context (σ × Outcome α)}
  {v : World (σ × Outcome α)}

theorem guardKept_guarding (op : Operation σ α) (w : World σ) :
    GuardKept op w [] op.guarding w.guarding := by
  refine ⟨Context.kept_new _ _, fun _ => rfl, ?_, ?_, rfl, rfl, rfl⟩
  · rintro op' ⟨⟩
    rfl
  · rintro k ⟨⟩
    rfl

/-- A failure that is delivered is no run of the operation. -/
theorem Touch.trying_mem_running_deliver (ts : List Touch) (f : Failure) :
    .trying ∈ running (ts ++ [.deliver f]) ↔ .trying ∈ running ts := by
  by_cases h : delivered ts = []
  · rw [running_first h]
    simp
  · rw [running_late h]

theorem guardKept_runTrying (hk : GuardKept op w ts c v) (throw : Failure → Payload) :
    GuardKept op w (ts ++ [.enter]) (c.runTrying throw v).2.1 (c.runTrying throw v).2.2 := by
  have hkept := (shows_runTrying hk.kept throw v).kept
  rcases htrying : c.trying with _ | op'
  · have hts : ts ≠ [] := hk.kept.held.1 htrying
    rw [Context.runTrying_spent htrying] at hkept ⊢
    refine ⟨hkept, by simp, hk.trying, hk.catching, ?_, ?_, ?_⟩
    · rw [Touch.running_enter hts]
      exact hk.user
    · rw [Touch.running_enter hts]
      exact hk.value
    · rw [Touch.delivered_enter]
      exact hk.caught
  · obtain rfl : op' = op.keeping := hk.trying _ htrying
    obtain rfl : ts = [] := by simpa [htrying] using hk.kept.held
    obtain rfl : v = w.guarding := hk.fresh rfl
    have hran : Part.trying ∈ Touch.running [Touch.enter] := by decide
    -- The operation runs here and nowhere else, from the world of the guard.
    rcases hop : op w with ⟨(f | a) | p, w'⟩
    all_goals
      simp only [Context.runTrying, htrying, Operation.keeping, World.guarding, hop] at hkept ⊢
      refine ⟨hkept, by simp, by simp, hk.catching, ?_, ?_, rfl⟩
      · simp [hran, hop]
      · simp [hran, hop, Ending.value?]

theorem guardKept_runCatching (hk : GuardKept op w ts c v) (f : Failure) :
    GuardKept op w (ts ++ [.deliver f]) (c.runCatching f v).2.1 (c.runCatching f v).2.2 := by
  have hkept := (shows_runCatching hk.kept f v).kept
  rcases hcatching : c.catching with _ | k
  · have hlate : Touch.delivered ts ≠ [] := hk.kept.given_up.1 hcatching
    rw [Context.runCatching_spent hcatching] at hkept ⊢
    refine ⟨hkept, by simp, hk.trying, hk.catching, ?_, ?_, ?_⟩
    · simp only [Touch.trying_mem_running_deliver]
      exact hk.user
    · simp only [Touch.trying_mem_running_deliver]
      exact hk.value
    · obtain ⟨g, gs, hg⟩ := List.exists_cons_of_ne_nil hlate
      rw [Touch.delivered_deliver, World.record_user, hk.caught, hg]
      rfl
  · obtain rfl : k = keepCaught := hk.catching _ hcatching
    have hfirst : Touch.delivered ts = [] := by simpa [hcatching] using hk.kept.given_up
    simp only [Context.runCatching, hcatching, keepCaught] at hkept ⊢
    refine ⟨hkept, by simp, by simp, by simp, ?_, ?_, ?_⟩
    · simp only [Touch.trying_mem_running_deliver]
      exact hk.user
    · simp only [Touch.trying_mem_running_deliver]
      exact hk.value
    · rw [Touch.delivered_deliver, hfirst]
      rfl

end

/-- What the host leaves of the context of a guard, and what was kept. -/
theorem guardKept_tryCatch (h : Host) (op : Operation σ α) (w : World σ) :
    GuardKept op w (guardTouches h op w) (h.tryCatch op.guarding w.guarding).2.1
      (h.tryCatch op.guarding w.guarding).2.2 :=
  h.runSteps_keeps (P := GuardKept op w) (fun hk => guardKept_runTrying hk h.throw)
    (fun f hk => guardKept_runCatching hk f) h.script [] (guardKept_guarding op w)

/-! ## The law -/

/-- The parts of the context of a guard that run. -/
def guardRan (h : Host) (op : Operation σ α) (w : World σ) : List Part :=
  op.guarding.ran w.guarding [.tryCatch h]

/-- The failures that the host delivers to a guard, in order. -/
def guardDelivered (h : Host) (op : Operation σ α) (w : World σ) : List Failure :=
  Touch.delivered (guardTouches h op w)

theorem guardRan_eq (h : Host) (op : Operation σ α) (w : World σ) :
    guardRan h op w = Touch.running (guardTouches h op w) := by
  rw [guardRan, Operation.guarding, Context.ran_new, Context.touchesAll, Context.touchesAll,
    List.append_nil]
  rfl

/-- The result of a guard whose host returns: the first failure that was
delivered, or else the value of the operation if it ran and has one. -/
theorem guard_of_returned {h : Host} {op : Operation σ α} {w : World σ}
    (hr : (h.tryCatch op.guarding w.guarding).1 = .returned ()) :
    (guard h op w).1 = .returned (Outcome.result
      ⟨if .trying ∈ guardRan h op w then (op w).1.value? else none,
        (guardDelivered h op w).head?⟩) := by
  have hk := guardKept_tryCatch h op w
  rw [guard_eq, guardRan_eq, guardDelivered, ← hk.value, ← hk.caught]
  simp only [hr]

/-- A value comes out of a guard only from its operation, and only if nothing was delivered. -/
theorem guard_eq_ok_iff {h : Host} {op : Operation σ α} {w : World σ} {a : α} :
    (guard h op w).1 = .returned (.ok a) ↔
      (h.tryCatch op.guarding w.guarding).1 = .returned () ∧ .trying ∈ guardRan h op w ∧
        (op w).1 = .returned (.ok a) ∧ guardDelivered h op w = [] := by
  rcases hr : (h.tryCatch op.guarding w.guarding).1 with ⟨⟨⟩⟩ | p
  · rw [guard_of_returned hr, Ending.returned.injEq, Outcome.result_eq_ok, ← Ending.value?_eq_some]
    simp [and_assoc]
  · simp [guard_eq, hr]

/-- What a guard keeps of an operation that did not run, or has no value. -/
theorem kept_eq_none {h : Host} {op : Operation σ α} {w : World σ}
    (hno : .trying ∈ guardRan h op w → ∀ a, (op w).1 ≠ .returned (.ok a)) :
    (if .trying ∈ guardRan h op w then (op w).1.value? else none) = none := by
  split
  · rename_i hran
    rw [Option.eq_none_iff_forall_ne_some]
    intro a ha
    exact hno hran a (Ending.value?_eq_some.1 ha)
  · rfl

/-- The law of a guard, for one host, one operation and one world. -/
structure SoundGuard (h : Host) (op : Operation σ α) (w : World σ) : Prop where
  once : (guardRan h op w).count .trying ≤ 1
  /-- If the operation runs, it starts in the world of the guard. Nothing else
  is done to that world but to log. -/
  world : (guard h op w).2.user =
    if .trying ∈ guardRan h op w then (op w).2.user else w.user
  /-- What the host lets out, the guard lets out as it is. -/
  lets_out : ∀ p, (h.tryCatch op.guarding w.guarding).1 = .unwound p ↔
    (guard h op w).1 = .unwound p
  /-- A value comes from the operation, which ran and returned it, and no failure was delivered. -/
  value : ∀ a, (guard h op w).1 = .returned (.ok a) ↔
    (h.tryCatch op.guarding w.guarding).1 = .returned () ∧ .trying ∈ guardRan h op w ∧
      (op w).1 = .returned (.ok a) ∧ guardDelivered h op w = []
  /-- Of the failures that were delivered, whenever it was, the first one is the result. -/
  first_failure : (h.tryCatch op.guarding w.guarding).1 = .returned () →
    ∀ f, (guardDelivered h op w).head? = some f → (guard h op w).1 = .returned (.error f)
  /-- Without a value of the operation the guard gives none. -/
  no_value : (.trying ∈ guardRan h op w → ∀ a, (op w).1 ≠ .returned (.ok a)) →
    ∀ a, (guard h op w).1 ≠ .returned (.ok a)
  /-- A host that delivers nothing gets a failure of the guard's own then. -/
  silent : (h.tryCatch op.guarding w.guarding).1 = .returned () → guardDelivered h op w = [] →
    (.trying ∈ guardRan h op w → ∀ a, (op w).1 ≠ .returned (.ok a)) →
      (guard h op w).1 = .returned (.error neverEntered)

/-- Whatever a host does with a guard, the guard does not make up a value, and
loses no failure. -/
theorem a_guard_gives_the_first_failure_or_the_value_of_its_operation (h : Host)
    (op : Operation σ α) (w : World σ) : SoundGuard h op w where
  once := by
    rw [guardRan_eq]
    exact Touch.count_trying_running _
  world := by
    rw [guardRan_eq, ← (guardKept_tryCatch h op w).user, guard_eq]
    rcases h.tryCatch op.guarding w.guarding with ⟨⟨⟩ | p, c, v⟩ <;> rfl
  lets_out p := by
    rw [guard_eq]
    rcases h.tryCatch op.guarding w.guarding with ⟨⟨⟩ | q, c, v⟩ <;> simp
  value a := guard_eq_ok_iff
  first_failure hr f hf := by
    rw [guard_of_returned hr, hf]
    rfl
  no_value hno a ha := by
    obtain ⟨_, hran, hop, _⟩ := guard_eq_ok_iff.1 ha
    exact hno hran a hop
  silent hr hsilent hno := by
    rw [guard_of_returned hr, hsilent, kept_eq_none hno]
    rfl

/-- A host that delivers a failure before it enters the operation gets that
failure back, and the operation does not run. -/
example (early late : Failure) (op : Operation σ α) (w : World σ) :
    (guard (Host.delivering [early] [late]) op w).1 = .returned (.error early) ∧
      (guard (Host.delivering [early] [late]) op w).2.user = w.user := ⟨rfl, rfl⟩

end HostBoundary.Relay
