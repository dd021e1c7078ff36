-- Runs of calls over the lifetime of a program, where anything may change
-- around it from one call to the next. What was found at the time of a call
-- counts only if the call builds. A stretch between two shutdowns is one
-- build, and then the answers of the session, or a refusal of each call.
import HostBoundary.Lifetime

namespace HostBoundary

/-- A call, and what a build at the time of the call would find. -/
structure Occasion where
  around : Surroundings
  call : Call

namespace Call

/-- What a call answers where there is no session. The place of the caller keeps its value. -/
def refusal : Call → Reply
  | .init | .set .. => .status false
  | .shutdown | .reset => .done
  | .get k _ out => .value k false out
  | .flags => .group ⟨[]⟩
  | .report => .report none

/-- What a call does to a session, and what it answers. -/
def onSession (s : Session) : Call → Logged (Reply × Session)
  | .init => return (.status true, s)
  | .shutdown => return (.done, s)
  | .set k name v => do
    let (hit, registry) ← s.registry.set k name.bytes v
    return (.status hit, { s with registry := registry })
  | .get k name out =>
    match s.registry.get k name.bytes with
    | some v => return (.value k true (out.map fun _ => v), s)
    | none => return (.value k false out, s)
  | .reset => do
    let s ← s.reset
    return (.done, s)
  | .flags => return (.group (.ofSnapshot s.registry.snapshot), s)
  | .report => return (.report s.registry.snapshot.reportText?, s)

end Call

/-! ## Starts -/

/-- The rows of the table, without the count of its readings. -/
def RawTable.rowsRead (t : RawTable) : Logged (List Row) := return (← t.read 0).1

/-- What a start comes to, without the count of the readings of the table. -/
def started (around : Surroundings) : Logged (Except StartError Session) :=
  return (← start around 0).1

/-- A table does not change with its readings, which are counted one by one. -/
theorem RawTable.read_eq (t : RawTable) (n : Nat) :
    t.read n = do return (← t.rowsRead, n + 1) := by
  simp only [read, rowsRead, bind_assoc, pure_bind]

/-- A start reads the table once. -/
theorem start_eq_started (around : Surroundings) (n : Nat) :
    start around n = do return (← started around, n + 1) := by
  unfold started start
  -- Every branch answers the count of the one reading, so it can be taken out behind them.
  simp only [RawTable.read_eq, bind_assoc, pure_bind]
  congr 1
  funext rows
  congr 1
  funext outcome
  cases outcome <;> simp

/-! ## Runs -/

/-- What calls in a row answer on a session. -/
def Session.answers (s : Session) : List Call → Logged (List Reply × Session)
  | [] => pure ([], s)
  | c :: cs => do
    let (reply, s) ← c.onSession s
    let (replies, s) ← s.answers cs
    return (reply :: replies, s)

namespace Lifetime

/-- What calls after a build come to: answers of the session, or a word in the
log and refusals. -/
def settle (reads : Nat) (calls : List Call) :
    Except StartError Session → Logged (List Reply × Lifetime)
  | .ok s => do
    let (replies, s) ← s.answers calls
    return (replies, ⟨.ready s, reads⟩)
  | .error e => do
    Logged.record (.startFailed e.message)
    return (calls.map Call.refusal, ⟨.failed, reads⟩)

/-- Makes calls in a row. -/
def run (l : Lifetime) : List Occasion → Logged (List Reply × Lifetime)
  | [] => pure ([], l)
  | o :: os => do
    let (reply, l) ← l.step o.around o.call
    let (replies, l) ← l.run os
    return (reply :: replies, l)

/-- The lifetime after calls that were made since the program started. -/
def after (os : List Occasion) : Lifetime := (initial.run os).value.2

theorem run_append (l : Lifetime) (os os' : List Occasion) :
    l.run (os ++ os') = do
      let (replies, l) ← l.run os
      let (replies', l) ← l.run os'
      return (replies ++ replies', l) := by
  induction os generalizing l with
  | nil => simp [run]
  | cons o os ih => simp [run, ih]

theorem after_append (os os' : List Occasion) :
    after (os ++ os') = ((after os).run os').value.2 := by
  unfold after
  rw [run_append]
  rfl

/-! ## The two ways to the session -/

section

variable {α : Type} (around : Surroundings) (n : Nat)

theorem ensure_unbuilt :
    ensure around ⟨.unbuilt, n⟩ = started around >>= fun outcome =>
      match outcome with
      | .ok s => pure ⟨.ready s, n + 1⟩
      | .error e => Logged.record (.startFailed e.message) >>= fun _ => pure ⟨.failed, n + 1⟩ := by
  unfold ensure
  rw [start_eq_started]
  exact bind_assoc _ _ _

theorem write_ready (s : Session) (work : Session → Logged (α × Session)) :
    write around ⟨.ready s, n⟩ work = do
      let (a, s) ← work s
      return (some a, ⟨.ready s, n⟩) := rfl

theorem write_failed (work : Session → Logged (α × Session)) :
    write around ⟨.failed, n⟩ work = pure (none, ⟨.failed, n⟩) := rfl

/-- A build comes first. What is left to do is done after it. -/
theorem write_unbuilt (work : Session → Logged (α × Session)) :
    write around ⟨.unbuilt, n⟩ work = started around >>= fun outcome =>
      match outcome with
      | .ok s => write around ⟨.ready s, n + 1⟩ work
      | .error e => Logged.record (.startFailed e.message) >>= fun _ =>
          write around ⟨.failed, n + 1⟩ work := by
  unfold write
  rw [ensure_unbuilt, bind_assoc]
  congr 1
  funext outcome
  cases outcome <;> rfl

/-- A look goes the way of a write that leaves the session as it is, whatever is in the slot. -/
theorem read_eq_write (l : Lifetime) (look : Session → α) :
    l.read around look = l.write around fun s => pure (look s, s) := by
  obtain ⟨slot, n⟩ := l
  cases slot with
  | ready s => rfl
  | failed => rfl
  | unbuilt => rfl

end

/-! ## One call -/

variable {c : Call}

theorem step_ready (hc : c ≠ .shutdown) (around : Surroundings) (s : Session) (n : Nat) :
    step around ⟨.ready s, n⟩ c = do
      let (reply, s) ← c.onSession s
      return (reply, ⟨.ready s, n⟩) := by
  cases c with
  | shutdown => exact absurd rfl hc
  | get k name out =>
    rw [step, read_eq_write, write_ready, Call.onSession]
    cases s.registry.get k name.bytes <;> rfl
  | _ => simp [step, read_eq_write, write_ready, Call.onSession]

theorem step_failed (hc : c ≠ .shutdown) (around : Surroundings) (n : Nat) :
    step around ⟨.failed, n⟩ c = pure (c.refusal, ⟨.failed, n⟩) := by
  cases c with
  | shutdown => exact absurd rfl hc
  | _ => simp [step, read_eq_write, write_failed, Call.refusal, Group.empty]

/-- The first call after a shutdown reads the table once, and builds. -/
theorem step_unbuilt (hc : c ≠ .shutdown) (around : Surroundings) (n : Nat) :
    step around ⟨.unbuilt, n⟩ c = started around >>= fun outcome =>
      match outcome with
      | .ok s => step around ⟨.ready s, n + 1⟩ c
      | .error e =>
        Logged.record (.startFailed e.message) >>= fun _ => step around ⟨.failed, n + 1⟩ c := by
  cases c with
  | shutdown => exact absurd rfl hc
  | _ =>
    simp only [step, read_eq_write, write_unbuilt, bind_assoc]
    congr 1
    funext outcome
    cases outcome <;> rfl

/-! ## Calls on a session -/

section

variable {l : Lifetime} {s : Session} (h : l.slot = .ready s) (around : Surroundings)

include h

theorem value_step (hc : c ≠ .shutdown) :
    (l.step around c).value =
      ((c.onSession s).value.1, { l with slot := .ready (c.onSession s).value.2 }) := by
  obtain ⟨slot, n⟩ := l
  cases h
  rw [step_ready hc]
  rfl

/-- A call that leaves the session leaves the lifetime. -/
theorem eq_of_ready : { l with slot := .ready s } = l := by
  rw [← h]

theorem value_step_flags :
    (l.step around .flags).value = (.group (.ofSnapshot s.registry.snapshot), l) := by
  rw [value_step h around (by simp)]
  exact congrArg _ (eq_of_ready h)

theorem value_step_get (k : Kind) (name : NameArgument) (out : Option k.Value) :
    (l.step around (.get k name out)).value =
      match s.registry.get k name.bytes with
      | some v => (.value k true (out.map fun _ => v), l)
      | none => (.value k false out, l) := by
  rw [value_step h around (by simp), Call.onSession]
  cases s.registry.get k name.bytes with
  | none => exact congrArg _ (eq_of_ready h)
  | some v => exact congrArg _ (eq_of_ready h)

theorem value_step_set (k : Kind) (name : NameArgument) (v : k.Value) :
    (l.step around (.set k name v)).value.1 = .status (s.registry.has k name.bytes) := by
  rw [value_step h around (by simp), ← Registry.set_hit s.registry k name.bytes v]
  rfl

theorem value_step_set_miss {k : Kind} {name : NameArgument}
    (hmiss : ¬ s.registry.has k name.bytes = true) (v : k.Value) :
    (l.step around (.set k name v)).value = (.status false, l) := by
  rw [value_step h around (by simp), Call.onSession, Registry.set_of_miss hmiss]
  exact congrArg _ (eq_of_ready h)

end

/-! ## Calls between shutdowns -/

section

variable {os : List Occasion} (h : ∀ o ∈ os, o.call ≠ .shutdown)

include h

/-- A session that was built answers every call. Nothing is read for them. -/
theorem run_ready (s : Session) (n : Nat) :
    run ⟨.ready s, n⟩ os = do
      let (replies, s) ← s.answers (os.map Occasion.call)
      return (replies, ⟨.ready s, n⟩) := by
  induction os generalizing s with
  | nil => rfl
  | cons o os ih =>
    rw [List.forall_mem_cons] at h
    simp [run, step_ready h.1, Session.answers, ih h.2]

/-- After a build that failed every call is refused, and nothing is logged. -/
theorem run_failed (n : Nat) :
    run ⟨.failed, n⟩ os = pure ((os.map Occasion.call).map Call.refusal, ⟨.failed, n⟩) := by
  induction os with
  | nil => rfl
  | cons o os ih =>
    rw [List.forall_mem_cons] at h
    simp [run, step_failed h.1, ih h.2]

end

/-- Calls after a shutdown are one start, from what the first of them finds,
and what comes of it. -/
theorem run_unbuilt {first : Occasion} {later : List Occasion}
    (h : ∀ o ∈ first :: later, o.call ≠ .shutdown) (n : Nat) :
    run ⟨.unbuilt, n⟩ (first :: later) =
      started first.around >>= settle (n + 1) ((first :: later).map Occasion.call) := by
  have hbuild : run ⟨.unbuilt, n⟩ (first :: later) = started first.around >>= fun outcome =>
      match outcome with
      | .ok s => run ⟨.ready s, n + 1⟩ (first :: later)
      | .error e => Logged.record (.startFailed e.message) >>= fun _ =>
          run ⟨.failed, n + 1⟩ (first :: later) := by
    simp only [run, step_unbuilt (h first (by simp)), bind_assoc]
    congr 1
    funext outcome
    cases outcome <;> simp
  rw [hbuild]
  congr 1
  funext outcome
  cases outcome with
  | ok s => exact run_ready h s (n + 1)
  | error e =>
    show (_ >>= fun _ => run _ _) = _
    rw [run_failed h]
    rfl

/-! ## What calls can see of a lifetime -/

/-- The answers are the same, and so are the logs and the slots that are left. -/
structure SeenAlike {α : Type} (x y : Logged (α × Lifetime)) : Prop where
  answer : x.value.1 = y.value.1
  log : x.log = y.log
  slot : x.value.2.slot = y.value.2.slot

theorem SeenAlike.bind {α β : Type} (x : Logged β) {f g : β → Logged (α × Lifetime)}
    (h : ∀ b, SeenAlike (f b) (g b)) : SeenAlike (x >>= f) (x >>= g) where
  answer := (h x.value).answer
  log := congrArg (x.log ++ ·) (h x.value).log
  slot := (h x.value).slot

theorem seenAlike_step {l l' : Lifetime} (h : l.slot = l'.slot) (around : Surroundings)
    (c : Call) : SeenAlike (l.step around c) (l'.step around c) := by
  obtain ⟨slot, n⟩ := l
  obtain ⟨slot', n'⟩ := l'
  cases h
  by_cases hc : c = .shutdown
  · subst hc
    exact ⟨rfl, rfl, rfl⟩
  · have hready : ∀ s n n',
        SeenAlike (step around ⟨.ready s, n⟩ c) (step around ⟨.ready s, n'⟩ c) := by
      intro s n n'
      rw [step_ready hc, step_ready hc]
      exact .bind _ fun _ => ⟨rfl, rfl, rfl⟩
    have hfailed : ∀ n n',
        SeenAlike (step around ⟨.failed, n⟩ c) (step around ⟨.failed, n'⟩ c) := by
      intro n n'
      rw [step_failed hc, step_failed hc]
      exact ⟨rfl, rfl, rfl⟩
    cases slot with
    | ready s => exact hready s n n'
    | failed => exact hfailed n n'
    | unbuilt =>
      rw [step_unbuilt hc, step_unbuilt hc]
      refine .bind _ fun outcome => ?_
      cases outcome with
      | ok s => exact hready s (n + 1) (n' + 1)
      | error e => exact .bind _ fun _ => hfailed (n + 1) (n' + 1)

/-- Calls see the slot of a lifetime, and not how often the table was read. -/
theorem seenAlike_run {l l' : Lifetime} (h : l.slot = l'.slot) (os : List Occasion) :
    SeenAlike (l.run os) (l'.run os) := by
  induction os generalizing l l' with
  | nil => exact ⟨rfl, rfl, h⟩
  | cons o os ih =>
    have hstep := seenAlike_step h o.around o.call
    have hrest := ih hstep.slot
    refine ⟨?_, ?_, hrest.slot⟩
    · show _ :: _ = _ :: _
      rw [hstep.answer, hrest.answer]
    · simp only [run, Logged.log_bind, Logged.log_pure, hstep.log, hrest.log]

end Lifetime

end HostBoundary
