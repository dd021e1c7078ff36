-- Hosts that enter an operation once and deliver what unwinds out of it. A
-- guard under such a host is a plain try and catch, whatever the operation
-- is, and a body runs under it as plain code does, with the payloads that
-- the host throws in place of the plain ones.
import HostBoundary.Proofs.Relay.Plain

namespace HostBoundary.Relay

variable {η ν σ α : Type}

/-! ## One guarded run -/

/-- How a guarded run ends after its continuation. -/
def afterCatching : Ending Unit × World σ → Ending Phase × World σ
  | (.returned (), w) => (.returned .handled, w)
  | (.unwound p, w) => (.unwound p, w)

theorem afterCatching_world (r : Ending Unit × World σ) : (afterCatching r).2 = r.2 := by
  rcases r with ⟨_ | _, _⟩ <;> rfl

/-- The continuation is called where the operation did not end well, once, and
with the failure that the operation ended with. -/
theorem runGuarded_catching (throw : Failure → Payload) (take : Payload → Failure)
    (op : Operation σ Unit) (k : Continuation σ) (w : World σ) :
    runGuarded ⟨throw, Host.catchScript take⟩ op k w =
      match op w with
      | (.returned (.ok ()), w') => (.returned .completed, w')
      | (.returned (.error f), w') =>
        afterCatching (k (take (throw f)) (w'.record (.guardedFailed f.kind)))
      | (.unwound p, w') => afterCatching (k (take p) w') := by
  rcases hop : op w with ⟨(f | ⟨⟩) | p, w'⟩
  · simp only [runGuarded, Host.tryCatch, Host.catchScript, Host.runSteps, Host.runStep,
      Context.runTrying, Context.runCatching, Context.new, hop]
    rcases k (take (throw f)) (w'.record (.guardedFailed f.kind)) with ⟨_ | _, _⟩ <;> rfl
  · simp only [runGuarded, Host.tryCatch, Host.catchScript, Host.runSteps, Host.runStep,
      Context.runTrying, Context.new, hop]
  · simp only [runGuarded, Host.tryCatch, Host.catchScript, Host.runSteps, Host.runStep,
      Context.runTrying, Context.runCatching, Context.new, hop]
    rcases k (take p) w' with ⟨_ | _, _⟩ <;> rfl

/-- A guard gives the value, or the failure as the host reads it, and it never unwinds. -/
theorem guard_catching (throw : Failure → Payload) (take : Payload → Failure)
    (op : Operation σ α) (w : World σ) :
    guard ⟨throw, Host.catchScript take⟩ op w =
      match op w with
      | (.returned (.ok a), w') => (.returned (.ok a), w')
      | (.returned (.error f), w') =>
        (.returned (.error (take (throw f))), w'.record (.guardedFailed f.kind))
      | (.unwound p, w') => (.returned (.error (take p)), w') := by
  unfold guard
  rw [runGuarded_catching]
  rcases hop : op w with ⟨(f | a) | p, w'⟩
  all_goals
    simp only [Operation.keeping, hop]
    rfl

/-- The operation beside a list that it leaves alone. -/
def Operation.beside (op : Operation σ α) : Operation (σ × List Failure) α := fun w =>
  let r := op ⟨w.user.1, w.log⟩
  (r.1, ⟨(r.2.user, w.user.2), r.2.log⟩)

/-- The continuation with a list of the failures that it was called with. -/
def Continuation.counted (k : Continuation σ) : Continuation (σ × List Failure) := fun f w =>
  let r := k f ⟨w.user.1, w.log⟩
  (r.1, ⟨(r.2.user, w.user.2 ++ [f]), r.2.log⟩)

/-! ## Hosts that carry plain unwinding -/

/-- The ending with other payloads. -/
def Ending.mapPayload (lift : Payload → Payload) : Ending α → Ending α
  | .returned a => .returned a
  | .unwound p => .unwound (lift p)

/-- The action raises only through its host, so no host sees a payload of another. -/
def Action.Relayed : Action η → Prop
  | .note _ | .fail _ | .raise .. | .ensure _ => True
  | .panic _ | .ensureRaising _ => False

/-- Every action of the body, at any depth, is one of these. -/
def Body.All (A : Action η → Prop) : Body η ν → Prop
  | .done => True
  | .act a rest => A a ∧ rest.All A
  | .guard _ b _ _ rest => b.All A ∧ rest.All A
  | .runGuarded _ b c rest => b.All A ∧ (∀ f, (c f).All A) ∧ rest.All A

theorem Body.All.imp {A B : Action η → Prop} (h : ∀ a, A a → B a) {b : Body η ν} (hb : b.All A) :
    b.All B := by
  induction b with
  | done => trivial
  | act a rest ih => exact ⟨h a hb.1, ih hb.2⟩
  | guard _ b _ _ rest ihb ihr => exact ⟨ihb hb.1, ihr hb.2⟩
  | runGuarded _ b c rest ihb ihc ihr =>
    exact ⟨ihb hb.1, fun f => ihc f (hb.2.1 f), ihr hb.2.2⟩

theorem Body.all_true (b : Body η ν) : b.All fun _ => True := by
  induction b with
  | done => trivial
  | act a rest ih => exact ⟨trivial, ih⟩
  | guard _ b _ _ rest ihb ihr => exact ⟨ihb, ihr⟩
  | runGuarded _ b c rest ihb ihc ihr => exact ⟨ihb, ihc, ihr⟩

/-- A host that delivers what it catches, and the plain payloads that it
carries: it has a payload for each of them, and reads the plain failure off it. -/
structure Carrier where
  throw : Failure → Payload
  take : Payload → Failure
  lift : Payload → Payload
  Carries : Payload → Prop
  lift_failure : ∀ f, lift (.failure f) = throw f
  carries_failure : ∀ f, Carries (.failure f)
  take_lift : ∀ p, Carries p → take (lift p) = p.toFailure

namespace Carrier

variable (c : Carrier)

def host : Host := ⟨c.throw, Host.catchScript c.take⟩

theorem take_throw (f : Failure) : c.take (c.throw f) = f := by
  rw [← c.lift_failure, c.take_lift _ (c.carries_failure f)]
  rfl

/-- A plain outcome, as the host shows it. -/
def shown (r : Finish × World σ) : Finish × World σ := (r.1.mapPayload c.lift, r.2)

/-- What unwinds is a payload that the host carries. -/
def Holds (e : Finish) : Prop := ∀ p, e = .unwound p → c.Carries p

/-- Under the host the action does what it does in plain code. -/
def Admits (ν : Type) (a : Action η) : Prop :=
  ∀ w : World (Scene ν), a.run (fun _ => c.host) w = c.shown (a.effect w) ∧ c.Holds (a.effect w).1

/-- The host delivers the failure that plain code catches. -/
theorem delivers_caught {e : Finish} {f : Failure} (hc : c.Holds e) (hf : e.caught? = some f) :
    (∃ g, e = .returned (.error g) ∧ c.take (c.throw g) = f) ∨
      ∃ p, e = .unwound p ∧ c.take (c.lift p) = f := by
  rcases e with (g | ⟨⟩) | p
  · cases hf
    exact Or.inl ⟨f, rfl, c.take_throw f⟩
  · cases hf
  · cases hf
    exact Or.inr ⟨p, rfl, c.take_lift p (hc p rfl)⟩

theorem runGuarded_of_ok {op : Operation σ Unit} {w w' : World σ}
    (h : op w = c.shown (.returned (.ok ()), w')) (k : Continuation σ) :
    runGuarded c.host op k w = (.returned .completed, w') := by
  rw [host, runGuarded_catching, h]
  rfl

theorem runGuarded_of_caught {op : Operation σ Unit} {w w' : World σ} {e : Finish} {f : Failure}
    (h : op w = c.shown (e, w')) (hc : c.Holds e) (hf : e.caught? = some f) (k : Continuation σ) :
    runGuarded c.host op k w = afterCatching (k f (w'.ended e)) := by
  rw [host, runGuarded_catching, h]
  rcases c.delivers_caught hc hf with ⟨g, rfl, hg⟩ | ⟨p, rfl, hp⟩
  · simp only [shown, Ending.mapPayload, hg]
    rfl
  · simp only [shown, Ending.mapPayload, hp]
    rfl

theorem guard_of_ok {op : Operation σ Unit} {w w' : World σ}
    (h : op w = c.shown (.returned (.ok ()), w')) (v : α) :
    guard c.host (op.andThen fun _ => Operation.succeed v) w = (.returned (.ok v), w') := by
  rw [host, guard_catching, Operation.andThen, h]
  rfl

theorem guard_of_caught {op : Operation σ Unit} {w w' : World σ} {e : Finish} {f : Failure}
    (h : op w = c.shown (e, w')) (hc : c.Holds e) (hf : e.caught? = some f) (v : α) :
    guard c.host (op.andThen fun _ => Operation.succeed v) w =
      (.returned (.error f), w'.ended e) := by
  rw [host, guard_catching, Operation.andThen, h]
  rcases c.delivers_caught hc hf with ⟨g, rfl, hg⟩ | ⟨p, rfl, hp⟩
  · simp only [shown, Ending.mapPayload, hg]
    rfl
  · simp only [shown, Ending.mapPayload, hp]
    rfl

/-- The continuation is called with the failure that is caught, if one is, and with no other. -/
theorem calls_of_runGuarded {op : Operation σ Unit} {w w' : World σ} {e : Finish}
    (h : op w = c.shown (e, w')) (hc : c.Holds e) (k : Continuation σ) :
    (runGuarded c.host op.beside k.counted ⟨(w.user, []), w.log⟩).2.user.2 = e.caught?.toList := by
  have hop : op.beside ⟨(w.user, []), w.log⟩ = c.shown (e, ⟨(w'.user, []), w'.log⟩) := by
    unfold Operation.beside
    rw [h]
    rfl
  rcases e.ok_or_caught with rfl | ⟨f, hf⟩
  · rw [c.runGuarded_of_ok hop]
    rfl
  · rw [c.runGuarded_of_caught hop hc hf, hf, afterCatching_world, Continuation.counted,
      World.ended_user]
    rfl

/-! ## Bodies under such a host -/

theorem raise_eq (f : Failure) (w : World σ) :
    raise c.host f w = c.shown (.unwound (.failure f), w.record (.raising f.kind)) := by
  rw [shown, Ending.mapPayload, c.lift_failure]
  rfl

theorem Holds.of_returned (r : Except Failure Unit) : c.Holds (.returned r) := nofun

theorem Holds.of_failure (f : Failure) : c.Holds (.unwound (.failure f)) := by
  intro p hp
  cases hp
  exact c.carries_failure f

/-- Every such host admits the actions that leave the raising to it. -/
theorem admits_of_relayed {a : Action η} (h : a.Relayed) : c.Admits ν a := by
  intro w
  cases a with
  | note s => exact ⟨rfl, .of_returned c _⟩
  | fail f => exact ⟨rfl, .of_returned c _⟩
  | raise host f => exact ⟨c.raise_eq f w, .of_failure c f⟩
  | panic p => exact absurd h id
  | ensure n => exact ⟨rfl, .of_returned c _⟩
  | ensureRaising n => exact absurd h id

/-- A body does under the host what it does in plain code. The induction is
on the plain run, so a continuation that unwinds does so only if the run has
a rule for it. -/
theorem run_of_runs {mayUnwind : Prop} {b : Body η ν} {w w' : World (Scene ν)} {e : Finish}
    (h : Runs mayUnwind b w e w') (hb : b.All (c.Admits ν)) :
    b.run (fun _ => c.host) w = c.shown (e, w') ∧ c.Holds e := by
  induction h with
  | done => exact ⟨rfl, .of_returned c _⟩
  | act ha _ ih =>
    rw [Body.run, Operation.andThen, (hb.1 _).1, ha]
    exact ih hb.2
  | @stop a rest w e w₁ ha he =>
    obtain ⟨hrun, hholds⟩ := hb.1 w
    rw [ha] at hrun hholds
    refine ⟨?_, hholds⟩
    rw [Body.run, Operation.andThen, hrun]
    rcases e with (f | ⟨⟩) | p
    · rfl
    · exact absurd rfl he
    · rfl
  | guardOk _ _ ihb ihr =>
    rw [Body.run, Operation.andThen, afterGuard, c.guard_of_ok (ihb hb.1).1]
    exact ihr hb.2
  | ignore _ hf _ ihb ihr =>
    obtain ⟨hrun, hholds⟩ := ihb hb.1
    rw [Body.run, Operation.andThen, afterGuard, c.guard_of_caught hrun hholds hf]
    exact ihr hb.2
  | giveBack _ hf ihb =>
    obtain ⟨hrun, hholds⟩ := ihb hb.1
    rw [Body.run, Operation.andThen, afterGuard, c.guard_of_caught hrun hholds hf]
    exact ⟨rfl, .of_returned c _⟩
  | @raiseAgain h b v h' rest w eb w₁ f _ hf ihb =>
    obtain ⟨hrun, hholds⟩ := ihb hb.1
    rw [Body.run, Operation.andThen, afterGuard, c.guard_of_caught hrun hholds hf]
    simp only [OnFailure.run, c.raise_eq, shown, Ending.mapPayload]
    exact ⟨trivial, .of_failure c f⟩
  | completed _ _ ihb ihr =>
    rw [Body.run, Operation.andThen, notingPhase, c.runGuarded_of_ok (ihb hb.1).1]
    exact ihr hb.2.2
  | @handled h b c' rest w eb w₁ f r w₂ e w₃ _ hf _ _ ihb ihc ihr =>
    obtain ⟨hrun, hholds⟩ := ihb hb.1
    rw [Body.run, Operation.andThen, notingPhase, c.runGuarded_of_caught hrun hholds hf,
      continuation, (ihc (hb.2.1 _)).1]
    rcases r with g | ⟨⟩
    · exact ihr hb.2.2
    · exact ihr hb.2.2
  | catchUnwinds _ _ hf _ ihb ihc =>
    obtain ⟨hrun, hholds⟩ := ihb hb.1
    rw [Body.run, Operation.andThen, notingPhase, c.runGuarded_of_caught hrun hholds hf,
      continuation, (ihc (hb.2.1 _)).1]
    exact ⟨rfl, (ihc (hb.2.1 _)).2⟩

end Carrier

end HostBoundary.Relay
