-- The laws of guarded bodies under native unwinding. The relay is a context
-- with two parts that each run once, a phase, a throw inside and a catch
-- around it. All of this comes to a plain try and catch, for bodies nested
-- to any depth and for any way in which they and their continuations end.
import HostBoundary.Proofs.Relay.Catching

namespace HostBoundary.Relay

variable {η ν σ α : Type}

/-! ## Native unwinding carries every payload -/

/-- Native unwinding has plain payloads, and reads all of them. -/
def Carrier.native : Carrier where
  throw := .failure
  take := Payload.toFailure
  lift := id
  Carries _ := True
  lift_failure _ := rfl
  carries_failure _ := trivial
  take_lift _ _ := rfl

theorem Carrier.native_shown (r : Finish × World σ) : Carrier.native.shown r = r := by
  rcases r with ⟨_ | _, _⟩ <;> rfl

theorem Carrier.native_admits (a : Action η) : Carrier.native.Admits ν a := by
  intro w
  cases a with
  | note s => exact Carrier.native.admits_of_relayed (a := .note s) trivial w
  | fail f => exact Carrier.native.admits_of_relayed (a := .fail f) trivial w
  | raise host f => exact Carrier.native.admits_of_relayed (a := .raise host f) trivial w
  | ensure n => exact Carrier.native.admits_of_relayed (a := .ensure n) trivial w
  | panic p => exact ⟨rfl, fun _ _ => trivial⟩
  | ensureRaising n =>
    refine ⟨?_, fun _ _ => trivial⟩
    rw [native_shown]
    rcases h : (Stack.BoundedEngine.engine.view ()).ensure n w.user.engine with ⟨f | ⟨⟩, s⟩
    · simp only [Action.run, Action.effect, Stack.Engine.ensure, h]
      rfl
    · simp only [Action.run, Action.effect, Stack.Engine.ensure, h]

/-- The body under native unwinding. -/
def Body.runNative (b : Body η ν) : Operation (Scene ν) Unit := b.run fun _ => Host.native

/-- A native guard around the body, which yields a value where the body ends well. -/
def Body.guardNative (b : Body η ν) (v : α) : Operation (Scene ν) α :=
  Relay.guard Host.native (b.runNative.andThen fun _ => Operation.succeed v)

section

variable {b : Body η ν} {w w' : World (Scene ν)} {e : Finish}

theorem runNative_of_runs {mayUnwind : Prop} (h : Runs mayUnwind b w e w') :
    b.runNative w = (e, w') := by
  have hall : b.All (Carrier.native.Admits ν) := b.all_true.imp fun a _ => Carrier.native_admits a
  rw [← Carrier.native_shown (e, w')]
  exact (Carrier.native.run_of_runs h hall).1

/-- The run of a body is its plain run, so there is one plain run and no other. -/
theorem runNative_eq_iff : b.runNative w = (e, w') ↔ Runs True b w e w' := by
  constructor
  · intro h
    obtain ⟨e₁, w₁, hr⟩ := exists_runs b w
    rw [runNative_of_runs hr] at h
    cases h
    exact hr
  · exact runNative_of_runs

theorem shown_of_runs (h : Runs True b w e w') : b.runNative w = Carrier.native.shown (e, w') := by
  rw [Carrier.native_shown, runNative_of_runs h]

/-! ## A guard around a body -/

theorem guardNative_of_ok (h : Runs True b w (.returned (.ok ())) w') (v : α) :
    b.guardNative v w = (.returned (.ok v), w') :=
  Carrier.native.guard_of_ok (shown_of_runs h) v

theorem guardNative_of_caught (h : Runs True b w e w') {f : Failure} (hf : e.caught? = some f)
    (v : α) : b.guardNative v w = (.returned (.error f), w'.ended e) :=
  Carrier.native.guard_of_caught (shown_of_runs h) (fun _ _ => trivial) hf v

/-- A native guard gives the value where the body ends well, and else the
failure that is caught. -/
theorem guardNative_eq (h : Runs True b w e w') (v : α) :
    (b.guardNative v w).1 = .returned (match e.caught? with
      | none => .ok v
      | some f => .error f) := by
  rcases e.ok_or_caught with rfl | ⟨f, hf⟩
  · rw [guardNative_of_ok h]
    rfl
  · rw [guardNative_of_caught h hf, hf]

theorem guardNative_ok_iff (v v' : α) :
    (b.guardNative v w).1 = .returned (.ok v') ↔
      v' = v ∧ ∃ w', Runs True b w (.returned (.ok ())) w' := by
  obtain ⟨e, w₁, h⟩ := exists_runs b w
  rw [guardNative_eq h]
  constructor
  · intro hv
    rcases e.ok_or_caught with rfl | ⟨f, hf⟩
    · cases hv
      exact ⟨rfl, w₁, h⟩
    · rw [hf] at hv
      cases hv
  · rintro ⟨rfl, w', h'⟩
    have he := runNative_of_runs h
    rw [runNative_of_runs h'] at he
    cases he
    rfl

theorem guardNative_error_iff (v : α) (f : Failure) :
    (b.guardNative v w).1 = .returned (.error f) ↔
      ∃ e w', Runs True b w e w' ∧ e.caught? = some f := by
  obtain ⟨e, w₁, h⟩ := exists_runs b w
  rw [guardNative_eq h]
  constructor
  · intro hv
    rcases e.ok_or_caught with rfl | ⟨g, hg⟩
    · cases hv
    · rw [hg] at hv
      cases hv
      exact ⟨e, w₁, h, hg⟩
  · rintro ⟨e', w', h', hf⟩
    have he := runNative_of_runs h
    rw [runNative_of_runs h'] at he
    cases he
    rw [hf]

end

/-! ## What follows a failing action, and what an outer guard sees -/

/-- The actions of one body, then those of another. -/
def Body.append : Body η ν → Body η ν → Body η ν
  | .done, c => c
  | .act a rest, c => .act a (rest.append c)
  | .guard h b v onFailure rest, c => .guard h b v onFailure (rest.append c)
  | .runGuarded h b k rest, c => .runGuarded h b k (rest.append c)

/-- A body that does not end well ends the same way with more actions behind it. -/
theorem runs_append {mayUnwind : Prop} {b : Body η ν} {w w' : World (Scene ν)} {e : Finish}
    (h : Runs mayUnwind b w e w') (he : e ≠ .returned (.ok ())) (c : Body η ν) :
    Runs mayUnwind (b.append c) w e w' := by
  induction h with
  | done => exact absurd rfl he
  | act ha _ ih => exact .act ha (ih he)
  | stop ha _ => exact .stop ha he
  | guardOk hb _ _ ihr => exact .guardOk hb (ihr he)
  | ignore hb hf _ _ ihr => exact .ignore hb hf (ihr he)
  | giveBack hb hf _ => exact .giveBack hb hf
  | raiseAgain hb hf _ => exact .raiseAgain hb hf
  | completed hb _ _ ihr => exact .completed hb (ihr he)
  | handled hb hf hc _ _ _ ihr => exact .handled hb hf hc (ihr he)
  | catchUnwinds hu hb hf hc => exact .catchUnwinds hu hb hf hc

/-- A body ends as its last part does, which knows nothing of what was noted before. -/
theorem ending_of_rest {c rest : Body η ν} {w w₁ w₂ : World (Scene ν)}
    (h : ∀ e w', Runs True rest w₁ e w' → Runs True c w e w') (hs : SameStacks w₁ w₂) :
    (c.runNative w).1 = (rest.runNative w₂.forgetting).1 := by
  obtain ⟨e, w', hr⟩ := exists_runs rest w₁
  obtain ⟨w'', hr', _⟩ := runs_sameStacks hr (show SameStacks w₁ w₂.forgetting from hs)
  rw [runNative_of_runs (h e w' hr), runNative_of_runs hr']

/-- What an outer guard sees of a guard inside that gave a failure. -/
theorem ending_after_guard {b : Body η ν} {w w₁ : World (Scene ν)} {e : Finish} {f : Failure}
    (h : Runs True b w e w₁) (hf : e.caught? = some f) (host host' : η) (v : ν)
    (rest : Body η ν) :
    ((Body.guard host b v .ignore rest).runNative w).1 = (rest.runNative w₁.forgetting).1 ∧
      ((Body.guard host b v .giveBack rest).runNative w).1 = .returned (.error f) ∧
      ((Body.guard host b v (.raise host') rest).runNative w).1 = .unwound (.failure f) := by
  refine ⟨?_, ?_, ?_⟩
  · apply ending_of_rest (fun e' w' hr => .ignore h hf hr)
    exact ⟨by simp [World.note, Scene.note], by simp [World.note, Scene.note]⟩
  · rw [runNative_of_runs (Runs.giveBack h hf)]
  · rw [runNative_of_runs (Runs.raiseAgain h hf)]

theorem ending_after_catching {b : Body η ν} {c : Failure → Body η ν} {w w₁ w₂ : World (Scene ν)}
    {e : Finish} {f : Failure} {r : Except Failure Unit} (h : Runs True b w e w₁)
    (hf : e.caught? = some f)
    (hc : Runs True (c f) ((w₁.ended e).note (.caught f)) (.returned r) w₂) (host : η)
    (rest : Body η ν) :
    ((Body.runGuarded host b c rest).runNative w).1 = (rest.runNative w₂.forgetting).1 := by
  apply ending_of_rest (fun e' w' hr => .handled h hf hc hr)
  rcases r with g | ⟨⟩ <;> exact ⟨rfl, rfl⟩

/-! ## The relay and plain exceptions -/

/-- The laws of plain try and catch, for one body and the world that it starts in. -/
structure PlainlyCaught (b : Body η ν) (w : World (Scene ν)) : Prop where
  /-- The body runs as plain code does, and in no other way. -/
  run : ∀ e w', b.runNative w = (e, w') ↔ Runs True b w e w'
  guard_ok : ∀ {α : Type} (v v' : α), (b.guardNative v w).1 = .returned (.ok v') ↔
    v' = v ∧ ∃ w', Runs True b w (.returned (.ok ())) w'
  /-- A guard gives a failure that the body returned or that unwound out of it
  as it is, and any other panic as a panic failure with its text. -/
  guard_error : ∀ {α : Type} (v : α) (f : Failure), (b.guardNative v w).1 = .returned (.error f) ↔
    ∃ w', Runs True b w (.returned (.error f)) w' ∨ Runs True b w (.unwound (.failure f)) w' ∨
      ∃ p m, Runs True b w (.unwound p) w' ∧ p.panicText? = some m ∧ f = ⟨.panic, m⟩
  guard_returns : ∀ {α : Type} (v : α) (p : Payload), (b.guardNative v w).1 ≠ .unwound p
  /-- A guarded run whose body ends well is completed, whatever its continuation is. -/
  completed : ∀ (k : Continuation (Scene ν)) (w' : World (Scene ν)),
    Runs True b w (.returned (.ok ())) w' →
      Relay.runGuarded Host.native b.runNative k w = (.returned .completed, w')
  /-- Any other guarded run goes on with its continuation, which has the failure. -/
  handled : ∀ (k : Continuation (Scene ν)) (e : Finish) (w' : World (Scene ν)) (f : Failure),
    Runs True b w e w' → e.caught? = some f →
      Relay.runGuarded Host.native b.runNative k w = afterCatching (k f (w'.ended e))
  /-- The calls of the continuation: one with the failure that is caught, or none. -/
  calls : ∀ (k : Continuation (Scene ν)) (e : Finish) (w' : World (Scene ν)),
    Runs True b w e w' → (Relay.runGuarded Host.native b.runNative.beside k.counted
      ⟨(w.user, []), w.log⟩).2.user.2 = e.caught?.toList
  /-- What stands behind an action that does not end well never runs. -/
  stops : ∀ (e : Finish) (w' : World (Scene ν)) (rest : Body η ν), Runs True b w e w' →
    e ≠ .returned (.ok ()) → (b.append rest).runNative w = (e, w')
  /-- A failure that a guard inside caught is seen outside where it is given
  back or raised again. Else the body ends as its rest does, from a world in
  which nothing was noted or logged of the failure. -/
  seen_outside : ∀ (e : Finish) (w₁ : World (Scene ν)) (f : Failure) (host host' : η) (v : ν)
    (rest : Body η ν), Runs True b w e w₁ → e.caught? = some f →
      ((Body.guard host b v .ignore rest).runNative w).1 = (rest.runNative w₁.forgetting).1 ∧
      ((Body.guard host b v .giveBack rest).runNative w).1 = .returned (.error f) ∧
      ((Body.guard host b v (.raise host') rest).runNative w).1 = .unwound (.failure f)
  /-- A failure that a continuation handled is not seen outside. -/
  handled_inside : ∀ (e : Finish) (w₁ w₂ : World (Scene ν)) (f : Failure)
    (r : Except Failure Unit) (host : η) (c : Failure → Body η ν) (rest : Body η ν),
      Runs True b w e w₁ → e.caught? = some f →
      Runs True (c f) ((w₁.ended e).note (.caught f)) (.returned r) w₂ →
      ((Body.runGuarded host b c rest).runNative w).1 = (rest.runNative w₂.forgetting).1
  /-- An unwind out of a continuation goes past its own guarded run, and to the
  next guard outside. -/
  catching_unwinds : ∀ (e : Finish) (w₁ w₂ : World (Scene ν)) (f : Failure) (p : Payload)
    (host : η) (v : ν) (c : Failure → Body η ν) (rest : Body η ν), Runs True b w e w₁ →
      e.caught? = some f → Runs True (c f) ((w₁.ended e).note (.caught f)) (.unwound p) w₂ →
      (Body.runGuarded host b c rest).runNative w = (.unwound p, w₂) ∧
      (Body.runGuarded host b c rest).guardNative v w = (.returned (.error p.toFailure), w₂)

/-- Native relaying is plain try and catch, for every body, nested to any
depth, and every world that it starts in. -/
theorem native_relay_is_plain_try_and_catch (b : Body η ν) (w : World (Scene ν)) :
    PlainlyCaught b w where
  run _ _ := runNative_eq_iff
  guard_ok v v' := guardNative_ok_iff v v'
  guard_error v f := by
    rw [guardNative_error_iff]
    constructor
    · rintro ⟨e, w', h, hf⟩
      rcases Ending.caught?_eq_some.1 hf with rfl | rfl | ⟨p, m, rfl, hp, rfl⟩
      · exact ⟨w', Or.inl h⟩
      · exact ⟨w', Or.inr (Or.inl h)⟩
      · exact ⟨w', Or.inr (Or.inr ⟨p, m, h, hp, rfl⟩)⟩
    · rintro ⟨w', h | h | ⟨p, m, h, hp, rfl⟩⟩
      · exact ⟨_, w', h, rfl⟩
      · exact ⟨_, w', h, rfl⟩
      · exact ⟨_, w', h, Ending.caught?_eq_some.2 (Or.inr (Or.inr ⟨p, m, rfl, hp, rfl⟩))⟩
  guard_returns v p := by
    obtain ⟨e, w', h⟩ := exists_runs b w
    rw [guardNative_eq h]
    exact nofun
  completed k _ h := Carrier.native.runGuarded_of_ok (shown_of_runs h) k
  handled k _ _ _ h hf :=
    Carrier.native.runGuarded_of_caught (shown_of_runs h) (fun _ _ => trivial) hf k
  calls k _ _ h := Carrier.native.calls_of_runGuarded (shown_of_runs h) (fun _ _ => trivial) k
  stops _ _ rest h he := runNative_of_runs (runs_append h he rest)
  seen_outside _ _ _ host host' v rest h hf := ending_after_guard h hf host host' v rest
  handled_inside _ _ _ _ _ host _ rest h hf hc := ending_after_catching h hf hc host rest
  catching_unwinds _ _ w₂ _ p host v c rest h hf hc := by
    have hout : Runs True (.runGuarded host b c rest) w (.unwound p) w₂ :=
      .catchUnwinds trivial h hf hc
    exact ⟨runNative_of_runs hout, guardNative_of_caught hout rfl v⟩

end HostBoundary.Relay
