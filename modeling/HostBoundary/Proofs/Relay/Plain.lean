-- Guarded bodies as plain code with exceptions. `Runs` says how a body runs
-- where each failure goes straight to the innermost code that catches it.
-- There is no context here and no host, and no part could run a second time.
import HostBoundary.Relay.Body

namespace HostBoundary

/-- The text of a panic that the relay did not raise. -/
def Payload.panicText? : Payload → Option String
  | .failure _ => none
  | .text s => some s
  | .other | .thrown _ => some "panic with non-string payload"

namespace Relay

variable {η ν σ : Type}

/-- How a body ends: well, with a failure that it returns, or in an unwind. -/
abbrev Finish := Ending (Except Failure Unit)

/-- The failure that code sees which catches this ending. -/
def Ending.caught? : Finish → Option Failure
  | .returned (.ok ()) => none
  | .returned (.error f) => some f
  | .unwound p => some p.toFailure

/-- What is caught is the failure that was returned or raised, or stands for
another panic and has its text. -/
theorem Ending.caught?_eq_some {e : Finish} {f : Failure} :
    e.caught? = some f ↔ e = .returned (.error f) ∨ e = .unwound (.failure f) ∨
      ∃ p m, e = .unwound p ∧ p.panicText? = some m ∧ f = ⟨.panic, m⟩ := by
  constructor
  · intro h
    rcases e with (g | ⟨⟩) | p
    · cases h
      exact Or.inl rfl
    · cases h
    · cases h
      cases p with
      | failure g => exact Or.inr (Or.inl rfl)
      | text s => exact Or.inr (Or.inr ⟨_, _, rfl, rfl, rfl⟩)
      | other => exact Or.inr (Or.inr ⟨_, _, rfl, rfl, rfl⟩)
      | thrown g => exact Or.inr (Or.inr ⟨_, _, rfl, rfl, rfl⟩)
  · rintro (rfl | rfl | ⟨p, m, rfl, hp, rfl⟩)
    · rfl
    · rfl
    · cases p <;> cases hp <;> rfl

/-- An ending that is not well is caught as a failure. -/
theorem Ending.ok_or_caught (e : Finish) :
    e = .returned (.ok ()) ∨ ∃ f, e.caught? = some f := by
  rcases e with (f | ⟨⟩) | p
  · exact Or.inr ⟨f, rfl⟩
  · exact Or.inl rfl
  · exact Or.inr ⟨p.toFailure, rfl⟩

/-- The world after guarded code ended: a failure that it returned is logged. -/
def World.ended (w : World σ) : Finish → World σ
  | .returned (.error f) => w.record (.guardedFailed f.kind)
  | _ => w

@[simp] theorem World.ended_user (w : World σ) (e : Finish) : (w.ended e).user = w.user := by
  rcases e with (f | ⟨⟩) | p <;> rfl

/-- The world after the code of a continuation returned: a failure is noted. -/
def World.noteReturned (w : World (Scene ν)) : Except Failure Unit → World (Scene ν)
  | .ok () => w
  | .error f => w.note (.catchErr f)

/-! ## The rules -/

/-- What an action does. Whatever the host, raising a failure is an unwind with it. -/
def Action.effect : Action η → World (Scene ν) → Finish × World (Scene ν)
  | .note s, w => (.returned (.ok ()), w.note (.text s))
  | .fail f, w => (.returned (.error f), w)
  | .raise _ f, w => (.unwound (.failure f), w.record (.raising f.kind))
  | .panic p, w => (.unwound p, w)
  | .ensure n, w =>
    let r := Stack.Bounded.view.ensure n w.user.stack
    (.returned r.1, { w with user := { w.user with stack := r.2 } })
  | .ensureRaising n, w =>
    let r := (Stack.BoundedEngine.engine.view ()).ensure n w.user.engine
    let w' := { w with user := { w.user with engine := r.2 } }
    match r.1 with
    | .ok () => (.returned (.ok ()), w')
    | .error f => (.unwound (.failure f), w'.record (.raising f.kind))

/-- `Runs mayUnwind b w e w'` says that the body `b`, started in the world `w`,
ends with `e` in the world `w'`. Continuations unwind only if `mayUnwind`. -/
inductive Runs (mayUnwind : Prop) :
    Body η ν → World (Scene ν) → Finish → World (Scene ν) → Prop
  | done {w} : Runs mayUnwind .done w (.returned (.ok ())) w
  | act {a rest w w₁ e w₂} (ha : a.effect w = (.returned (.ok ()), w₁))
      (hr : Runs mayUnwind rest w₁ e w₂) : Runs mayUnwind (.act a rest) w e w₂
  /-- Nothing follows an action that fails or unwinds. -/
  | stop {a rest w e w₁} (ha : a.effect w = (e, w₁)) (he : e ≠ .returned (.ok ())) :
      Runs mayUnwind (.act a rest) w e w₁
  | guardOk {h b v onFailure rest w w₁ e w₂}
      (hb : Runs mayUnwind b w (.returned (.ok ())) w₁)
      (hr : Runs mayUnwind rest (w₁.note (.guardOk v)) e w₂) :
      Runs mayUnwind (.guard h b v onFailure rest) w e w₂
  | ignore {h b v rest w eb w₁ f e w₂} (hb : Runs mayUnwind b w eb w₁) (hf : eb.caught? = some f)
      (hr : Runs mayUnwind rest ((w₁.ended eb).note (.guardErr f)) e w₂) :
      Runs mayUnwind (.guard h b v .ignore rest) w e w₂
  | giveBack {h b v rest w eb w₁ f} (hb : Runs mayUnwind b w eb w₁) (hf : eb.caught? = some f) :
      Runs mayUnwind (.guard h b v .giveBack rest) w (.returned (.error f))
        ((w₁.ended eb).note (.guardErr f))
  | raiseAgain {h b v h' rest w eb w₁ f} (hb : Runs mayUnwind b w eb w₁)
      (hf : eb.caught? = some f) :
      Runs mayUnwind (.guard h b v (.raise h') rest) w (.unwound (.failure f))
        (((w₁.ended eb).note (.guardErr f)).record (.raising f.kind))
  | completed {h b c rest w w₁ e w₂} (hb : Runs mayUnwind b w (.returned (.ok ())) w₁)
      (hr : Runs mayUnwind rest (w₁.note (.phase .completed)) e w₂) :
      Runs mayUnwind (.runGuarded h b c rest) w e w₂
  | handled {h b c rest w eb w₁ f r w₂ e w₃} (hb : Runs mayUnwind b w eb w₁)
      (hf : eb.caught? = some f)
      (hc : Runs mayUnwind (c f) ((w₁.ended eb).note (.caught f)) (.returned r) w₂)
      (hr : Runs mayUnwind rest ((w₂.noteReturned r).note (.phase .handled)) e w₃) :
      Runs mayUnwind (.runGuarded h b c rest) w e w₃
  /-- An unwind out of a continuation goes on, past the code that it belongs to. -/
  | catchUnwinds {h b c rest w eb w₁ f p w₂} (hu : mayUnwind) (hb : Runs mayUnwind b w eb w₁)
      (hf : eb.caught? = some f)
      (hc : Runs mayUnwind (c f) ((w₁.ended eb).note (.caught f)) (.unwound p) w₂) :
      Runs mayUnwind (.runGuarded h b c rest) w (.unwound p) w₂

/-! ## Every body runs -/

theorem exists_runs (b : Body η ν) (w : World (Scene ν)) : ∃ e w', Runs True b w e w' := by
  induction b generalizing w with
  | done => exact ⟨_, _, .done⟩
  | act a rest ih =>
    by_cases he : (a.effect w).1 = .returned (.ok ())
    · obtain ⟨e, w', hr⟩ := ih (a.effect w).2
      exact ⟨e, w', .act (by rw [← he]) hr⟩
    · exact ⟨_, _, .stop rfl he⟩
  | guard h b v onFailure rest ihb ihr =>
    obtain ⟨eb, w₁, hb⟩ := ihb w
    rcases eb.ok_or_caught with rfl | ⟨f, hf⟩
    · obtain ⟨e, w', hr⟩ := ihr (w₁.note (.guardOk v))
      exact ⟨e, w', .guardOk hb hr⟩
    · cases onFailure with
      | ignore =>
        obtain ⟨e, w', hr⟩ := ihr ((w₁.ended eb).note (.guardErr f))
        exact ⟨e, w', .ignore hb hf hr⟩
      | giveBack => exact ⟨_, _, .giveBack hb hf⟩
      | raise h' => exact ⟨_, _, .raiseAgain hb hf⟩
  | runGuarded h b c rest ihb ihc ihr =>
    obtain ⟨eb, w₁, hb⟩ := ihb w
    rcases eb.ok_or_caught with rfl | ⟨f, hf⟩
    · obtain ⟨e, w', hr⟩ := ihr (w₁.note (.phase .completed))
      exact ⟨e, w', .completed hb hr⟩
    · obtain ⟨ec, w₂, hc⟩ := ihc f ((w₁.ended eb).note (.caught f))
      cases ec with
      | returned r =>
        obtain ⟨e, w', hr⟩ := ihr ((w₂.noteReturned r).note (.phase .handled))
        exact ⟨e, w', .handled hb hf hc hr⟩
      | unwound p => exact ⟨_, _, .catchUnwinds trivial hb hf hc⟩

/-! ## What a run depends on -/

/-- The worlds have the same stacks, whatever was noted and logged in them. -/
def SameStacks (w v : World (Scene ν)) : Prop :=
  w.user.stack = v.user.stack ∧ w.user.engine = v.user.engine

/-- The world with nothing noted and nothing logged. -/
def World.forgetting (w : World (Scene ν)) : World (Scene ν) :=
  ⟨{ w.user with notes := [] }, []⟩

theorem SameStacks.ended {w v : World (Scene ν)} (h : SameStacks w v) (e : Finish) :
    SameStacks (w.ended e) (v.ended e) := by
  rw [SameStacks, World.ended_user, World.ended_user]
  exact h

theorem SameStacks.noteReturned {w v : World (Scene ν)} (h : SameStacks w v)
    (r : Except Failure Unit) : SameStacks (w.noteReturned r) (v.noteReturned r) := by
  rcases r with f | ⟨⟩ <;> exact h

theorem effect_sameStacks (a : Action η) {w v : World (Scene ν)} (h : SameStacks w v) :
    (a.effect v).1 = (a.effect w).1 ∧ SameStacks (a.effect w).2 (a.effect v).2 := by
  obtain ⟨hstack, hengine⟩ := h
  cases a with
  | note s => exact ⟨rfl, hstack, hengine⟩
  | fail f => exact ⟨rfl, hstack, hengine⟩
  | raise host f => exact ⟨rfl, hstack, hengine⟩
  | panic p => exact ⟨rfl, hstack, hengine⟩
  | ensure n =>
    simp only [Action.effect, hstack]
    exact ⟨trivial, rfl, hengine⟩
  | ensureRaising n =>
    simp only [Action.effect, hengine]
    rcases ((Stack.BoundedEngine.engine.view ()).ensure n v.user.engine).1 with f | ⟨⟩
    · exact ⟨rfl, hstack, rfl⟩
    · exact ⟨rfl, hstack, rfl⟩

/-- How a body ends does not depend on what was noted and logged before it. -/
theorem runs_sameStacks {mayUnwind : Prop} {b : Body η ν} {w w' v : World (Scene ν)} {e : Finish}
    (h : Runs mayUnwind b w e w') (hs : SameStacks w v) :
    ∃ v', Runs mayUnwind b v e v' ∧ SameStacks w' v' := by
  induction h generalizing v with
  | done => exact ⟨v, .done, hs⟩
  | @act a rest w w₁ e w₂ ha _ ih =>
    obtain ⟨he, hs₁⟩ := effect_sameStacks a hs
    rw [ha] at he hs₁
    obtain ⟨v', hr, hs'⟩ := ih hs₁
    have hv : a.effect v = (.returned (.ok ()), (a.effect v).2) := Prod.ext he rfl
    exact ⟨v', .act hv hr, hs'⟩
  | @stop a rest w e w₁ ha hne =>
    obtain ⟨he, hs₁⟩ := effect_sameStacks a hs
    rw [ha] at he hs₁
    have hv : a.effect v = (e, (a.effect v).2) := Prod.ext he rfl
    exact ⟨_, .stop hv hne, hs₁⟩
  | guardOk _ _ ihb ihr =>
    obtain ⟨v₁, hb, hs₁⟩ := ihb hs
    obtain ⟨v', hr, hs'⟩ := ihr (v := v₁.note _) hs₁
    exact ⟨v', .guardOk hb hr, hs'⟩
  | ignore _ hf _ ihb ihr =>
    obtain ⟨v₁, hb, hs₁⟩ := ihb hs
    obtain ⟨v', hr, hs'⟩ := ihr (v := (v₁.ended _).note _) (hs₁.ended _)
    exact ⟨v', .ignore hb hf hr, hs'⟩
  | giveBack _ hf ihb =>
    obtain ⟨v₁, hb, hs₁⟩ := ihb hs
    exact ⟨_, .giveBack hb hf, hs₁.ended _⟩
  | raiseAgain _ hf ihb =>
    obtain ⟨v₁, hb, hs₁⟩ := ihb hs
    exact ⟨_, .raiseAgain hb hf, hs₁.ended _⟩
  | completed _ _ ihb ihr =>
    obtain ⟨v₁, hb, hs₁⟩ := ihb hs
    obtain ⟨v', hr, hs'⟩ := ihr (v := v₁.note _) hs₁
    exact ⟨v', .completed hb hr, hs'⟩
  | handled _ hf _ _ ihb ihc ihr =>
    obtain ⟨v₁, hb, hs₁⟩ := ihb hs
    obtain ⟨v₂, hc, hs₂⟩ := ihc (v := (v₁.ended _).note _) (hs₁.ended _)
    obtain ⟨v', hr, hs'⟩ := ihr (v := (v₂.noteReturned _).note _) (hs₂.noteReturned _)
    exact ⟨v', .handled hb hf hc hr, hs'⟩
  | catchUnwinds hu _ hf _ ihb ihc =>
    obtain ⟨v₁, hb, hs₁⟩ := ihb hs
    obtain ⟨v₂, hc, hs₂⟩ := ihc (v := (v₁.ended _).note _) (hs₁.ended _)
    exact ⟨v₂, .catchUnwinds hu hb hf hc, hs₂⟩

end Relay

end HostBoundary
