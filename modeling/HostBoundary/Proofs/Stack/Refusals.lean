-- The law of refused room. A refusal is raised once, as one failure. Under a
-- native guard it arrives as if it had been returned, so guarded code may ask
-- the engine, which raises, or a stack that grants the same and returns.
import HostBoundary.Proofs.Stack.Room
import HostBoundary.Proofs.Relay.Catching

namespace HostBoundary.Stack

open Relay

variable {η ω ω' σ α β : Type}

/-! ## Asking under a guard -/

/-- A call for room as guarded code makes it. -/
def Engine.asking (e : Engine η ω) (c : RoomCall η) : Operation (σ × ω) Unit := fun w =>
  match e.room c ⟨w.user.2, w.log⟩ with
  | (.returned (), w') => (.returned (.ok ()), ⟨(w.user.1, w'.user), w'.log⟩)
  | (.unwound p, w') => (.unwound p, ⟨(w.user.1, w'.user), w'.log⟩)

/-- The same call where the code asks a stack itself, and returns the failure. -/
def askingViews (views : η → View ω) (c : RoomCall η) : Operation (σ × ω) Unit := fun w =>
  match c.state with
  | none => (.returned (.ok ()), w)
  | some h =>
    let r := (views h).ensure c.slots w.user.2
    (.returned r.1, { w with user := (w.user.1, r.2) })

/-- Guarded code that asks for room. A step is any other code: it works on
`σ`, and it writes the log but cannot read it. A guard is native, and what
follows it goes by its result. -/
inductive Code (η σ : Type) : Type → Type 1 where
  | give {α : Type} (a : α) : Code η σ α
  | step {α β : Type} (x : σ → Ending (Except Failure β) × σ × List Event)
      (next : β → Code η σ α) : Code η σ α
  | ask {α : Type} (c : RoomCall η) (next : Code η σ α) : Code η σ α
  | guard {α β : Type} (body : Code η σ β) (next : Except Failure β → Code η σ α) : Code η σ α

/-- A step as it runs beside a stack. -/
def stepping (x : σ → Ending (Except Failure α) × σ × List Event) : Operation (σ × ω) α := fun w =>
  let r := x w.user.1
  (r.1, ⟨(r.2.1, w.user.2), w.log ++ r.2.2⟩)

/-- The result of an operation as a value. -/
def resulting (op : Operation σ α) : Operation σ (Except Failure α) := fun w =>
  match op w with
  | (.returned r, w') => (.returned (.ok r), w')
  | (.unwound p, w') => (.unwound p, w')

/-- Runs the code. Its calls for room go by `ask`. -/
def Code.run (ask : RoomCall η → Operation (σ × ω) Unit) {α : Type} :
    Code η σ α → Operation (σ × ω) α
  | .give a => Operation.succeed a
  | .step x next => (stepping x).andThen fun b => (next b).run ask
  | .ask c next => (ask c).andThen fun _ => next.run ask
  | .guard body next =>
    (resulting (Relay.guard Host.native (body.run ask))).andThen fun r => (next r).run ask

/-! ## What a native guard tells apart -/

/-- What a native guard makes of an ending. -/
def underGuard : Ending (Except Failure α) → Except Failure α
  | .returned r => r
  | .unwound p => .error p.toFailure

theorem guard_native (op : Operation σ α) (w : World σ) :
    ∃ w', Relay.guard Host.native op w = (.returned (underGuard (op w).1), w') ∧
      w'.user = (op w).2.user := by
  have hguard : Relay.guard Host.native op w = _ := guard_catching .failure Payload.toFailure op w
  rw [hguard]
  rcases op w with ⟨(f | a) | p, w'⟩
  · exact ⟨_, rfl, rfl⟩
  · exact ⟨_, rfl, rfl⟩
  · exact ⟨_, rfl, rfl⟩

/-- Stacks that grant and refuse what an engine does. `R` relates states of
the two that answer alike, now and after any request. -/
structure SameRoom (e : Engine η ω) (views : η → View ω') (R : ω → ω' → Prop) : Prop where
  granted : ∀ {s t}, R s t → ∀ h n, 0 < n.toInt →
    (((views h).ensure n t).1 = .ok () ↔ (e.checkStack h n s).1 = 0)
  refused : ∀ {s t}, R s t → ∀ h n, 0 < n.toInt → ∀ f,
    (((views h).ensure n t).1 = .error f ↔ Refused n (e.checkStack h n s).1 f)
  kept : ∀ {s t}, R s t → ∀ h n, 0 < n.toInt →
    R (e.checkStack h n s).2 ((views h).ensure n t).2

/-- Runs that no native guard tells apart, and that leave related states. -/
structure AlikeUnderGuard (R : ω → ω' → Prop) (r : Ending (Except Failure α) × World (σ × ω))
    (r' : Ending (Except Failure α) × World (σ × ω')) : Prop where
  result : underGuard r.1 = underGuard r'.1
  own : r.2.user.1 = r'.2.user.1
  related : R r.2.user.2 r'.2.user.2

section

variable {e : Engine η ω} {views : η → View ω'} {R : ω → ω' → Prop} {w : World (σ × ω)}
  {w' : World (σ × ω')}

theorem askingViews_of_unasked {c : RoomCall η} (h : c.request? = none) :
    askingViews views c w' = (.returned (.ok ()), w') := by
  obtain ⟨state, n⟩ := c
  cases state with
  | none => rfl
  | some state =>
    have hnonpos : n.toInt ≤ 0 := nonpos_of_unasked h
    simp only [askingViews, View.ensure_of_nonpos _ hnonpos]

/-- Asked alike, the engine and the stack both grant, or the one raises the
failure that the other returns. -/
theorem asking_cases (hsame : SameRoom e views R) (hR : R w.user.2 w'.user.2) (c : RoomCall η) :
    (∃ s t log, R s t ∧ e.asking c w = (.returned (.ok ()), ⟨(w.user.1, s), log⟩) ∧
      askingViews views c w' = (.returned (.ok ()), ⟨(w'.user.1, t), w'.log⟩)) ∨
    ∃ f s t log, R s t ∧ e.asking c w = (.unwound (.failure f), ⟨(w.user.1, s), log⟩) ∧
      askingViews views c w' = (.returned (.error f), ⟨(w'.user.1, t), w'.log⟩) := by
  obtain ⟨m, w₁, hroom, hsettled⟩ : ∃ m w₁, e.room c ⟨w.user.2, w.log⟩ = (m.ending, w₁) ∧
    Settled e c ⟨w.user.2, w.log⟩ m w₁ := ⟨e.made c _, _, rfl, settled e c _⟩
  simp only [Engine.asking, hroom]
  cases hsettled with
  | unasked hc => exact Or.inl ⟨_, _, _, hR, rfl, askingViews_of_unasked hc⟩
  | @met h n s hc hcheck =>
    obtain ⟨rfl, hpos⟩ := RoomCall.request?_eq_some.1 hc
    have hok := (hsame.granted hR h n hpos).2 (congrArg Prod.fst hcheck)
    have hkept := hsame.kept hR h n hpos
    rw [hcheck] at hkept
    refine Or.inl ⟨_, _, _, hkept, rfl, ?_⟩
    simp only [askingViews, hok]
  | @refused h n code s f hc hcheck hf =>
    obtain ⟨rfl, hpos⟩ := RoomCall.request?_eq_some.1 hc
    have hkept := hsame.kept hR h n hpos
    have herror := hsame.refused hR h n hpos f
    rw [hcheck] at hkept herror
    refine Or.inr ⟨f, _, _, _, hkept, rfl, ?_⟩
    simp only [askingViews, herror.2 hf]

/-- Code that asks the engine and code that asks the stacks run alike. -/
theorem alike_run (hsame : SameRoom e views R) (code : Code η σ α) (hown : w.user.1 = w'.user.1)
    (hR : R w.user.2 w'.user.2) :
    AlikeUnderGuard R (code.run e.asking w) (code.run (askingViews views) w') := by
  induction code generalizing w w' with
  | give a => exact ⟨rfl, hown, hR⟩
  | step x next ih =>
    simp only [Code.run, Operation.andThen, stepping, ← hown]
    rcases x w.user.1 with ⟨(f | b) | p, s, log⟩
    · exact ⟨rfl, rfl, hR⟩
    · exact ih b rfl hR
    · exact ⟨rfl, rfl, hR⟩
  | ask c next ih =>
    rcases asking_cases hsame hR c with ⟨s, t, log, hR', hraises, hreturns⟩ |
      ⟨f, s, t, log, hR', hraises, hreturns⟩
    · simp only [Code.run, Operation.andThen, hraises, hreturns]
      exact ih hown hR'
    · simp only [Code.run, Operation.andThen, hraises, hreturns]
      exact ⟨rfl, hown, hR'⟩
  | guard body next ihbody ihnext =>
    have hbody := ihbody hown hR
    obtain ⟨w₁, hguard, huser⟩ := guard_native (body.run e.asking) w
    obtain ⟨w₁', hguard', huser'⟩ := guard_native (body.run (askingViews views)) w'
    simp only [Code.run, Operation.andThen, resulting, hguard, hguard', hbody.result]
    apply ihnext
    · rw [huser, huser', hbody.own]
    · rw [huser, huser']
      exact hbody.related

end

/-! ## The law -/

/-- An engine grants what its own view does. -/
theorem sameRoom_view (e : Engine η ω) : SameRoom e e.view Eq := by
  constructor
  · rintro s _ rfl h n hpos
    obtain ⟨slots, hslots⟩ := Word.exists_unsigned? (Int.le_of_lt hpos)
    rw [e.view_ensure hpos hslots, granted_eq_ok_iff (Word.toNat_of_unsigned? hslots)]
  · rintro s _ rfl h n hpos f
    obtain ⟨slots, hslots⟩ := Word.exists_unsigned? (Int.le_of_lt hpos)
    rw [e.view_ensure hpos hslots, granted_eq_error_iff (Word.toNat_of_unsigned? hslots)]
  · rintro s _ rfl h n hpos
    obtain ⟨slots, hslots⟩ := Word.exists_unsigned? (Int.le_of_lt hpos)
    rw [e.view_ensure hpos hslots]

theorem arrives_under_guard {before : Operation (σ × ω) β} {w w₁ : World (σ × ω)} {b : β}
    (hbefore : before w = (.returned (.ok b), w₁)) {e : Engine η ω} {c : RoomCall η} {f : Failure}
    (hraises : (e.room c ⟨w₁.user.2, w₁.log⟩).1 = .unwound (.failure f))
    (after : Operation (σ × ω) α) :
    (Relay.guard Host.native (before.andThen fun _ => (e.asking c).andThen fun _ => after) w).1 =
      .returned (.error f) := by
  obtain ⟨w', hguard, _⟩ := guard_native
    (before.andThen fun _ => (e.asking c).andThen fun _ => after) w
  rcases hroom : e.room c ⟨w₁.user.2, w₁.log⟩ with ⟨_, w₂⟩
  rw [hroom] at hraises
  cases hraises
  rw [hguard]
  simp only [Operation.andThen, hbefore, Engine.asking, hroom]
  rfl

/-- How an engine is asked for room, and what becomes of its refusals. -/
structure RoomLaw (e : Engine η ω) : Prop where
  /-- Every call of a sequence goes by the rules, whatever came of those before it. -/
  rules : ∀ calls w, AllSettled e calls w (e.rooms calls w).1 (e.rooms calls w).2
  /-- What reaches the engine is what the calls ask for, as it is and in order. -/
  forwarded : ∀ calls w, ((e.rooms calls w).1.flatMap Made.reached).map Reached.request? =
    (calls.filterMap RoomCall.request?).map some
  returned_iff : ∀ c w, (e.room c w).1 = .returned () ↔
    ∀ h n, c.request? = some (h, n) → (e.checkStack h n w.user).1 = 0
  raised_iff : ∀ c w p, (e.room c w).1 = .unwound p ↔
    ∃ h n f, c.request? = some (h, n) ∧ Refused n (e.checkStack h n w.user).1 f ∧ p = .failure f
  /-- The log has every refusal once, in order, and nothing else. -/
  surfaces_once : ∀ calls w, (e.rooms calls w).2.log =
    w.log ++ ((e.rooms calls w).1.filterMap Made.failure?).map fun f => .raising f.kind
  /-- A native guard around the call gives the failure that was raised. -/
  arrives : ∀ {σ α β : Type} (before : Operation (σ × ω) β) (after : Operation (σ × ω) α)
    c w w₁ b f, before w = (.returned (.ok b), w₁) →
    (e.room c ⟨w₁.user.2, w₁.log⟩).1 = .unwound (.failure f) →
      (Relay.guard Host.native
        (before.andThen fun _ => (e.asking c).andThen fun _ => after) w).1 = .returned (.error f)
  /-- Guarded code that asks the engine has the result of the code that asks stacks with the
  same room and returns their failures. -/
  same_result : ∀ {σ α ω' : Type} (views : η → View ω') (R : ω → ω' → Prop),
    SameRoom e views R → ∀ (code : Code η σ α) (w : World (σ × ω)) (w' : World (σ × ω')),
      w.user.1 = w'.user.1 → R w.user.2 w'.user.2 →
        (Relay.guard Host.native (code.run e.asking) w).1 =
          (Relay.guard Host.native (code.run (askingViews views)) w').1
  own_room : SameRoom e e.view Eq
  /-- Growth refuses by itself what is too large for the engine. -/
  narrows : ∀ h slots s, 0x80000000 ≤ slots.toNat →
    (e.view h).grow slots s = (.error (.stackOverflow slots), s)
  /-- No call gets there: it is the same with any other growth of what is too large. -/
  never_narrows : ∀ h (v : View ω),
    (∀ slots s, slots.toNat < 0x80000000 → v.grow slots s = (e.view h).grow slots s) →
      ∀ n s, v.ensure n s = (e.view h).ensure n s

/-- Requests for room go to the engine as they are, and each refusal surfaces
once, as the failure that its code stands for. -/
theorem a_refusal_surfaces_once_as_it_is (e : Engine η ω) : RoomLaw e where
  rules := allSettled e
  forwarded calls w := (allSettled e calls w).requests_eq
  returned_iff c w := (settled e c w).returned_iff
  raised_iff c w := (settled e c w).unwound_iff
  surfaces_once calls w := (allSettled e calls w).log_eq
  arrives _ after _ _ _ _ _ hbefore hraises := arrives_under_guard hbefore hraises after
  same_result views R hsame code w w' hown hR := by
    obtain ⟨_, hguard, _⟩ := guard_native (code.run e.asking) w
    obtain ⟨_, hguard', _⟩ := guard_native (code.run (askingViews views)) w'
    rw [hguard, hguard', (alike_run hsame code hown hR).result]
  own_room := sameRoom_view e
  narrows _ _ s hlarge := e.view_grow_of_large hlarge s
  never_narrows _ _ h n s := View.ensure_congr h n s

-- A code below zero is an overflow. Two of the calls ask for nothing.
example : (BoundedEngine.engine.rooms [⟨none, 9⟩, ⟨some (), -3⟩, ⟨some (), 6⟩]
    ⟨⟨0, 0, 0, 1000, [], some (-7), []⟩, []⟩).1 = [⟨[], .returned ()⟩, ⟨[], .returned ()⟩,
      ⟨[.checkStack () 6 (-7)], .unwound (.failure (.stackOverflow 6))⟩] := rfl

end HostBoundary.Stack
