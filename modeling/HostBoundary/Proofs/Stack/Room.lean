-- The laws of calls for room, one and many. A call that asks for slots at
-- all goes to the engine as it is, and the code of the engine decides: the
-- call returns, or it raises one failure.
import HostBoundary.Proofs.Stack.Watched

namespace HostBoundary.Stack

open Relay

variable {η ω : Type}

/-! ## What a code says -/

/-- The failure of a request for `n` slots that is answered with a code. -/
inductive Refused (n : Int32) : Int32 → Failure → Prop
  | memory : Refused n 2 ⟨.memory, "not enough memory"⟩
  | overflow {code : Int32} : code ≠ 0 → code ≠ 2 →
      Refused n code ⟨.stackOverflow,
        "stack overflow (requested " ++ String.ofList (Decimal.ofInt n.toInt) ++ " extra slots)"⟩

theorem Refused.unique {n code : Int32} {f g : Failure} (h : Refused n code f)
    (h' : Refused n code g) : f = g := by
  cases h with
  | memory =>
    cases h' with
    | memory => rfl
    | overflow _ hmemory => exact absurd rfl hmemory
  | overflow _ hmemory =>
    cases h' with
    | memory => exact absurd rfl hmemory
    | overflow => rfl

theorem not_refused_ok {n : Int32} {f : Failure} : ¬ Refused n 0 f := by
  intro h
  cases h with
  | overflow hok => exact hok rfl

/-- What a code says of a request: it was met, or refused with a failure. -/
theorem granted_cases {n : Int32} {slots : UInt64} (hslots : (slots.toNat : Int) = n.toInt)
    (code : Int32) :
    (code = 0 ∧ Engine.granted code slots = .ok ()) ∨
      ∃ f, Refused n code f ∧ Engine.granted code slots = .error f := by
  unfold Engine.granted
  split
  · rename_i hok
    exact Or.inl ⟨hok, rfl⟩
  · rename_i hok
    split
    · rename_i hmemory
      subst hmemory
      exact Or.inr ⟨_, .memory, rfl⟩
    · rename_i hmemory
      refine Or.inr ⟨_, .overflow hok hmemory, ?_⟩
      rw [← hslots]
      rfl

theorem granted_eq_ok_iff {n code : Int32} {slots : UInt64}
    (hslots : (slots.toNat : Int) = n.toInt) : Engine.granted code slots = .ok () ↔ code = 0 := by
  rcases granted_cases hslots code with ⟨rfl, hok⟩ | ⟨f, hf, herror⟩
  · simp [hok]
  · have hcode : code ≠ 0 := by
      rintro rfl
      exact not_refused_ok hf
    simp [herror, hcode]

theorem granted_eq_error_iff {n code : Int32} {slots : UInt64}
    (hslots : (slots.toNat : Int) = n.toInt) {f : Failure} :
    Engine.granted code slots = .error f ↔ Refused n code f := by
  rcases granted_cases hslots code with ⟨rfl, hok⟩ | ⟨g, hg, herror⟩
  · rw [hok]
    constructor
    · intro heq
      cases heq
    · intro hf
      exact absurd hf not_refused_ok
  · rw [herror]
    constructor
    · intro heq
      cases heq
      exact hg
    · intro hf
      rw [hg.unique hf]

/-! ## One call -/

/-- A call for room: the state of the engine, if there is one, and the slots. -/
structure RoomCall (η : Type) where
  state : Option η
  slots : Int32

/-- What the call passes on, if it asks a state that is there for slots at all. -/
def RoomCall.request? (c : RoomCall η) : Option (η × Int32) :=
  if 0 < c.slots.toInt then c.state.map fun h => (h, c.slots) else none

theorem RoomCall.request?_eq_some {c : RoomCall η} {h : η} {n : Int32} :
    c.request? = some (h, n) ↔ c = ⟨some h, n⟩ ∧ 0 < n.toInt := by
  obtain ⟨state, slots⟩ := c
  unfold request?
  constructor
  · intro heq
    split at heq
    · rename_i hpos
      cases state <;> cases heq
      exact ⟨rfl, hpos⟩
    · cases heq
  · rintro ⟨heq, hpos⟩
    cases heq
    exact if_pos hpos

/-- What came of a call: what reached the engine meanwhile, and how the call ended. -/
structure Made (η : Type) where
  reached : List (Reached η)
  ending : Ending Unit

def Engine.room (e : Engine η ω) (c : RoomCall η) (w : World ω) : Ending Unit × World ω :=
  e.ensure c.state c.slots w

/-- What comes of a call. The same call on the watched engine tells what reached it. -/
def Engine.made (e : Engine η ω) (c : RoomCall η) (w : World ω) : Made η :=
  ⟨(e.watched.room c ⟨(w.user, []), w.log⟩).2.user.2, (e.room c w).1⟩

theorem nonpos_of_unasked {h : η} {n : Int32} (hc : (RoomCall.mk (some h) n).request? = none) :
    n.toInt ≤ 0 := by
  apply Int.not_lt.1
  intro hpos
  rw [RoomCall.request?, if_pos hpos] at hc
  cases hc

theorem Engine.room_of_unasked (e : Engine η ω) {c : RoomCall η} (hc : c.request? = none)
    (w : World ω) : e.room c w = (.returned (), w) := by
  obtain ⟨state, n⟩ := c
  cases state with
  | none => rfl
  | some h =>
    have hnonpos : n.toInt ≤ 0 := nonpos_of_unasked hc
    rw [Engine.room, Engine.ensure, View.ensure_of_nonpos _ hnonpos]

theorem Engine.room_of_asked (e : Engine η ω) {h : η} {n : Int32} (hpos : 0 < n.toInt)
    {slots : UInt64} (hslots : Word.unsigned? n = some slots) (w : World ω) :
    e.room ⟨some h, n⟩ w =
      match granted (e.checkStack h n w.user).1 slots with
      | .ok () => (.returned (), ⟨(e.checkStack h n w.user).2, w.log⟩)
      | .error f => Relay.raise Host.native f ⟨(e.checkStack h n w.user).2, w.log⟩ := by
  simp only [Engine.room, Engine.ensure, e.view_ensure hpos hslots]
  rcases granted (e.checkStack h n w.user).1 slots with f | ⟨⟩ <;> rfl

/-- The rules of a call for room. It asks nothing, or it asks one thing and
gets it, or it asks one thing and raises one failure. -/
inductive Settled (e : Engine η ω) (c : RoomCall η) (w : World ω) : Made η → World ω → Prop
  | unasked : c.request? = none → Settled e c w ⟨[], .returned ()⟩ w
  | met {h n s} : c.request? = some (h, n) → e.checkStack h n w.user = (0, s) →
      Settled e c w ⟨[.checkStack h n 0], .returned ()⟩ ⟨s, w.log⟩
  | refused {h n code s f} : c.request? = some (h, n) → e.checkStack h n w.user = (code, s) →
      Refused n code f →
      Settled e c w ⟨[.checkStack h n code], .unwound (.failure f)⟩
        ⟨s, w.log ++ [.raising f.kind]⟩

/-- Every call goes by the rules. -/
theorem settled (e : Engine η ω) (c : RoomCall η) (w : World ω) :
    Settled e c w (e.made c w) (e.room c w).2 := by
  rcases hc : c.request? with _ | ⟨h, n⟩
  · rw [Engine.made, e.room_of_unasked hc, e.watched.room_of_unasked hc]
    exact .unasked hc
  · obtain ⟨rfl, hpos⟩ := RoomCall.request?_eq_some.1 hc
    obtain ⟨slots, hslots⟩ := Word.exists_unsigned? (Int.le_of_lt hpos)
    have hplain := e.room_of_asked (h := h) hpos hslots w
    have hwatched := e.watched.room_of_asked (h := h) hpos hslots ⟨(w.user, []), w.log⟩
    rcases hcheck : e.checkStack h n w.user with ⟨code, s⟩
    simp only [Engine.watched, hcheck] at hplain hwatched
    rcases granted_cases (Word.toNat_of_unsigned? hslots) code with
      ⟨rfl, hok⟩ | ⟨f, hrefused, herror⟩
    · rw [hok] at hplain hwatched
      rw [Engine.made, Engine.watched, hplain, hwatched]
      exact .met hc hcheck
    · rw [herror] at hplain hwatched
      rw [Engine.made, Engine.watched, hplain, hwatched]
      exact .refused hc hcheck hrefused

/-- Whatever growth does with requests that are too large for an engine, no call can tell. -/
theorem View.ensure_congr {v v' : View ω}
    (h : ∀ slots s, slots.toNat < 0x80000000 → v.grow slots s = v'.grow slots s) (n : Int32)
    (s : ω) : v.ensure n s = v'.ensure n s := by
  by_cases hpos : 0 < n.toInt
  · obtain ⟨slots, hslots⟩ := Word.exists_unsigned? (Int.le_of_lt hpos)
    have hfits : slots.toNat < 0x80000000 := by
      have hnat := Word.toNat_of_unsigned? hslots
      have hlt := Int32.toInt_lt n
      omega
    rw [v.ensure_of_pos hpos hslots, v'.ensure_of_pos hpos hslots, h slots s hfits]
  · rw [v.ensure_of_nonpos (by omega), v'.ensure_of_nonpos (by omega)]

/-! ## Calls one after the other -/

/-- Makes the calls in order, whatever comes of each of them. -/
def Engine.rooms (e : Engine η ω) : List (RoomCall η) → World ω → List (Made η) × World ω
  | [], w => ([], w)
  | c :: calls, w =>
    let rest := e.rooms calls (e.room c w).2
    (e.made c w :: rest.1, rest.2)

/-- The rules of calls one after the other. -/
inductive AllSettled (e : Engine η ω) :
    List (RoomCall η) → World ω → List (Made η) → World ω → Prop
  | nil {w} : AllSettled e [] w [] w
  | cons {c calls w m w₁ ms w₂} : Settled e c w m w₁ → AllSettled e calls w₁ ms w₂ →
      AllSettled e (c :: calls) w (m :: ms) w₂

theorem allSettled (e : Engine η ω) (calls : List (RoomCall η)) (w : World ω) :
    AllSettled e calls w (e.rooms calls w).1 (e.rooms calls w).2 := by
  induction calls generalizing w with
  | nil => exact .nil
  | cons c calls ih => exact .cons (settled e c w) (ih _)

/-- What was asked of the engine for slots. -/
def Reached.request? : Reached η → Option (η × Int32)
  | .checkStack h n _ => some (h, n)
  | .expandLimit .. | .isNative .. => none

/-- The failure that the call raised. -/
def Made.failure? (m : Made η) : Option Failure :=
  match m.ending with
  | .unwound (.failure f) => some f
  | _ => none

namespace AllSettled

variable {e : Engine η ω} {calls : List (RoomCall η)} {w w' : World ω} {ms : List (Made η)}

theorem requests_eq (h : AllSettled e calls w ms w') :
    (ms.flatMap Made.reached).map Reached.request? =
      (calls.filterMap RoomCall.request?).map some := by
  induction h with
  | nil => rfl
  | cons hcall _ ih =>
    rw [List.flatMap_cons, List.map_append, ih, List.filterMap_cons]
    cases hcall with
    | unasked hc => rw [hc]; rfl
    | met hc _ => rw [hc]; rfl
    | refused hc _ _ => rw [hc]; rfl

theorem log_eq (h : AllSettled e calls w ms w') :
    w'.log = w.log ++ (ms.filterMap Made.failure?).map fun f => .raising f.kind := by
  induction h with
  | nil => exact (List.append_nil _).symm
  | cons hcall _ ih =>
    rw [ih, List.filterMap_cons]
    cases hcall with
    | unasked => rfl
    | met => rfl
    | refused _ _ hf =>
      show (_ ++ [_]) ++ _ = _
      rw [List.append_assoc]
      rfl

end AllSettled

/-! ## How a call ends -/

section

variable {e : Engine η ω} {c : RoomCall η} {w w' : World ω} {m : Made η}

theorem Settled.returned_iff (hm : Settled e c w m w') : m.ending = .returned () ↔
    ∀ h n, c.request? = some (h, n) → (e.checkStack h n w.user).1 = 0 := by
  cases hm with
  | unasked hc => simp [hc]
  | met hc hcheck => simp [hc, hcheck]
  | @refused h n code s f hc hcheck hf =>
    have hcode : code ≠ 0 := by
      rintro rfl
      exact not_refused_ok hf
    simp [hc, hcheck, hcode]

theorem Settled.unwound_iff (hm : Settled e c w m w') (p : Payload) : m.ending = .unwound p ↔
    ∃ h n f, c.request? = some (h, n) ∧ Refused n (e.checkStack h n w.user).1 f ∧
      p = .failure f := by
  cases hm with
  | unasked hc => simp [hc]
  | @met h n s hc hcheck =>
    constructor
    · intro hending
      cases hending
    · rintro ⟨h', n', f, hc', hf, _⟩
      rw [hc] at hc'
      cases hc'
      rw [hcheck] at hf
      exact absurd hf not_refused_ok
  | @refused h n code s f hc hcheck hf =>
    constructor
    · intro hending
      cases hending
      refine ⟨h, n, f, hc, ?_, rfl⟩
      rw [hcheck]
      exact hf
    · rintro ⟨h', n', f', hc', hf', rfl⟩
      rw [hc] at hc'
      cases hc'
      rw [hcheck] at hf'
      rw [hf.unique hf']

end

end HostBoundary.Stack
