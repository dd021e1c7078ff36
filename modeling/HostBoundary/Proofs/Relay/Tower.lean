-- The laws of guards around guards, where hosts of two kinds meet. A failure
-- that each body hands on as its result comes out of the outermost guard as
-- it went in. An unwind of one kind that reaches a guard of the other kind
-- ends there, and stands for a failure that the guard has of its own.
import HostBoundary.Proofs.Relay.Embedder

namespace HostBoundary.Relay

variable {σ α : Type}

/-! ## Two sides -/

/-- The two ways to unwind. -/
inductive Side where
  | native
  | embedder
  deriving DecidableEq

/-- The side that an unwind was started on. All but what an embedder threw is native. -/
def Side.of : Payload → Side
  | .thrown _ => .embedder
  | .failure _ | .text _ | .other => .native

/-- The host is native unwinding, or an embedder as documented. -/
def Host.OfSide (h : Host) : Side → Prop
  | .native => h = Host.native
  | .embedder => Documented h

namespace Side

def carrier : Side → Carrier
  | .native => Carrier.native
  | .embedder => Carrier.embedder

/-- The failure that a guard of this side has for an unwind of the other side. -/
def standIn : Side → Failure
  | .native => ⟨.panic, "panic with non-string payload"⟩
  | .embedder => ⟨.runtime, "foreign exception"⟩

theorem take_of_other {s : Side} {p : Payload} (h : Side.of p ≠ s) :
    s.carrier.take p = s.standIn := by
  cases s with
  | native =>
    cases p with
    | thrown f => rfl
    | _ => exact absurd rfl h
  | embedder =>
    cases p with
    | thrown f => exact absurd rfl h
    | _ => rfl

end Side

/-! ## One guard -/

section

variable {s : Side} {h : Host} (hs : h.OfSide s)

include hs

theorem throw_ofSide : h.throw = s.carrier.throw := by
  cases s with
  | native =>
    cases hs
    rfl
  | embedder => exact hs.throw

theorem runGuarded_ofSide : runGuarded (σ := σ) h = runGuarded s.carrier.host := by
  cases s with
  | native =>
    cases hs
    rfl
  | embedder => exact runGuarded_documented hs

/-- A guard gives the value, the failure as it was returned, or the failure
that its side reads off an unwind. -/
theorem guard_ofSide (op : Operation σ α) (w : World σ) :
    guard h op w = match op w with
      | (.returned (.ok a), w') => (.returned (.ok a), w')
      | (.returned (.error f), w') => (.returned (.error f), w'.record (.guardedFailed f.kind))
      | (.unwound p, w') => (.returned (.error (s.carrier.take p)), w') := by
  have hguard : guard h op = guard s.carrier.host op := by
    cases s with
    | native =>
      cases hs
      rfl
    | embedder => exact guard_documented hs op
  rw [hguard, Carrier.host, guard_catching]
  rcases op w with ⟨(f | a) | p, w'⟩
  · simp only [Carrier.take_throw]
  · rfl
  · rfl

theorem calls_ofSide {op : Operation σ Unit} {w w' : World σ} {p : Payload}
    (hop : op w = (.unwound p, w')) (k : Continuation σ) :
    (runGuarded h op.beside k.counted ⟨(w.user, []), w.log⟩).2.user.2 = [s.carrier.take p] := by
  have hbeside : op.beside ⟨(w.user, []), w.log⟩ = (.unwound p, ⟨(w'.user, []), w'.log⟩) := by
    unfold Operation.beside
    rw [hop]
  rw [runGuarded_ofSide hs, Carrier.host, runGuarded_catching, hbeside]
  simp only [afterCatching_world, Continuation.counted, List.nil_append]

end

/-- No unwind passes a guard of this host, and none is taken for a value. -/
structure StopsUnwinds (s : Side) (h : Host) : Prop where
  /-- What the host throws is an unwind of its side. -/
  throws : ∀ f, Side.of (h.throw f) = s
  /-- An unwind of the other side gives a failure in its place. -/
  crossing : ∀ {σ α : Type} (op : Operation σ α) w p w', op w = (.unwound p, w') → Side.of p ≠ s →
    guard h op w = (.returned (.error s.standIn), w')
  /-- That failure goes to the continuation of a guarded run, once. -/
  once : ∀ {σ : Type} (op : Operation σ Unit) (k : Continuation σ) w p w',
    op w = (.unwound p, w') → Side.of p ≠ s →
    (runGuarded h op.beside k.counted ⟨(w.user, []), w.log⟩).2.user.2 = [s.standIn]
  returns : ∀ {σ α : Type} (op : Operation σ α) w p, (guard h op w).1 ≠ .unwound p
  value : ∀ {σ α : Type} (op : Operation σ α) w a, (guard h op w).1 = .returned (.ok a) →
    (op w).1 = .returned (.ok a)

theorem stopsUnwinds_ofSide {s : Side} {h : Host} (hs : h.OfSide s) : StopsUnwinds s h where
  throws f := by
    rw [throw_ofSide hs]
    cases s <;> rfl
  crossing op w p w' hop hp := by
    rw [guard_ofSide hs, hop]
    simp only [Side.take_of_other hp]
  once op k w p w' hop hp := by
    rw [calls_ofSide hs hop, Side.take_of_other hp]
  returns op w p := by
    rw [guard_ofSide hs]
    rcases op w with ⟨(f | a) | q, w'⟩ <;> nofun
  value op w a := by
    rw [guard_ofSide hs]
    rcases op w with ⟨(f | b) | q, w'⟩
    · nofun
    · exact id
    · nofun

/-! ## Towers -/

/-- Guards around guards, each with a host of its own and values of its own. -/
inductive Tower (σ : Type) : Type → Type 1 where
  | ground {α : Type} (h : Host) (body : Operation σ α) : Tower σ α
  /-- A guard whose body does `before`, then has the guard inside, and goes on
  with `after` if that gives a value. A failure of it is the result of the body. -/
  | floor {α β : Type} (h : Host) (before : World σ → World σ) (inner : Tower σ α)
      (after : α → Operation σ β) : Tower σ β

namespace Tower

def run : {α : Type} → Tower σ α → Operation σ α
  | _, .ground h body => guard h body
  | _, .floor h before inner after => guard h fun w => inner.run.andThen after (before w)

/-- The hosts, the outermost one first. -/
def hosts : {α : Type} → Tower σ α → List Host
  | _, .ground h _ => [h]
  | _, .floor h _ inner _ => h :: inner.hosts

/-- The innermost body returns the failure, or raises it on its host. -/
def FailsWith (f : Failure) : {α : Type} → Tower σ α → World σ → Prop
  | _, .ground h body, w =>
    (body w).1 = .returned (.error f) ∨ (body w).1 = .unwound (h.throw f)
  | _, .floor _ before inner _, w => inner.FailsWith f (before w)

/-- The world that the innermost body leaves. -/
def left : {α : Type} → Tower σ α → World σ → World σ
  | _, .ground _ body, w => (body w).2
  | _, .floor _ before inner _, w => inner.left (before w)

/-- The tower with a panic in place of each code that follows a guard inside. -/
def panicking : {α : Type} → Tower σ α → Tower σ α
  | _, .ground h body => .ground h body
  | _, .floor h before inner _ => .floor h before inner.panicking fun _ => Operation.unwind .other

/-- What becomes of a failure that the innermost body ends with. -/
structure HandsOn (t : Tower σ α) (w : World σ) (f : Failure) : Prop where
  result : (t.run w).1 = .returned (.error f)
  /-- The guards log that their bodies failed. Apart from that the world is
  the one that the innermost body left. -/
  world : ∃ n, (t.run w).2 =
    { t.left w with log := (t.left w).log ++ List.replicate n (.guardedFailed f.kind) }
  /-- A panic in a code that follows a guard inside would show. -/
  nothing_after : t.panicking.run w = t.run w

theorem handsOn_of_failsWith (t : Tower σ α) (hosts : ∀ h ∈ t.hosts, ∃ s, h.OfSide s)
    {w : World σ} {f : Failure} (hf : t.FailsWith f w) : t.HandsOn w f := by
  induction t generalizing w with
  | ground h body =>
    obtain ⟨s, hs⟩ := hosts h (by simp [Tower.hosts])
    rcases hbody : body w with ⟨e, w'⟩
    simp only [FailsWith, hbody] at hf
    rcases hf with rfl | rfl
    · have hrun : guard h body w = (.returned (.error f), w'.record (.guardedFailed f.kind)) := by
        rw [guard_ofSide hs, hbody]
      refine ⟨by rw [run, hrun], ⟨1, ?_⟩, rfl⟩
      rw [run, hrun, left, hbody]
      rfl
    · have hrun : guard h body w = (.returned (.error f), w') := by
        rw [guard_ofSide hs, hbody]
        simp only [throw_ofSide hs, Carrier.take_throw]
      refine ⟨by rw [run, hrun], ⟨0, ?_⟩, rfl⟩
      rw [run, hrun, left, hbody]
      simp
  | @floor α β h before inner after ih =>
    obtain ⟨s, hs⟩ := hosts h (by simp [Tower.hosts])
    obtain ⟨hresult, ⟨n, hworld⟩, hnothing⟩ :=
      ih (fun h' hh' => hosts h' (List.mem_cons_of_mem _ hh')) hf
    have hinner : inner.run (before w) = (.returned (.error f), (inner.run (before w)).2) :=
      Prod.ext hresult rfl
    have hbody : ∀ after : α → Operation σ β,
        guard h (fun w => inner.run.andThen after (before w)) w =
          (.returned (.error f), (inner.run (before w)).2.record (.guardedFailed f.kind)) := by
      intro after
      rw [guard_ofSide hs]
      simp only [Operation.andThen]
      rw [hinner]
    refine ⟨by rw [run, hbody], ⟨n + 1, ?_⟩, ?_⟩
    · rw [run, hbody, hworld, left, World.record, List.replicate_succ', List.append_assoc]
    · rw [panicking, run, run, hbody, guard_ofSide hs]
      simp only [Operation.andThen, hnothing]
      rw [hinner]

end Tower

/-! ## The laws -/

/-- Whatever hosts of the two sides a tower has, a failure that its innermost
body ends with comes out of it unchanged. Unwinds do not: a guard of the
other side gives a failure of its own for them. -/
theorem a_failure_keeps_its_identity_through_a_tower (t : Tower σ α)
    (hosts : ∀ h ∈ t.hosts, ∃ s, h.OfSide s) :
    (∀ w f, t.FailsWith f w → t.HandsOn w f) ∧ ∀ s h, h.OfSide s → StopsUnwinds s h :=
  ⟨fun _ _ hf => t.handsOn_of_failsWith hosts hf, fun _ _ hs => stopsUnwinds_ofSide hs⟩

/-- A failure that is raised under an embedder, inside a native guard, inside
an embedder again. The bodies count what they do before and after a guard. -/
theorem a_failure_climbs_from_embedder_to_embedder :
    let f : Failure := .memory "out of memory"
    let count : World Nat → World Nat := fun w => { w with user := w.user + 1 }
    let after : Unit → Operation Nat Unit := fun _ w => (.returned (.ok ()), count w)
    let t : Tower Nat Unit := .floor Host.embedder count
      (.floor Host.native count (.ground Host.embedder (raise Host.embedder f)) after) after
    let w : World Nat := ⟨0, []⟩
    (∀ h ∈ t.hosts, ∃ s, h.OfSide s) ∧ t.FailsWith f w ∧ t.HandsOn w f ∧ (t.run w).2.user = 2 := by
  intro f count after t w
  have hosts : ∀ h ∈ t.hosts, ∃ s, h.OfSide s := by
    intro h hh
    simp only [t, Tower.hosts, List.mem_cons, List.not_mem_nil, or_false] at hh
    rcases hh with rfl | rfl | rfl
    · exact ⟨.embedder, embedder_documented⟩
    · exact ⟨.native, rfl⟩
    · exact ⟨.embedder, embedder_documented⟩
  have hf : t.FailsWith f w := Or.inr rfl
  exact ⟨hosts, hf, (a_failure_keeps_its_identity_through_a_tower t hosts).1 w f hf, rfl⟩

end HostBoundary.Relay
