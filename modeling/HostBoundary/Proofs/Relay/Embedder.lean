-- The laws of guarded bodies under a foreign embedder. It throws payloads of
-- its own and drives a context through two exports. A body that leaves the
-- raising to its hosts runs under it as under native unwinding.
import HostBoundary.Proofs.Relay.TryCatch

namespace HostBoundary.Relay

variable {η ν σ α : Type}

/-! ## What is documented of an embedder -/

/-- It enters the operation through one export. If something unwinds out of
that, it goes to the other export, with the failure if the embedder threw it. -/
def documentedTryCatch (c : Context σ) (w : World σ) : Ending Unit × Context σ × World σ :=
  match c.perform w (.enterExport true) with
  | (.returned (), c', w') => (.returned (), c', w')
  | (.unwound p, c', w') => c'.perform w' (.deliverExport true p.thrown?)

structure Documented (h : Host) : Prop where
  throw : h.throw = .thrown
  tryCatch : ∀ {σ : Type} (c : Context σ) (w : World σ), h.tryCatch c w = documentedTryCatch c w

theorem embedder_documented : Documented Host.embedder where
  throw := rfl
  tryCatch c w := by
    simp only [Host.tryCatch, Host.embedder, Host.catchScript, Host.runSteps, Host.runStep,
      documentedTryCatch, Context.perform]
    rcases c.runTrying .thrown w with ⟨⟨⟩ | p, c', w'⟩
    · rfl
    · simp only
      rcases hr : c'.runCatching p.toEmbedder w' with ⟨⟨⟩ | q, c'', w''⟩ <;>
        simp only [Payload.toEmbedder] at hr <;> rw [hr]

section

variable {h : Host} (hd : Documented h)

include hd

theorem runGuarded_documented : runGuarded (σ := σ) h = runGuarded Host.embedder := by
  funext op k w
  unfold runGuarded
  rw [hd.tryCatch, embedder_documented.tryCatch]

theorem guard_documented (op : Operation σ α) : guard h op = guard Host.embedder op := by
  funext w
  unfold guard
  rw [runGuarded_documented hd]

theorem raise_documented (f : Failure) (w : World σ) :
    (raise h f w : Ending α × World σ) = raise Host.embedder f w := by
  unfold raise
  rw [hd.throw]
  rfl

end

/-- What is documented of an embedder says how every body runs under it. -/
theorem run_documented {hosts : η → Host} (hd : ∀ n, Documented (hosts n)) (b : Body η ν) :
    b.run hosts = b.run fun _ => Host.embedder := by
  have hraise : ∀ n f, (raise (hosts n) f : Operation (Scene ν) Unit) = raise Host.embedder f :=
    fun n f => funext (raise_documented (hd n) f)
  have haction : ∀ a : Action η,
      (a.run hosts : Operation (Scene ν) Unit) = a.run fun _ => Host.embedder := by
    intro a
    cases a with
    | raise n f => exact hraise n f
    | _ => rfl
  have hfailure : ∀ (o : OnFailure η) f,
      (o.run hosts f : Operation (Scene ν) Unit) = o.run (fun _ => Host.embedder) f := by
    intro o f
    cases o with
    | raise n => exact hraise n f
    | _ => rfl
  induction b with
  | done => rfl
  | act a rest ih => rw [Body.run, Body.run, haction, ih]
  | guard n b v o rest ihb ihr =>
    rw [Body.run, Body.run, guard_documented (hd n), ihb, ihr]
    congr 1
    funext w
    simp only [afterGuard, hfailure]
  | runGuarded n b c rest ihb ihc ihr =>
    rw [Body.run, Body.run, ihb, ihr, funext ihc]
    congr 1
    funext w
    simp only [notingPhase, runGuarded_documented (hd n)]

/-! ## The embedder carries what the relay raises -/

/-- The embedder has payloads of its own for failures, and carries nothing else. -/
def Carrier.embedder : Carrier where
  throw := .thrown
  take := Payload.toEmbedder
  lift
    | .failure f => .thrown f
    | p => p
  Carries p := ∃ f, p = .failure f
  lift_failure _ := rfl
  carries_failure f := ⟨f, rfl⟩
  take_lift p := by
    rintro ⟨f, rfl⟩
    rfl

/-- Started in this world, the body runs without an unwind out of a continuation. -/
def Body.CatchingReturns (b : Body η ν) (w : World (Scene ν)) : Prop := ∃ e w', Runs False b w e w'

/-- A body that leaves the raising to its hosts, and whose continuations
return, does the same under an embedder as under native unwinding: the notes
are the same and in the same order, with every failure that a continuation
got, every result of a guard and every phase. So are the stacks and the log.
It returns the same result, or unwinds with the same failure. -/
theorem embedder_relay_agrees_with_native {hosts : η → Host} (hd : ∀ n, Documented (hosts n))
    (b : Body η ν) (w : World (Scene ν)) (hb : b.All Action.Relayed) (hc : b.CatchingReturns w) :
    (b.run hosts w).2 = (b.runNative w).2 ∧
      ((∃ r, (b.runNative w).1 = .returned r ∧ (b.run hosts w).1 = .returned r) ∨
        ∃ f, (b.runNative w).1 = .unwound (.failure f) ∧
          (b.run hosts w).1 = .unwound (.thrown f)) := by
  obtain ⟨e, w', h⟩ := hc
  have hall : b.All (Carrier.embedder.Admits ν) :=
    hb.imp fun a ha => Carrier.embedder.admits_of_relayed ha
  obtain ⟨hrun, hholds⟩ := Carrier.embedder.run_of_runs h hall
  rw [run_documented hd, show Host.embedder = Carrier.embedder.host from rfl, hrun,
    runNative_of_runs h]
  refine ⟨rfl, ?_⟩
  cases e with
  | returned r => exact Or.inl ⟨r, rfl, rfl⟩
  | unwound p =>
    obtain ⟨f, rfl⟩ := hholds p rfl
    exact Or.inr ⟨f, rfl, rfl⟩

/-- A failure raised inside a guard that raises it again, under a guarded run
whose continuation returns another failure with its text, which goes no further.
Both runs note the failure that the guard gave, the one that the continuation
caught and the one that it returned, and where the guarded run ended. -/
theorem embedder_relay_agrees_on_a_nested_raise :
    let raised : Failure := .runtime "attempt to call a nil value"
    let inner : Body Unit Unit :=
      .guard () (.act (.note "in") (.act (.raise () raised) .done)) () (.raise ()) .done
    let b : Body Unit Unit :=
      .runGuarded () inner (fun f => .act (.fail (.memory f.message)) .done)
        (.act (.fail raised) .done)
    let w : World (Scene Unit) := ⟨⟨[], ⟨0, 32, 32, 1000, false, [], []⟩,
      ⟨0, 32, 32, 1000, [], none, []⟩⟩, []⟩
    let notes : List (Note Unit) := [.text "in", .guardErr raised, .caught raised,
      .catchErr (.memory "attempt to call a nil value"), .phase .handled]
    (∀ n : Unit, Documented ((fun _ => Host.embedder) n)) ∧ b.All Action.Relayed ∧
      b.CatchingReturns w ∧ (b.run (fun _ => Host.embedder) w).2 = (b.runNative w).2 ∧
      (b.runNative w).2.user.notes = notes ∧
      (b.run (fun _ => Host.embedder) w).2.user.notes = notes ∧
      (b.runNative w).1 = .returned (.error raised) ∧
      (b.run (fun _ => Host.embedder) w).1 = .returned (.error raised) := by
  intro raised inner b w notes
  have hall : b.All Action.Relayed := ⟨⟨⟨trivial, trivial, trivial⟩, trivial⟩,
    fun _ => ⟨trivial, trivial⟩, trivial, trivial⟩
  have hc : b.CatchingReturns w := ⟨_, _, .handled
    (.raiseAgain (.act rfl (.stop rfl nofun)) rfl) rfl (.stop rfl nofun) (.stop rfl nofun)⟩
  obtain ⟨hworld, _⟩ :=
    embedder_relay_agrees_with_native (fun _ => embedder_documented) b w hall hc
  have hnotes : (b.runNative w).2.user.notes = notes := rfl
  refine ⟨fun _ => embedder_documented, hall, hc, hworld, hnotes, ?_, rfl, rfl⟩
  rw [hworld, hnotes]

end HostBoundary.Relay
