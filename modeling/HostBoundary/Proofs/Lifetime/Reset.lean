-- The law of resets: a reset brings a session back to what it was after its
-- build, whatever was written in between, so it comes to the same as a
-- shutdown and a build. Where the build failed, a reset and a build leave
-- the failure as it is.
import HostBoundary.Proofs.Flag.LastWriter
import HostBoundary.Proofs.Lifetime.BuiltOnce
import HostBoundary.Proofs.Startup.Values

namespace HostBoundary

/-! ## The registry -/

namespace Registry

/-- A reset gives the registry of the table again, over any values of the same rows. -/
theorem reset_eq {rows : List Row} {built r : Registry} (h : ofRows rows = .ok built)
    (hrows : r.rows = built.rows) : r.reset = built := by
  refine eq_of_get hrows (r := r.reset) ?_
  intro k name
  rw [get_reset, get_of_ofRows h, hrows, rows_of_ofRows h]

end Registry

/-! ## The session -/

namespace Session

/-- The session after writes to its registry. -/
def written (s : Session) (ws : List Write) : Session := { s with registry := s.registry.writes ws }

theorem written_append (s : Session) (ws ws' : List Write) :
    s.written (ws ++ ws') = (s.written ws).written ws' := by
  unfold written Registry.writes
  rw [List.foldl_append]

/-- A reset is two writes: of the defaults, and of the preset. -/
theorem value_reset (s : Session) :
    s.reset.value = s.written [.reset, .apply s.config.preset] := rfl

/-- After any writes a reset gives the session of the build again. -/
theorem reset_written {rows : List Row} {config : Config} {s : Session}
    (h : (Session.build rows config).value = .ok s) (ws : List Write) :
    (s.written ws).reset.value = s := by
  obtain ⟨r, hr, _, rfl⟩ := (build_eq_ok rows config s).1 h
  have hrows : ((config.preset.apply r).value.2.writes ws).rows = r.rows := by
    rw [Registry.writes_rows, config.preset.apply_rows]
  unfold reset written
  rw [Registry.reset_eq hr hrows]
  rfl

/-- Whatever a call does to a session, it does by writes. -/
theorem onSession_written (s : Session) (c : Call) :
    ∃ ws, (c.onSession s).value.2 = s.written ws := by
  cases c with
  | set k name v => exact ⟨[.set k name.bytes v], rfl⟩
  | get k name out =>
    refine ⟨[], ?_⟩
    rw [Call.onSession]
    cases s.registry.get k name.bytes <;> rfl
  | reset => exact ⟨[.reset, .apply s.config.preset], s.value_reset⟩
  | _ => exact ⟨[], rfl⟩

theorem answers_written (s : Session) (cs : List Call) :
    ∃ ws, (s.answers cs).value.2 = s.written ws := by
  induction cs generalizing s with
  | nil => exact ⟨[], rfl⟩
  | cons c cs ih =>
    obtain ⟨ws, hws⟩ := s.onSession_written c
    obtain ⟨ws', hws'⟩ := ih (s.written ws)
    refine ⟨ws ++ ws', ?_⟩
    rw [answers, Logged.value_bind, Logged.value_bind, hws, written_append, ← hws']
    rfl

theorem answers_snoc (s : Session) (cs : List Call) (c : Call) :
    (s.answers (cs ++ [c])).value.2 = (c.onSession (s.answers cs).value.2).value.2 := by
  induction cs generalizing s with
  | nil => rfl
  | cons c' cs ih => exact ih _

end Session

/-! ## Calls -/

namespace Lifetime

/-- What a build leaves. -/
def builtSlot (around : Surroundings) : Slot :=
  match (started around).value with
  | .ok s => .ready s
  | .error _ => .failed

section

variable {before period : List Occasion} {around : Surroundings}

theorem slot_of_rebuild (h : List Occasion) (around : Surroundings) :
    (after (h ++ [⟨around, .shutdown⟩, ⟨around, .init⟩])).slot = builtSlot around := by
  have hstretch : Stretch (h ++ [⟨around, .shutdown⟩]) [⟨around, .init⟩] :=
    ⟨Or.inr ⟨h, around, rfl⟩, by simp⟩
  rw [List.append_cons, slot_after_stretch hstretch, builtSlot]
  rfl

/-- A reset leaves what the build of its stretch left, which is what a build leaves here. -/
theorem slot_of_reset (h : Stretch before period)
    (hfirst : ∀ o ∈ period.head?, o.around = around) :
    (after (before ++ (period ++ [⟨around, .reset⟩]))).slot = builtSlot around := by
  have hno : ∀ o ∈ period ++ [⟨around, .reset⟩], o.call ≠ .shutdown := by
    simpa [or_imp, forall_and] using h.no_shutdown
  obtain ⟨first, later, hcalls, hat⟩ : ∃ first later,
      period ++ [⟨around, .reset⟩] = first :: later ∧ first.around = around := by
    cases period with
    | nil => exact ⟨_, [], rfl, rfl⟩
    | cons first later => exact ⟨first, _, rfl, hfirst first rfl⟩
  have hstretch : Stretch before (first :: later) := ⟨h.opens, hcalls ▸ hno⟩
  rw [hcalls, slot_after_stretch hstretch, ← hcalls, hat, builtSlot]
  cases hstart : (started around).value with
  | error e => rfl
  | ok s =>
    obtain ⟨config, _, hbuild⟩ := (started_eq_ok around s).1 hstart
    obtain ⟨ws, hws⟩ := s.answers_written (period.map Occasion.call)
    have hreset : (s.answers (period.map Occasion.call ++ [.reset])).value.2 = s := by
      rw [Session.answers_snoc, hws]
      exact Session.reset_written hbuild ws
    rw [List.map_append, List.map_singleton]
    exact congrArg Slot.ready hreset

/-- From now on a reset and a rebuild cannot be told apart, by any calls whatever is around. -/
theorem seenAlike_reset_rebuild (h : Stretch before period)
    (hfirst : ∀ o ∈ period.head?, o.around = around) (os : List Occasion) :
    SeenAlike ((after (before ++ period ++ [⟨around, .reset⟩])).run os)
      ((after (before ++ period ++ [⟨around, .shutdown⟩, ⟨around, .init⟩])).run os) := by
  apply seenAlike_run
  rw [slot_of_rebuild, List.append_assoc, slot_of_reset h hfirst]

end

end Lifetime

/-! ## The law -/

/-- The law of a session that was built of these rows, and of writes to it. -/
structure ComesBack (rows : List Row) (s : Session) (ws : List Write) : Prop where
  /-- Every flag has the value that it had after the build. -/
  values : ∀ k name, (s.written ws).reset.value.registry.get k name = s.registry.get k name
  /-- There are the flags of the table, and no others. -/
  flags : ∀ k name, (s.written ws).reset.value.registry.has k name = true ↔
    ∃ row ∈ rows, row.kind = k ∧ row.name = name
  /-- Nothing else of the session has changed either. -/
  session : (s.written ws).reset.value = s
  again : (s.written ws).reset.value.reset.value = (s.written ws).reset.value

theorem comes_back {rows : List Row} {config : Config} {s : Session}
    (h : (Session.build rows config).value = .ok s) (ws : List Write) : ComesBack rows s ws := by
  have hback := Session.reset_written h ws
  refine ⟨?_, ?_, hback, ?_⟩
  · intro k name
    rw [hback]
  · intro k name
    rw [hback, Registry.has_iff_row, Session.rows_of_build h]
  · rw [hback]
    exact Session.reset_written h []

/-- A reset comes to the same as a build. For a session it undoes all writes
since the build. For calls it is a shutdown and a build where a build finds
what the last one found, whether that fails or not. -/
theorem a_reset_is_a_rebuild :
    (∀ (rows : List Row) (config : Config) (s : Session) (ws : List Write),
      (Session.build rows config).value = .ok s → ComesBack rows s ws) ∧
    ∀ (before period : List Occasion) (around : Surroundings) (os : List Occasion),
      Stretch before period → (∀ o ∈ period.head?, o.around = around) →
      Lifetime.SeenAlike ((Lifetime.after (before ++ period ++ [⟨around, .reset⟩])).run os)
        ((Lifetime.after (before ++ period ++ [⟨around, .shutdown⟩, ⟨around, .init⟩])).run os) := by
  constructor
  · intro rows config s ws h
    exact comes_back h ws
  · intro before period around os h hfirst
    exact Lifetime.seenAlike_reset_rebuild h hfirst os

/-- A session with 5 over the default 7 has 5 again after a set of 9. So does a
program that drops its session instead, though the table is broken by then. -/
theorem a_reset_undoes_a_set :
    let rows : List Row := [⟨.bool, [97], true⟩, ⟨.int, [97], 7⟩]
    let config : Config := ⟨Preset.empty.put ⟨.int, "a", 5⟩, true⟩
    let ws : List Write := [.set .int [97] 9, .apply (Preset.empty.put ⟨.bool, "a", false⟩)]
    let raws : List RawRow := [⟨some [97, 0], 0, 1⟩, ⟨some [97, 0], 1, 7⟩]
    let environment : Environment := ⟨some (Text.toBytes "a=5"), none, none⟩
    let good : Surroundings := ⟨environment, Directory.files [], ⟨some raws, 2⟩⟩
    let bad : Surroundings := ⟨environment, Directory.files [], ⟨some (raws ++ raws), 4⟩⟩
    let name : NameArgument := ⟨some [97], 1⟩
    let period : List Occasion := [⟨good, .init⟩, ⟨bad, .set .int name 9⟩]
    let os : List Occasion := [⟨bad, .get .int name (some 0)⟩]
    (∃ s, (Session.build rows config).value = .ok s ∧ ComesBack rows s ws ∧
      (s.written ws).registry.get .int [97] = some 9 ∧
      (s.written ws).reset.value.registry.get .int [97] = some 5) ∧
    Stretch [] period ∧ (∀ o ∈ period.head?, o.around = good) ∧
      Lifetime.SeenAlike ((Lifetime.after (period ++ [⟨good, .reset⟩])).run os)
        ((Lifetime.after (period ++ [⟨good, .shutdown⟩, ⟨good, .init⟩])).run os) ∧
      ((Lifetime.after (period ++ [⟨good, .shutdown⟩, ⟨good, .init⟩])).run os).value.1 =
        [.value .int true (some 5)] := by
  intro rows config ws raws environment good bad name period os
  have hstretch : Stretch [] period := ⟨Or.inl rfl, by simp [period]⟩
  have hfirst : ∀ o ∈ period.head?, o.around = good := by simp [period]
  refine ⟨⟨_, rfl, a_reset_is_a_rebuild.1 rows config _ ws rfl, rfl, rfl⟩, hstretch, hfirst,
    a_reset_is_a_rebuild.2 [] period good os hstretch hfirst, rfl⟩

end HostBoundary
