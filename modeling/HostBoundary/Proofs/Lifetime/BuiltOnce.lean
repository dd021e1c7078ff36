-- The law of a lifetime between two shutdowns: the session is built once, at
-- the first call that needs it, and from what is found then. Whether the
-- build succeeds or fails, that stands until the next shutdown, whatever
-- changes around the program.
import HostBoundary.Proofs.Startup.Logging

namespace HostBoundary

/-- Calls between two shutdowns, or between the start of the program and the
first shutdown. `before` is what was called until then. -/
structure Stretch (before calls : List Occasion) : Prop where
  opens : before = [] ∨ ∃ earlier around, before = earlier ++ [⟨around, .shutdown⟩]
  no_shutdown : ∀ o ∈ calls, o.call ≠ .shutdown

/-- Any calls are some up to a shutdown and a stretch after them. -/
theorem exists_stretch (os : List Occasion) :
    ∃ before calls, os = before ++ calls ∧ Stretch before calls := by
  induction os with
  | nil => exact ⟨[], [], rfl, Or.inl rfl, nofun⟩
  | cons o os ih =>
    obtain ⟨before, calls, rfl, hopens, hcalls⟩ := ih
    rcases hopens with rfl | ⟨earlier, around, rfl⟩
    · by_cases hdown : o.call = .shutdown
      · refine ⟨[o], calls, rfl, Or.inr ⟨[], o.around, ?_⟩, hcalls⟩
        rw [← hdown]
        rfl
      · exact ⟨[], o :: calls, rfl, Or.inl rfl, List.forall_mem_cons.2 ⟨hdown, hcalls⟩⟩
    · exact ⟨o :: (earlier ++ [⟨around, .shutdown⟩]), calls, rfl,
        Or.inr ⟨o :: earlier, around, rfl⟩, hcalls⟩

namespace Lifetime

section

variable {before : List Occasion} {first : Occasion} {later : List Occasion}

theorem slot_of_stretch {calls : List Occasion} (h : Stretch before calls) :
    (after before).slot = .unbuilt := by
  rcases h.opens with rfl | ⟨earlier, around, rfl⟩
  · rfl
  · rw [after_append]
    rfl

/-- A lifetime that is not unbuilt was built by the first call of a stretch. -/
theorem exists_first {os : List Occasion} (h : (after os).slot ≠ .unbuilt) :
    ∃ before first later, os = before ++ first :: later ∧ Stretch before (first :: later) := by
  obtain ⟨before, calls, rfl, hstretch⟩ := exists_stretch os
  cases calls with
  | nil =>
    rw [List.append_nil] at h
    exact absurd (slot_of_stretch hstretch) h
  | cons first later => exact ⟨before, first, later, rfl, hstretch⟩

/-- A stretch is one start from what its first call finds, and what comes of it. -/
theorem run_of_stretch (h : Stretch before (first :: later)) :
    (after before).run (first :: later) = started first.around >>=
      settle ((after before).reads + 1) ((first :: later).map Occasion.call) := by
  obtain ⟨n, hbefore⟩ : ∃ n, after before = ⟨.unbuilt, n⟩ :=
    ⟨(after before).reads, by rw [← slot_of_stretch h]⟩
  rw [hbefore, run_unbuilt h.no_shutdown]

/-- The law of a stretch with at least one call. -/
structure BuiltOnce (before : List Occasion) (first : Occasion) (later : List Occasion) :
    Prop where
  /-- The table and the variables are read at the first call. -/
  read_first : (after (before ++ [first])).reads = (after before).reads + 1
  not_again : (after (before ++ first :: later)).reads = (after (before ++ [first])).reads
  /-- What changes after the first call shows in no answer, in no event, and in nothing that
  is left. -/
  unmoved : ∀ later' : List Occasion, later'.map Occasion.call = later.map Occasion.call →
    (after before).run (first :: later') = (after before).run (first :: later)
  /-- Where the build succeeds, its session answers every call. -/
  ready : ∀ s, (started first.around).value = .ok s →
    let answers := s.answers ((first :: later).map Occasion.call)
    (after (before ++ first :: later)).slot = .ready answers.value.2 ∧
      ((after before).run (first :: later)).value.1 = answers.value.1 ∧
      ((after before).run (first :: later)).log = (started first.around).log ++ answers.log
  /-- Where the build fails, every call is refused, and the log has this once. -/
  failed : ∀ e, (started first.around).value = .error e →
    (after (before ++ first :: later)).slot = .failed ∧
      ((after before).run (first :: later)).value.1 =
        ((first :: later).map Occasion.call).map Call.refusal ∧
      ((after before).run (first :: later)).log =
        (started first.around).log ++ [.startFailed e.message] ∧
      ((after before).run (first :: later)).log.filter Event.isStartFailed =
        [.startFailed e.message]
  /-- Of what was before the shutdown nothing is left to be seen, by these calls or any. -/
  fresh : ∀ (before' os : List Occasion), Stretch before' [] →
    SeenAlike ((after before').run os) ((after before).run os)

theorem reads_of_stretch (h : Stretch before (first :: later)) :
    (after (before ++ first :: later)).reads = (after before).reads + 1 := by
  rw [after_append, run_of_stretch h, Logged.value_bind]
  cases (started first.around).value <;> rfl

/-- What a stretch leaves. -/
theorem slot_after_stretch (h : Stretch before (first :: later)) :
    (after (before ++ first :: later)).slot = match (started first.around).value with
      | .ok s => .ready (s.answers ((first :: later).map Occasion.call)).value.2
      | .error _ => .failed := by
  rw [after_append, run_of_stretch h, Logged.value_bind]
  cases (started first.around).value <;> rfl

/-- Between two shutdowns there is one build, and what comes of it stands. -/
theorem a_session_is_built_once_between_shutdowns (h : Stretch before (first :: later)) :
    BuiltOnce before first later := by
  have hfirst : Stretch before [first] := ⟨h.opens, by simpa using h.no_shutdown first (by simp)⟩
  have hrun := run_of_stretch h
  refine ⟨reads_of_stretch hfirst, ?_, ?_, ?_, ?_, ?_⟩
  · rw [reads_of_stretch h, reads_of_stretch hfirst]
  · intro later' hcalls
    have h' : Stretch before (first :: later') := by
      refine ⟨h.opens, ?_⟩
      have hall := h.no_shutdown
      rw [← List.forall_mem_map (f := Occasion.call) (P := fun c => c ≠ .shutdown)] at hall ⊢
      rwa [List.map_cons, hcalls]
    rw [run_of_stretch h', hrun, List.map_cons, List.map_cons, hcalls]
  · intro s hs
    refine ⟨?_, ?_, ?_⟩
    · rw [slot_after_stretch h, hs]
    · rw [hrun, Logged.value_bind, hs]
      rfl
    · rw [hrun, Logged.log_bind, hs, settle, Logged.log_bind]
      exact congrArg _ (List.append_nil _)
  · intro e he
    have hlog : ((after before).run (first :: later)).log =
        (started first.around).log ++ [.startFailed e.message] := by
      rw [hrun, Logged.log_bind, he]
      rfl
    refine ⟨?_, ?_, hlog, ?_⟩
    · rw [slot_after_stretch h, he]
    · rw [hrun, Logged.value_bind, he]
      rfl
    · rw [hlog, List.filter_append, List.filter_eq_nil_iff.2]
      · rfl
      · intro e' he'
        simp [only_started first.around e' he']
  · intro before' os h'
    exact seenAlike_run ((slot_of_stretch h').trans (slot_of_stretch h).symm) os

end

/-- After a shutdown the table has two rows for one flag. That it is mended
behind the first call is not seen: the getter leaves the caller's 5. -/
theorem a_failed_build_is_not_tried_again :
    let good : Surroundings := ⟨.empty, Directory.files [], ⟨some [⟨some [97, 0], 1, 7⟩], 1⟩⟩
    let bad : Surroundings :=
      ⟨.empty, Directory.files [], ⟨some [⟨some [97, 0], 1, 7⟩, ⟨some [97, 0], 1, 8⟩], 2⟩⟩
    let before : List Occasion := [⟨good, .init⟩, ⟨good, .shutdown⟩]
    let first : Occasion := ⟨bad, .get .int ⟨some [97], 1⟩ (some 5)⟩
    let later : List Occasion := [⟨good, .reset⟩, ⟨good, .init⟩]
    let e : StartError := .session (.table (.duplicate .int [97]))
    Stretch before (first :: later) ∧ BuiltOnce before first later ∧
      (started bad).value = .error e ∧
      ((after before).run (first :: later)).value.1 =
        [.value .int false (some 5), .done, .status false] ∧
      ((after before).run (first :: later)).log.filter Event.isStartFailed =
        [.startFailed e.message] := by
  intro good bad before first later e
  have hstretch : Stretch before (first :: later) := by
    refine ⟨Or.inr ⟨[⟨good, .init⟩], good, rfl⟩, ?_⟩
    simp [first, later]
  have hlaw := a_session_is_built_once_between_shutdowns hstretch
  have he : (started bad).value = .error e := rfl
  obtain ⟨_, hreplies, _, hlog⟩ := hlaw.failed e he
  exact ⟨hstretch, hlaw, he, hreplies, hlog⟩

end Lifetime

end HostBoundary
