-- The law of the enumeration: what a caller reads from the two arrays of a
-- group are the flags of the table that the session was built from, each
-- once and in order, and the getters and setters know these flags and no
-- others.
import HostBoundary.Proofs.Flag.Enumeration
import HostBoundary.Proofs.Lifetime.Reset

namespace HostBoundary

/-! ## What a caller reads -/

/-- The flags of a group as a caller reads them: the name in the i-th memory,
up to its zero byte, and the i-th tag. -/
def Group.seen (g : Group) : List (Bytes × Int32) := (g.names.map Text.untilZero).zip g.kinds

theorem Group.length_names (g : Group) : g.names.length = g.size := by simp [names, size]

theorem Group.length_kinds (g : Group) : g.kinds.length = g.size := by simp [kinds, size]

/-- Where no name holds a zero byte, every name is read whole. -/
theorem Group.seen_eq {g : Group} (h : ∀ e ∈ g.entries, 0 ∉ e.name) :
    g.seen = g.entries.map fun e => (e.name, e.kind.tag) := by
  have hwhole : g.names.map Text.untilZero = g.entries.map Entry.name := by
    unfold names
    rw [List.map_map]
    apply List.map_congr_left
    intro e he
    exact Text.untilZero_append (h e he) []
  unfold seen kinds
  rw [hwhole, List.zip_map']

theorem Group.names_ended {g : Group} (h : ∀ e ∈ g.entries, 0 ∉ e.name) :
    ∀ memory ∈ g.names, memory = Text.untilZero memory ++ [0] := by
  intro memory hmem
  obtain ⟨e, he, rfl⟩ := List.mem_map.1 hmem
  rw [Text.untilZero_append (h e he) []]

/-! ## The session of a stretch -/

namespace Lifetime

/-- Whatever is called, the session has the rows that its build read. -/
theorem rows_of_ready {before later : List Occasion} {first : Occasion}
    (h : Stretch before (first :: later)) {s : Session}
    (hs : (after (before ++ first :: later)).slot = .ready s) :
    s.registry.rows = first.around.table.live := by
  rw [slot_after_stretch h] at hs
  cases hstart : (started first.around).value with
  | error e =>
    rw [hstart] at hs
    cases hs
  | ok built =>
    rw [hstart] at hs
    obtain ⟨config, _, hbuild⟩ := (started_eq_ok first.around built).1 hstart
    obtain ⟨ws, hws⟩ := built.answers_written ((first :: later).map Occasion.call)
    cases hs
    rw [hws, Session.written, Registry.writes_rows, Session.rows_of_build hbuild]

end Lifetime

/-! ## The law -/

/-- A group has the flags of these rows, and a caller reads it as these entries. -/
structure Enumerates (rows : List Row) (entries : List Entry) (g : Group) : Prop where
  size : g.size = rows.length
  arrays : g.names.length = g.size ∧ g.kinds.length = g.size
  /-- The i-th name and the i-th tag are those of the i-th entry. -/
  seen : g.seen = entries.map fun e => (e.name, e.kind.tag)
  /-- There is no byte behind the zero byte that a name ends with. -/
  ended : ∀ memory ∈ g.names, memory = Text.untilZero memory ++ [0]
  listed : ∀ e, e ∈ entries ↔ e ∈ rows.map Row.entry
  distinct : entries.Nodup
  in_order : entries.Pairwise Entry.InOrder

/-- Getters and setters know these flags, whatever the memory and the length of the name are. -/
structure CallsKnow (entries : List Entry) (l : Lifetime) (around : Surroundings) : Prop where
  get_hits : ∀ k (name : NameArgument) (out : Option k.Value),
    (∃ v, (l.step around (.get k name out)).value = (.value k true (out.map fun _ => v), l)) ↔
      ⟨name.bytes, k⟩ ∈ entries
  set_hits : ∀ k (name : NameArgument) (v : k.Value),
    (l.step around (.set k name v)).value.1 = .status true ↔ ⟨name.bytes, k⟩ ∈ entries
  /-- A getter that fails leaves the place of the caller as it was. -/
  get_misses : ∀ k (name : NameArgument) (out : Option k.Value), ⟨name.bytes, k⟩ ∉ entries →
    (l.step around (.get k name out)).value = (.value k false out, l)
  set_misses : ∀ k (name : NameArgument) (v : k.Value), ⟨name.bytes, k⟩ ∉ entries →
    (l.step around (.set k name v)).value = (.status false, l)

theorem enumerates_snapshot (r : Registry) :
    Enumerates r.rows r.snapshot.entries (.ofSnapshot r.snapshot) := by
  have hall := r.entries_ofSnapshot
  have hzero : ∀ e ∈ (Group.ofSnapshot r.snapshot).entries, 0 ∉ e.name := by
    intro e he
    rw [hall] at he
    exact Registry.zero_not_mem_snapshot he
  refine ⟨?_, ⟨Group.length_names _, Group.length_kinds _⟩, ?_, Group.names_ended hzero,
    r.mem_snapshot, r.snapshot_nodup, r.snapshot_in_order⟩
  · rw [Group.size, hall, r.length_snapshot]
  · rw [Group.seen_eq hzero, hall]

theorem callsKnow_snapshot {l : Lifetime} {s : Session} (h : l.slot = .ready s)
    (around : Surroundings) : CallsKnow s.registry.snapshot.entries l around := by
  have hlisted : ∀ (k : Kind) (name : NameArgument),
      ⟨name.bytes, k⟩ ∈ s.registry.snapshot.entries ↔ s.registry.has k name.bytes = true := by
    intro k name
    exact s.registry.mem_snapshot_iff_has ⟨name.bytes, k⟩
  refine ⟨?_, ?_, ?_, ?_⟩
  · intro k name out
    rw [hlisted, Lifetime.value_step_get h]
    show _ ↔ (s.registry.get k name.bytes).isSome = true
    cases s.registry.get k name.bytes with
    | none => simp
    | some v => exact ⟨fun _ => rfl, fun _ => ⟨v, rfl⟩⟩
  · intro k name v
    rw [hlisted, Lifetime.value_step_set h, Reply.status.injEq]
  · intro k name out hmiss
    rw [hlisted, ← Registry.get_eq_none_iff] at hmiss
    rw [Lifetime.value_step_get h, hmiss]
  · intro k name v hmiss
    rw [hlisted] at hmiss
    exact Lifetime.value_step_set_miss h around hmiss v

/-- In every session that calls can lead to, the enumeration, the getters and
the setters agree on the flags: those of the table that was there when the
session was built. -/
theorem enumeration_getters_and_setters_agree {os : List Occasion} {s : Session}
    (h : (Lifetime.after os).slot = .ready s) (around : Surroundings) :
    ∃ before first later g, os = before ++ first :: later ∧ Stretch before (first :: later) ∧
      ((Lifetime.after os).step around .flags).value = (.group g, Lifetime.after os) ∧
      Enumerates first.around.table.live s.registry.snapshot.entries g ∧
      CallsKnow s.registry.snapshot.entries (Lifetime.after os) around := by
  have hbuilt : (Lifetime.after os).slot ≠ .unbuilt := by
    rw [h]
    exact nofun
  obtain ⟨before, first, later, rfl, hstretch⟩ := Lifetime.exists_first hbuilt
  refine ⟨before, first, later, _, rfl, hstretch, Lifetime.value_step_flags h around, ?_,
    callsKnow_snapshot h around⟩
  rw [← Lifetime.rows_of_ready hstretch h]
  exact enumerates_snapshot s.registry

/-- A name of no place, a tag of no kind and a row behind the stated length
are passed over. The name of the int flag with a zero byte behind it is no
name, so the caller's 5 stays. -/
theorem an_enumeration_has_the_flags_of_the_table :
    let raws : List RawRow := [⟨some [98, 0], 1, 7⟩, ⟨none, 0, 1⟩, ⟨some [97, 0], 5, 1⟩,
      ⟨some [255, 0, 99], 0, 0⟩, ⟨some [98, 0], 0, 1⟩, ⟨some [100, 0], 0, 1⟩]
    let around : Surroundings := ⟨.empty, Directory.files [], ⟨some raws, 5⟩⟩
    let os : List Occasion := [⟨around, .set .int ⟨some [98], 1⟩ 9⟩]
    let entries : List Entry := [⟨[98], .bool⟩, ⟨[255], .bool⟩, ⟨[98], .int⟩]
    ∃ s, (Lifetime.after os).slot = .ready s ∧ s.registry.snapshot.entries = entries ∧
      (∃ g, ((Lifetime.after os).step around .flags).value = (.group g, Lifetime.after os) ∧
        g.seen = [([98], 0), ([255], 0), ([98], 1)]) ∧
      CallsKnow entries (Lifetime.after os) around ∧
      ((Lifetime.after os).step around (.get .int ⟨some [98, 0], 2⟩ (some 5))).value =
        (.value .int false (some 5), Lifetime.after os) := by
  intro raws around os entries
  have hready : ∃ s, (Lifetime.after os).slot = .ready s ∧ s.registry.snapshot.entries = entries :=
    ⟨_, rfl, rfl⟩
  obtain ⟨s, hs, hentries⟩ := hready
  obtain ⟨_, _, _, g, _, _, hflags, hseen, hknow⟩ :=
    enumeration_getters_and_setters_agree hs around
  rw [hentries] at hseen hknow
  refine ⟨s, hs, hentries, ⟨g, hflags, hseen.seen⟩, hknow, hknow.get_misses _ _ _ ?_⟩
  decide

end HostBoundary
