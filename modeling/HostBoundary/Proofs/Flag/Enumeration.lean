-- The laws of a snapshot: it has the flags of the table and no others, each
-- once, bool flags before int flags and each kind in byte order of name. No
-- name in it keeps a flag from going out to a caller.
import HostBoundary.Lifetime
import HostBoundary.Proofs.Flag.LastWriter

namespace HostBoundary

/-- The order of flags, for entries. -/
def Entry.InOrder (a b : Entry) : Prop := HostBoundary.InOrder (a.kind, a.name) (b.kind, b.name)

theorem Entry.InOrder.asymm {a b : Entry} (h : a.InOrder b) : ¬ b.InOrder a :=
  HostBoundary.InOrder.asymm h

theorem Entry.InOrder.ne {a b : Entry} (h : a.InOrder b) : a ≠ b := by
  rintro rfl
  exact h.asymm h

namespace Registry

theorem mem_snapshot_iff_has (r : Registry) (e : Entry) :
    e ∈ r.snapshot.entries ↔ r.has e.kind e.name = true := by
  obtain ⟨name, k⟩ := e
  have hkeys : r.has k name = true ↔ name ∈ (r.values.get k).keys :=
    SortedMap.contains_iff (r.values.get k) name
  rw [hkeys]
  cases k with
  | bool => simp [snapshot, Table.rows, Row.entry, SortedMap.keys, PerKind.get]
  | int => simp [snapshot, Table.rows, Row.entry, SortedMap.keys, PerKind.get]

/-- A snapshot has the flags of the rows. -/
theorem mem_snapshot (r : Registry) (e : Entry) :
    e ∈ r.snapshot.entries ↔ e ∈ r.rows.map Row.entry := by
  rw [mem_snapshot_iff_has, has_iff]

theorem snapshot_in_order (r : Registry) : r.snapshot.entries.Pairwise Entry.InOrder := by
  have hkeys := keys_in_order r.values.bools r.values.ints
  unfold Entry.InOrder
  rw [← List.pairwise_map (f := fun e : Entry => (e.kind, e.name)), snapshot, Table.rows]
  simp only [List.map_append, List.map_map]
  exact hkeys

theorem snapshot_nodup (r : Registry) : r.snapshot.entries.Nodup :=
  r.snapshot_in_order.imp Entry.InOrder.ne

theorem length_snapshot (r : Registry) : r.snapshot.entries.length = r.rows.length := by
  have hsize : r.snapshot.entries.length = r.size := by
    simp [snapshot, Table.rows, size, count, SortedMap.size, PerKind.get]
  rw [hsize, size_eq]

theorem zero_not_mem_snapshot {r : Registry} {e : Entry} (h : e ∈ r.snapshot.entries) :
    0 ∉ e.name := by
  obtain ⟨row, hrow, rfl⟩ := List.mem_map.1 ((r.mem_snapshot e).1 h)
  exact (r.well_named row hrow).2

/-- No flag is left out on the way to a caller: its name holds no zero byte. -/
theorem entries_ofSnapshot (r : Registry) :
    (Group.ofSnapshot r.snapshot).entries = r.snapshot.entries := by
  unfold Group.ofSnapshot
  apply List.filter_eq_self.2
  intro e he
  simpa using zero_not_mem_snapshot he

end Registry

end HostBoundary
