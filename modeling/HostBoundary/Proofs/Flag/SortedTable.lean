-- The law of snapshots over whole runs. A snapshot is the table of the
-- registry, sorted, with no value in it. No write moves a name, so all
-- snapshots of a registry are the same one, and two registries with the same
-- flags have the same snapshots.
import HostBoundary.Proofs.Flag.Enumeration

namespace HostBoundary

/-! ## The order of names -/

/-- A proper beginning of a name comes before it. Of other names the first
byte that differs decides, as a number without a sign. -/
inductive NamePrecedes : Bytes → Bytes → Prop
  | beginning (name : Bytes) (x : UInt8) (rest : Bytes) : NamePrecedes name (name ++ x :: rest)
  | differing (common : Bytes) {x y : UInt8} (rest rest' : Bytes) : x.toNat < y.toNat →
      NamePrecedes (common ++ x :: rest) (common ++ y :: rest')

theorem NamePrecedes.cons {a b : Bytes} (x : UInt8) (h : NamePrecedes a b) :
    NamePrecedes (x :: a) (x :: b) := by
  cases h with
  | beginning _ y rest => exact .beginning (x :: a) y rest
  | differing common rest rest' hlt => exact .differing (x :: common) rest rest' hlt

/-- Maps keep their names in this order. -/
theorem before_iff_namePrecedes {a b : Bytes} : Before a b ↔ NamePrecedes a b := by
  constructor
  · intro h
    have hlex : List.Lex (· < ·) a b := List.lex_lt.2 h
    clear h
    induction hlex with
    | nil => exact .beginning [] _ _
    | rel hlt => exact .differing [] _ _ (UInt8.lt_iff_toNat_lt.1 hlt)
    | cons _ ih => exact ih.cons _
  · intro h
    cases h with
    | beginning _ x rest =>
      have hlt : a ++ [] < a ++ x :: rest := List.append_left_lt (List.nil_lt_cons x rest)
      rwa [List.append_nil] at hlt
    | differing common rest rest' hlt =>
      exact List.append_left_lt (List.lex_lt.1 (.rel (UInt8.lt_iff_toNat_lt.2 hlt)))

/-! ## Sorted lists of flags -/

/-- Bool flags stand before int flags, and the flags of a kind by name. -/
def Entry.Sorted (a b : Entry) : Prop :=
  a.kind = .bool ∧ b.kind = .int ∨ a.kind = b.kind ∧ NamePrecedes a.name b.name

theorem Entry.inOrder_iff_sorted {a b : Entry} : a.InOrder b ↔ a.Sorted b := by
  rw [InOrder, HostBoundary.InOrder, Sorted, before_iff_namePrecedes]

/-- There is one list of given flags that is in order. -/
theorem entries_eq_of_inOrder {l l' : List Entry} (h : l.Pairwise Entry.InOrder)
    (h' : l'.Pairwise Entry.InOrder) (hmem : ∀ e, e ∈ l ↔ e ∈ l') : l = l' := by
  have hperm : l.Perm l' :=
    (List.perm_ext_iff_of_nodup (h.imp Entry.InOrder.ne) (h'.imp Entry.InOrder.ne)).2 hmem
  refine hperm.eq_of_pairwise ?_ h h'
  intro a b _ _ hab hba
  exact absurd hba hab.asymm

namespace Registry

/-- Snapshots are equal where the flags of the rows are the same ones. -/
theorem snapshot_eq_iff (r r' : Registry) :
    r.snapshot = r'.snapshot ↔ ∀ e, e ∈ r.rows.map Row.entry ↔ e ∈ r'.rows.map Row.entry := by
  constructor
  · intro h e
    rw [← mem_snapshot, h, mem_snapshot]
  · intro h
    have hentries : r.snapshot.entries = r'.snapshot.entries := by
      apply entries_eq_of_inOrder r.snapshot_in_order r'.snapshot_in_order
      intro e
      rw [mem_snapshot, mem_snapshot, h]
    exact congrArg Snapshot.mk hentries

theorem size_snapshot (r : Registry) : r.snapshot.size = r.count .bool + r.count .int := by
  rw [Snapshot.size, length_snapshot, ← size_eq, size]

end Registry

/-! ## The law -/

/-- The rows have a row for this flag. -/
def HasRow (rows : List Row) (k : Kind) (name : Bytes) : Prop :=
  ∃ row ∈ rows, row.kind = k ∧ row.name = name

theorem hasRow_iff_mem {rows : List Row} {k : Kind} {name : Bytes} :
    HasRow rows k name ↔ ⟨name, k⟩ ∈ rows.map Row.entry := by
  rw [HasRow, List.mem_map]
  constructor
  · rintro ⟨row, hrow, rfl, rfl⟩
    exact ⟨row, hrow, rfl⟩
  · rintro ⟨row, hrow, he⟩
    cases he
    exact ⟨row, hrow, rfl, rfl⟩

/-- The snapshot of a registry has the flags of the rows, sorted, and nothing else. -/
structure ListsTable (rows : List Row) (r : Registry) : Prop where
  flags : ∀ k name, ⟨name, k⟩ ∈ r.snapshot.entries ↔ HasRow rows k name
  once : r.snapshot.entries.Nodup
  sorted : r.snapshot.entries.Pairwise Entry.Sorted
  /-- No other sorted list has these flags. -/
  unique : ∀ l : List Entry, l.Pairwise Entry.Sorted →
    (∀ k name, ⟨name, k⟩ ∈ l ↔ HasRow rows k name) → l = r.snapshot.entries
  size : r.snapshot.size = r.count .bool + r.count .int

theorem listsTable {rows : List Row} {r : Registry} (h : r.rows = rows) : ListsTable rows r := by
  subst h
  have hsorted : r.snapshot.entries.Pairwise Entry.Sorted :=
    r.snapshot_in_order.imp Entry.inOrder_iff_sorted.1
  have hflags : ∀ k name, ⟨name, k⟩ ∈ r.snapshot.entries ↔ HasRow r.rows k name := by
    intro k name
    rw [Registry.mem_snapshot, hasRow_iff_mem]
  refine ⟨hflags, r.snapshot_nodup, hsorted, ?_, r.size_snapshot⟩
  intro l hl hmem
  apply entries_eq_of_inOrder (hl.imp Entry.inOrder_iff_sorted.2) r.snapshot_in_order
  rintro ⟨name, k⟩
  rw [hmem, hflags]

/-- The snapshots of a registry over the rows, at all points of all runs. -/
structure SnapshotLaw (rows : List Row) (r : Registry) : Prop where
  lists_table : ∀ ws, ListsTable rows (r.writes ws)
  /-- Two snapshots are the same one, wherever in a run they are taken. -/
  still : ∀ ws ws', (r.writes ws).snapshot = (r.writes ws').snapshot
  /-- Snapshots tell tables apart by their flags, and by nothing else. -/
  same_flags : ∀ rows' r', Registry.ofRows rows' = .ok r' → ∀ ws ws',
    ((r.writes ws).snapshot = (r'.writes ws').snapshot ↔
      ∀ k name, HasRow rows k name ↔ HasRow rows' k name)

/-- A snapshot is the sorted table, in every state that writes lead to. -/
theorem a_snapshot_is_the_sorted_table {rows : List Row} {r : Registry}
    (h : Registry.ofRows rows = .ok r) : SnapshotLaw rows r := by
  have hrows : ∀ ws, (r.writes ws).rows = rows := by
    intro ws
    rw [Registry.writes_rows, Registry.rows_of_ofRows h]
  refine ⟨fun ws => listsTable (hrows ws), ?_, ?_⟩
  · intro ws ws'
    rw [Registry.snapshot_eq_iff, hrows, hrows]
    intro e
    rfl
  · intro rows' r' h' ws ws'
    rw [Registry.snapshot_eq_iff, hrows, Registry.writes_rows, Registry.rows_of_ofRows h']
    simp only [hasRow_iff_mem]
    exact ⟨fun hsame k name => hsame ⟨name, k⟩, fun hsame e => hsame e.kind e.name⟩

/-- Rows in another order, with other defaults, other writes and a miss. The
byte 200 is after 97, and the name of one byte before its continuation. -/
theorem snapshots_of_a_reordered_table :
    let rows : List Row := [⟨.int, [97], 7⟩, ⟨.bool, [200], true⟩, ⟨.bool, [97, 1], true⟩,
      ⟨.bool, [97], false⟩]
    let rows' : List Row := [⟨.bool, [97], true⟩, ⟨.int, [97], -1⟩, ⟨.bool, [97, 1], true⟩,
      ⟨.bool, [200], false⟩]
    let ws : List Write := [.set .int [97] 3, .set .int [200] 3, .reset]
    ∃ r r', Registry.ofRows rows = .ok r ∧ Registry.ofRows rows' = .ok r' ∧
      SnapshotLaw rows r ∧ (r.writes ws).snapshot = (r'.writes []).snapshot ∧
      (r.writes ws).snapshot.entries =
        [⟨[97], .bool⟩, ⟨[97, 1], .bool⟩, ⟨[200], .bool⟩, ⟨[97], .int⟩] := by
  intro rows rows' ws
  obtain ⟨r, hr⟩ : ∃ r, Registry.ofRows rows = .ok r := ⟨_, rfl⟩
  obtain ⟨r', hr'⟩ : ∃ r', Registry.ofRows rows' = .ok r' := ⟨_, rfl⟩
  have hlaw := a_snapshot_is_the_sorted_table hr
  refine ⟨r, r', hr, hr', hlaw, ?_, ?_⟩
  · rw [hlaw.same_flags rows' r' hr']
    intro k name
    simp only [hasRow_iff_mem]
    apply List.Perm.mem_iff
    decide
  · cases hr
    rfl

end HostBoundary
