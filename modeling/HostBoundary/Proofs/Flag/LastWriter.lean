-- The law of a registry over whole runs: it is a last-writer map over the
-- rows of its table. Writes come one by one, from a reset, which puts the
-- rows into the values again, and from presets. None of them makes a flag
-- or loses one, and each flag has the value that was written to it last.
import HostBoundary.Proofs.Flag.Build
import HostBoundary.Proofs.Preset.Applying

namespace HostBoundary

/-- What can change the values of a registry. -/
inductive Write where
  | set (k : Kind) (name : Bytes) (v : k.Value)
  | reset
  | apply (p : Preset)

namespace Write

/-- The value that a write gives to the flag of a row, if it writes that flag:
a reset the default, a preset the value of its entry of the kind and name. -/
def writtenTo? (row : Row) : Write → Option row.kind.Value
  | .set k name v => (⟨k, name, v⟩ : Row).valueFor? row.kind row.name
  | .reset => some row.value
  | .apply p => (Text.ofBytes? row.name).bind (p.find? row.kind)

/-- The value of the last write to the flag of a row, or else its default. -/
def lastWritten (row : Row) (ws : List Write) : row.kind.Value :=
  (ws.reverse.findSome? (writtenTo? row)).getD row.value

end Write

namespace Registry

def write (r : Registry) : Write → Registry
  | .set k name v => (r.set k name v).value.2
  | .reset => r.reset
  | .apply p => (p.apply r).value.2

def writes (r : Registry) (ws : List Write) : Registry := ws.foldl write r

/-! ## What every registry has -/

/-- A registry has as many flags of a kind as it has rows. -/
theorem count_eq (r : Registry) (k : Kind) :
    r.count k = (r.rows.filter fun row => row.kind = k).length := by
  let ofKind := r.rows.filter fun row => row.kind = k
  have hkeys : (r.values.get k).keys.Nodup := (r.values.get k).keys_ascending.imp Before.ne
  have hnames : (ofKind.map Row.name).Nodup := by
    have hdistinct : ofKind.Pairwise fun a b => a.entry ≠ b.entry :=
      (List.pairwise_map.1 r.distinct).sublist List.filter_sublist
    apply List.pairwise_map.2
    apply hdistinct.imp_of_mem
    intro a b ha hb hne hname
    have hka : a.kind = k := by simpa using (List.mem_filter.1 ha).2
    have hkb : b.kind = k := by simpa using (List.mem_filter.1 hb).2
    exact hne (by rw [Row.entry, Row.entry, hname, hka, hkb])
  have hsame : ∀ name, name ∈ (r.values.get k).keys ↔ name ∈ ofKind.map Row.name := by
    intro name
    rw [← SortedMap.contains_iff, List.mem_map]
    refine (r.has_iff_row k name).trans ?_
    simp only [ofKind, List.mem_filter, decide_eq_true_eq, and_assoc]
  have hperm := (List.perm_ext_iff_of_nodup hkeys hnames).2 hsame
  rw [count, ← SortedMap.length_keys, hperm.length_eq, List.length_map]

theorem size_eq (r : Registry) : r.size = r.rows.length := by
  have hkinds : ∀ row ∈ r.rows, decide (row.kind = .int) = true ↔
      (decide ¬ decide (row.kind = .bool) = true) = true := by
    intro row _
    cases row.kind <;> decide
  rw [size, count_eq, count_eq, ← List.countP_eq_length_filter, ← List.countP_eq_length_filter,
    List.countP_congr hkinds, ← List.length_eq_countP_add_countP]

/-! ## Runs of writes -/

theorem write_rows (r : Registry) (w : Write) : (r.write w).rows = r.rows := by
  cases w with
  | set k name v => exact r.rows_set k name v
  | reset => rfl
  | apply p => exact p.apply_rows r

/-- A write gives the flag of a row what it writes to it, and else leaves it. -/
theorem write_get {r : Registry} {row : Row} (h : row ∈ r.rows) (w : Write) :
    (r.write w).get row.kind row.name = (w.writtenTo? row).or (r.get row.kind row.name) := by
  cases w with
  | set k name v =>
    rw [write, get_set, if_pos (has_of_mem h)]
    rfl
  | reset =>
    rw [write, get_reset, Row.last?_of_mem r.distinct h]
    rfl
  | apply p =>
    rw [write, p.apply_get, if_pos (has_of_mem h), p.last?_rows]
    rfl

theorem writes_cons (r : Registry) (w : Write) (ws : List Write) :
    r.writes (w :: ws) = (r.write w).writes ws := rfl

theorem writes_rows (r : Registry) (ws : List Write) : (r.writes ws).rows = r.rows := by
  induction ws generalizing r with
  | nil => rfl
  | cons w ws ih => rw [writes_cons, ih, write_rows]

theorem writes_get {r : Registry} {row : Row} (h : row ∈ r.rows) (ws : List Write) :
    (r.writes ws).get row.kind row.name =
      (ws.reverse.findSome? (Write.writtenTo? row)).or (r.get row.kind row.name) := by
  induction ws generalizing r with
  | nil => rfl
  | cons w ws ih =>
    have hmem : row ∈ (r.write w).rows := by rwa [write_rows]
    rw [writes_cons, ih hmem, write_get h, List.reverse_cons, List.findSome?_append,
      Option.or_assoc]
    simp

end Registry

/-! ## The law -/

/-- A registry that the rows and the writes give, as what its calls answer. -/
structure LastWriter (rows : List Row) (ws : List Write) (r : Registry) : Prop where
  missing : ∀ k name, r.get k name = none ↔ ¬ ∃ row ∈ rows, row.kind = k ∧ row.name = name
  found : ∀ row ∈ rows, r.get row.kind row.name = some (Write.lastWritten row ws)
  set_hits : ∀ k name v,
    (r.set k name v).value.1 = true ↔ ∃ row ∈ rows, row.kind = k ∧ row.name = name
  /-- A miss changes nothing, and nothing is logged. -/
  set_misses : ∀ k name v, (¬ ∃ row ∈ rows, row.kind = k ∧ row.name = name) →
    r.set k name v = ⟨(false, r), []⟩
  /-- A write to a flag leaves every other one, of another name or of another kind. -/
  set_apart : ∀ k name v k' name', ¬ (k = k' ∧ name = name') →
    (r.set k name v).value.2.get k' name' = r.get k' name'
  count : ∀ k, r.count k = (rows.filter fun row => row.kind = k).length
  size : r.size = rows.length

/-- A registry is a last-writer map over its table, after every run of writes. -/
theorem every_flag_has_the_value_written_last {rows : List Row} {r : Registry}
    (h : Registry.ofRows rows = .ok r) (ws : List Write) : LastWriter rows ws (r.writes ws) := by
  have hrows : (r.writes ws).rows = rows := by rw [r.writes_rows, Registry.rows_of_ofRows h]
  have hhas : ∀ k name, (r.writes ws).has k name = true ↔
      ∃ row ∈ rows, row.kind = k ∧ row.name = name := by
    intro k name
    rw [Registry.has_iff_row, hrows]
  refine ⟨?_, ?_, ?_, ?_, ?_, ?_, ?_⟩
  · intro k name
    rw [← hhas, Registry.get_eq_none_iff]
  · intro row hrow
    have hmem : row ∈ r.rows := by rwa [Registry.rows_of_ofRows h]
    rw [Registry.writes_get hmem, Registry.get_of_ofRows h,
      ← Registry.rows_of_ofRows h, Row.last?_of_mem r.distinct hmem, Write.lastWritten]
    cases ws.reverse.findSome? (Write.writtenTo? row) <;> rfl
  · intro k name v
    rw [Registry.set_hit, hhas]
  · intro k name v hmiss
    exact Registry.set_of_miss (fun hhit => hmiss ((hhas k name).1 hhit)) v
  · intro k name v k' name' hne
    have hentry : (⟨k, name, v⟩ : Row).entry ≠ ⟨name', k'⟩ := by
      intro he
      cases he
      exact hne ⟨rfl, rfl⟩
    rw [Registry.get_set, Row.valueFor?_of_ne hentry, Option.none_or]
    split
    · rfl
    · rename_i hmiss
      exact ((Registry.get_eq_none_iff _ k' name').2 hmiss).symm
  · intro k
    rw [Registry.count_eq, hrows]
  · rw [Registry.size_eq, hrows]

/-- A bool and an int flag of one name, written in turn around a reset. -/
theorem flags_that_share_a_name_are_two_flags :
    ∃ r, Registry.ofRows [⟨.bool, [97], false⟩, ⟨.int, [97], 7⟩] = .ok r ∧
      LastWriter [⟨.bool, [97], false⟩, ⟨.int, [97], 7⟩]
        [.set .int [97] 3, .reset, .set .bool [97] true]
        (r.writes [.set .int [97] 3, .reset, .set .bool [97] true]) ∧
      (r.writes [.set .int [97] 3, .reset, .set .bool [97] true]).get .bool [97] = some true ∧
      (r.writes [.set .int [97] 3, .reset, .set .bool [97] true]).get .int [97] = some 7 := by
  have haccepted : ∃ r, Registry.ofRows [⟨.bool, [97], false⟩, ⟨.int, [97], 7⟩] = .ok r := by
    rw [Registry.exists_ofRows_iff]
    refine ⟨?_, by decide⟩
    intro row hrow
    simp only [List.mem_cons, List.not_mem_nil, or_false] at hrow
    rcases hrow with rfl | rfl <;> exact ⟨by decide, by decide⟩
  obtain ⟨r, hr⟩ := haccepted
  have hlaw := every_flag_has_the_value_written_last hr
    [.set .int [97] 3, .reset, .set .bool [97] true]
  exact ⟨r, hr, hlaw, hlaw.found ⟨.bool, [97], false⟩ (by simp),
    hlaw.found ⟨.int, [97], 7⟩ (by simp)⟩

end HostBoundary
