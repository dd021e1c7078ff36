-- The law of tables. A table is refused for its first row that cannot join
-- the rows before it, and accepted where there is no such row. The rows of an
-- accepted table may stand in any order: no call can tell.
import HostBoundary.Flag.Snapshot
import HostBoundary.Proofs.Flag.LastWriter

namespace HostBoundary

/-! ## Rows that cannot join -/

/-- Why a row cannot join the rows before it, and the text that says so. What
is wrong with its name comes before what is wrong with its place. -/
inductive Row.Refused (earlier : List Row) (row : Row) : RowError → String → Prop
  | empty : row.name = [] →
      Refused earlier row (.emptyName row.kind)
        (row.kind.text ++ " flag registered with empty name")
  | zero : row.name ≠ [] → 0 ∈ row.name →
      Refused earlier row (.zeroInName row.kind row.name)
        (row.kind.text ++ " flag name " ++ Text.quoted (Text.lossy row.name)
          ++ " contains a NUL byte")
  | repeated {first : Row} : row.name ≠ [] → 0 ∉ row.name → first ∈ earlier →
      first.kind = row.kind → first.name = row.name →
      Refused earlier row (.duplicate row.kind row.name)
        (row.kind.text ++ " flag " ++ Text.quoted (Text.lossy row.name) ++ " registered twice")

/-- The reason is that of the first row that cannot join the rows before it. -/
def FirstRefused (rows : List Row) (e : RowError) (text : String) : Prop :=
  ∃ earlier row later, rows = earlier ++ row :: later ∧ row.Refused earlier e text ∧
    ∀ before other after, earlier = before ++ other :: after →
      ∀ e' text', ¬ other.Refused before e' text'

namespace Registry

variable {rows : List Row} {e : RowError} {text : String}

theorem add_eq_error {r : Registry} {row : Row} :
    r.add row = .error e ∧ e.message = text ↔ row.Refused r.rows e text := by
  constructor
  · rintro ⟨h, rfl⟩
    unfold add at h
    split at h
    · rename_i hempty
      cases h
      exact .empty hempty
    · rename_i hempty
      split at h
      · rename_i hzero
        cases h
        exact .zero hempty hzero
      · rename_i hzero
        split at h
        · rename_i hhas
          cases h
          obtain ⟨first, hfirst, hkind, hname⟩ := (r.has_iff_row _ _).1 hhas
          exact .repeated hempty hzero hfirst hkind hname
        · cases h
  · intro h
    unfold add
    cases h with
    | empty hempty =>
      rw [dif_pos hempty]
      exact ⟨rfl, rfl⟩
    | zero hempty hzero =>
      rw [dif_neg hempty, dif_pos hzero]
      exact ⟨rfl, rfl⟩
    | repeated hempty hzero hfirst hkind hname =>
      have hhas := (r.has_iff_row _ _).2 ⟨_, hfirst, hkind, hname⟩
      rw [dif_neg hempty, dif_neg hzero, dif_pos hhas]
      exact ⟨rfl, rfl⟩

/-- Rows are refused at a row where the rows before it have joined. -/
theorem foldlM_add_eq_error {r : Registry} :
    rows.foldlM add r = .error e ↔ ∃ earlier row later r', rows = earlier ++ row :: later ∧
      earlier.foldlM add r = .ok r' ∧ r'.add row = .error e := by
  constructor
  · intro h
    induction rows generalizing r with
    | nil => cases h
    | cons row rows ih =>
      rw [List.foldlM_cons] at h
      cases hadd : r.add row with
      | error e' =>
        rw [hadd] at h
        cases h
        exact ⟨[], row, rows, r, rfl, rfl, hadd⟩
      | ok r₁ =>
        rw [hadd] at h
        obtain ⟨earlier, bad, later, r', rfl, hearlier, hbad⟩ := ih h
        refine ⟨row :: earlier, bad, later, r', rfl, ?_, hbad⟩
        rw [List.foldlM_cons, hadd]
        exact hearlier
  · rintro ⟨earlier, row, later, r', rfl, hearlier, hrow⟩
    rw [List.foldlM_append, hearlier]
    show List.foldlM add r' (row :: later) = _
    rw [List.foldlM_cons, hrow]
    rfl

/-- No row of an accepted table was refused. -/
theorem not_refused {r : Registry} (h : ofRows rows = .ok r) {before after : List Row} {row : Row}
    (hrows : rows = before ++ row :: after) : ¬ row.Refused before e text := by
  obtain ⟨hnamed, hdistinct⟩ := (exists_ofRows_iff rows).1 ⟨r, h⟩
  have hrow : row.WellNamed := hnamed row (by simp [hrows])
  intro hrefused
  cases hrefused with
  | empty hempty => exact hrow.1 hempty
  | zero _ hzero => exact hrow.2 hzero
  | repeated _ _ hfirst hkind hname =>
    rw [hrows, List.map_append, List.nodup_append] at hdistinct
    refine hdistinct.2.2 _ (List.mem_map_of_mem hfirst) row.entry (by simp) ?_
    rw [Row.entry, Row.entry, hkind, hname]

/-- The error is that of the first row that cannot join. -/
theorem ofRows_eq_error : ofRows rows = .error e ∧ e.message = text ↔ FirstRefused rows e text := by
  constructor
  · rintro ⟨h, htext⟩
    obtain ⟨earlier, row, later, r, hrows, hearlier, hrow⟩ := foldlM_add_eq_error.1 h
    have hjoined : r.rows = earlier := rows_of_ofRows hearlier
    refine ⟨earlier, row, later, hrows, hjoined ▸ add_eq_error.1 ⟨hrow, htext⟩, ?_⟩
    intro before other after hsplit e' text'
    exact not_refused hearlier hsplit
  · rintro ⟨earlier, row, later, hrows, hrow, hfirst⟩
    cases hearlier : ofRows earlier with
    | error e' =>
      obtain ⟨before, other, after, r, hsplit, hbefore, hother⟩ := foldlM_add_eq_error.1 hearlier
      have hjoined : r.rows = before := rows_of_ofRows hbefore
      have hrefused := add_eq_error.1 ⟨hother, rfl⟩
      rw [hjoined] at hrefused
      exact absurd hrefused (hfirst before other after hsplit _ _)
    | ok r =>
      have hjoined : r.rows = earlier := rows_of_ofRows hearlier
      rw [← hjoined] at hrow
      obtain ⟨hadd, htext⟩ := add_eq_error.2 hrow
      exact ⟨foldlM_add_eq_error.2 ⟨earlier, row, later, r, hrows, hearlier, hadd⟩, htext⟩

/-! ## Rows in another order -/

section

variable {r r' : Registry}

theorem has_of_get (h : ∀ k name, r.get k name = r'.get k name) (k : Kind) (name : Bytes) :
    r.has k name = r'.has k name := congrArg Option.isSome (h k name)

/-- A write keeps look-ups alike where the rows are the same ones. -/
theorem write_congr (hrows : r.rows.Perm r'.rows) (h : ∀ k name, r.get k name = r'.get k name)
    (w : Write) (k : Kind) (name : Bytes) : (r.write w).get k name = (r'.write w).get k name := by
  cases w with
  | set k' name' v =>
    simp only [write, get_set, has_of_get h, h]
  | reset =>
    rw [write, write, get_reset, get_reset, Row.last?_perm hrows r.distinct]
  | apply p =>
    simp only [write, p.apply_get, has_of_get h, h]

theorem writes_congr (hrows : r.rows.Perm r'.rows) (h : ∀ k name, r.get k name = r'.get k name)
    (ws : List Write) (k : Kind) (name : Bytes) :
    (r.writes ws).get k name = (r'.writes ws).get k name := by
  induction ws generalizing r r' with
  | nil => exact h k name
  | cons w ws ih =>
    have hrows' : (r.write w).rows.Perm (r'.write w).rows := by
      rw [write_rows, write_rows]
      exact hrows
    rw [writes_cons, writes_cons]
    exact ih hrows' (write_congr hrows h w)

/-- No call can tell the registries apart. -/
structure SameAnswers (r r' : Registry) : Prop where
  get : ∀ k name, r.get k name = r'.get k name
  set : ∀ k name v, (r.set k name v).value.1 = (r'.set k name v).value.1
  log : ∀ k name v, (r.set k name v).log = (r'.set k name v).log
  snapshot : r.snapshot = r'.snapshot
  count : ∀ k, r.count k = r'.count k

theorem sameAnswers_of_get (h : ∀ k name, r.get k name = r'.get k name) : SameAnswers r r' := by
  have hvalues := values_eq_of_get h
  refine ⟨h, ?_, ?_, ?_, ?_⟩
  · intro k name v
    rw [set_hit, set_hit, has_of_get h]
  · intro k name v
    unfold set
    rw [has_of_get h]
    split <;> rfl
  · rw [snapshot, snapshot, hvalues]
  · intro k
    rw [count, count, hvalues]

end

end Registry

/-! ## The law -/

/-- Which tables are accepted, what is said of the others, and what their order means. -/
structure TableLaw (rows : List Row) : Prop where
  accepted : (∃ r, Registry.ofRows rows = .ok r) ↔
    (∀ row ∈ rows, row.name ≠ [] ∧ 0 ∉ row.name) ∧
      rows.Pairwise fun a b => ¬ (a.kind = b.kind ∧ a.name = b.name)
  /-- A table is refused for its first row that cannot join, with the text of that row. -/
  refused : ∀ e text, Registry.ofRows rows = .error e ∧ e.message = text ↔
    FirstRefused rows e text
  /-- In another order an accepted table is accepted too, and answers alike after any writes. -/
  reordered : ∀ rows', rows.Perm rows' → ∀ r, Registry.ofRows rows = .ok r →
    ∃ r', Registry.ofRows rows' = .ok r' ∧
      ∀ ws, Registry.SameAnswers (r.writes ws) (r'.writes ws)

theorem exists_ofRows_iff_pairwise {rows : List Row} : (∃ r, Registry.ofRows rows = .ok r) ↔
    (∀ row ∈ rows, row.name ≠ [] ∧ 0 ∉ row.name) ∧
      rows.Pairwise fun a b => ¬ (a.kind = b.kind ∧ a.name = b.name) := by
  rw [Registry.exists_ofRows_iff, List.Nodup, List.pairwise_map]
  refine and_congr Iff.rfl ⟨?_, ?_⟩
  · refine List.Pairwise.imp fun hne hsame => hne ?_
    rw [Row.entry, Row.entry, hsame.1, hsame.2]
  · refine List.Pairwise.imp fun hne heq => hne ?_
    exact ⟨congrArg Entry.kind heq, congrArg Entry.name heq⟩

theorem ofRows_perm {rows rows' : List Row} (hperm : rows.Perm rows') {r : Registry}
    (hr : Registry.ofRows rows = .ok r) : ∃ r', Registry.ofRows rows' = .ok r' ∧
      ∀ ws, Registry.SameAnswers (r.writes ws) (r'.writes ws) := by
  obtain ⟨hnamed, hdistinct⟩ := (Registry.exists_ofRows_iff rows).1 ⟨r, hr⟩
  obtain ⟨r', hr'⟩ := (Registry.exists_ofRows_iff rows').2
    ⟨fun row hrow => hnamed row (hperm.mem_iff.2 hrow), (hperm.map Row.entry).nodup_iff.1 hdistinct⟩
  have hrows : r.rows.Perm r'.rows := by
    rw [Registry.rows_of_ofRows hr, Registry.rows_of_ofRows hr']
    exact hperm
  have hget : ∀ k name, r.get k name = r'.get k name := by
    intro k name
    rw [Registry.get_of_ofRows hr, Registry.get_of_ofRows hr', Row.last?_perm hperm hdistinct]
  exact ⟨r', hr', fun ws => Registry.sameAnswers_of_get (Registry.writes_congr hrows hget ws)⟩

/-- A table is refused for its first row that cannot join, and the order of
the rows of an accepted one does not matter. -/
theorem a_table_is_refused_for_its_first_bad_row (rows : List Row) : TableLaw rows where
  accepted := exists_ofRows_iff_pairwise
  refused := fun _ _ => Registry.ofRows_eq_error
  reordered := fun _ hperm _ hr => ofRows_perm hperm hr

-- A repeated row is the one that is refused, though an empty name is to come.
example : Registry.ofRows
    [⟨.int, [97], 1⟩, ⟨.bool, [97], true⟩, ⟨.int, [97], 2⟩, ⟨.int, [], 0⟩] =
      .error (.duplicate .int [97]) := rfl

end HostBoundary
