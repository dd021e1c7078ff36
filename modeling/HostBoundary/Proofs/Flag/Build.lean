-- The laws of building a registry: which tables it accepts, and what it
-- holds then. The rows of an accepted table are well named and for distinct
-- flags, and every flag starts at the default of its row.
import HostBoundary.Flag.Registry

namespace HostBoundary.Registry

/-- A row that is well named and for a new flag joins. -/
theorem exists_add {r : Registry} {row : Row} (hnamed : row.WellNamed)
    (hnew : row.entry ∉ r.rows.map Row.entry) : ∃ r', r.add row = .ok r' := by
  unfold add
  rw [dif_neg hnamed.1, dif_neg hnamed.2, dif_neg fun h => hnew ((r.has_iff _ _).1 h)]
  exact ⟨_, rfl⟩

theorem add_eq_ok {r r' : Registry} {row : Row} (h : r.add row = .ok r') :
    r'.rows = r.rows ++ [row] ∧ r'.values = r.values.put row := by
  unfold add at h
  split at h
  · cases h
  · split at h
    · cases h
    · split at h
      · cases h
      · cases h
        exact ⟨rfl, rfl⟩

theorem foldlM_add_eq_ok {rows : List Row} {r r' : Registry} (h : rows.foldlM add r = .ok r') :
    r'.rows = r.rows ++ rows ∧ r'.values = rows.foldl Table.put r.values := by
  induction rows generalizing r with
  | nil =>
    cases h
    exact ⟨(List.append_nil _).symm, rfl⟩
  | cons row rows ih =>
    rw [List.foldlM_cons] at h
    cases hadd : r.add row with
    | error e =>
      rw [hadd] at h
      cases h
    | ok r₁ =>
      rw [hadd] at h
      obtain ⟨hrows, hvalues⟩ := ih h
      obtain ⟨hrows₁, hvalues₁⟩ := add_eq_ok hadd
      refine ⟨?_, ?_⟩
      · rw [hrows, hrows₁, List.append_assoc, List.singleton_append]
      · rw [hvalues, hvalues₁, List.foldl_cons]

theorem exists_foldlM_add {rows : List Row} {r : Registry} (hnamed : ∀ row ∈ rows, row.WellNamed)
    (hdistinct : ((r.rows ++ rows).map Row.entry).Nodup) : ∃ r', rows.foldlM add r = .ok r' := by
  induction rows generalizing r with
  | nil => exact ⟨r, rfl⟩
  | cons row rows ih =>
    have hnew : row.entry ∉ r.rows.map Row.entry := by
      intro hmem
      rw [List.map_append, List.nodup_append] at hdistinct
      exact hdistinct.2.2 _ hmem row.entry (by simp) rfl
    obtain ⟨r₁, hadd⟩ := exists_add (hnamed row (by simp)) hnew
    have hrows : r₁.rows ++ rows = r.rows ++ row :: rows := by
      rw [(add_eq_ok hadd).1, List.append_assoc, List.singleton_append]
    rw [List.foldlM_cons, hadd]
    exact ih (fun x hx => hnamed x (List.mem_cons_of_mem _ hx)) (hrows ▸ hdistinct)

/-- The tables that a registry is built from are those with names that are
not empty and hold no zero byte, and with distinct flags. -/
theorem exists_ofRows_iff (rows : List Row) :
    (∃ r, ofRows rows = .ok r) ↔
      (∀ row ∈ rows, row.WellNamed) ∧ (rows.map Row.entry).Nodup := by
  constructor
  · rintro ⟨r, h⟩
    have hrows : r.rows = rows := (foldlM_add_eq_ok h).1
    exact ⟨hrows ▸ r.well_named, hrows ▸ r.distinct⟩
  · rintro ⟨hnamed, hdistinct⟩
    exact exists_foldlM_add hnamed hdistinct

section

variable {rows : List Row} {r : Registry} (h : ofRows rows = .ok r)

include h

theorem rows_of_ofRows : r.rows = rows := (foldlM_add_eq_ok h).1

/-- After the build every flag is at the default of its row. -/
theorem get_of_ofRows (k : Kind) (name : Bytes) : r.get k name = Row.last? rows k name := by
  show r.values.find? k name = _
  rw [(foldlM_add_eq_ok h).2, Table.find?_foldl_put]
  cases Row.last? rows k name with
  | none => cases k <;> rfl
  | some v => rfl

end

end HostBoundary.Registry
