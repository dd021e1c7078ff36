-- The laws of merging. Two presets as one do to a registry what they do in
-- turn, and report what they report in turn. In which order presets are
-- merged on top of each other does not matter, and a preset without entries
-- adds none.
import Mathlib.Data.Finset.Card
import HostBoundary.Proofs.Preset.Applying

namespace HostBoundary.Preset

/-- The flags that a preset has a value for. -/
def flags (p : Preset) : Finset (Kind × String) :=
  (p.settings.map fun s => (s.kind, s.name)).toFinset

theorem mem_flags (p : Preset) (k : Kind) (name : String) :
    (k, name) ∈ p.flags ↔ (p.find? k name).isSome = true := by
  have hpicked := p.mem_picked (fun _ _ => true) k name
  rw [List.filter_true] at hpicked
  rw [flags, List.mem_toFinset, hpicked, and_iff_left rfl]

/-! ## Two presets as one -/

theorem isSome_find?_merge (p q : Preset) (k : Kind) (name : String) :
    ((p.merge q).find? k name).isSome = true ↔
      (p.find? k name).isSome = true ∨ (q.find? k name).isSome = true := by
  rw [find?_merge, Option.isSome_or, Bool.or_eq_true, or_comm]

/-- Where both presets have a flag, the upper one is written last. -/
theorem apply_merge (p q : Preset) (r : Registry) :
    ((p.merge q).apply r).value.2 = (q.apply (p.apply r).value.2).value.2 := by
  have hflag : ∀ k name, (Text.ofBytes? name).bind ((p.merge q).find? k) =
      ((Text.ofBytes? name).bind (q.find? k)).or ((Text.ofBytes? name).bind (p.find? k)) := by
    intro k name
    cases Text.ofBytes? name with
    | none => rfl
    | some text => exact p.find?_merge q k text
  apply Registry.eq_of_get
  · rw [apply_rows, apply_rows, apply_rows]
  · intro k name
    rw [apply_get, last?_rows, hflag, apply_get, last?_rows, apply_has, apply_get, last?_rows]
    split
    · rw [Option.or_assoc]
    · rfl

/-- As many entries are applied as the preset has flags that the registry has. -/
theorem applied_eq_card (p : Preset) (r : Registry) :
    (p.apply r).value.1.applied =
      (p.flags.filter fun flag => r.has flag.1 (Text.toBytes flag.2) = true).card := by
  have hnodup : (knownTo r p.settings).Nodup := (p.knownTo_in_order r).imp InOrder.ne
  rw [apply_applied, ← List.toFinset_card_of_nodup hnodup]
  congr 1
  ext ⟨k, name⟩
  rw [List.mem_toFinset, mem_knownTo, Finset.mem_filter, mem_flags]

theorem flags_merge (p q : Preset) : (p.merge q).flags = p.flags ∪ q.flags := by
  ext ⟨k, name⟩
  rw [Finset.mem_union, mem_flags, mem_flags, mem_flags, isSome_find?_merge]

/-- What holds of the name and kind of every setting of a merge holds in both presets. -/
theorem forall_settings_merge (p q : Preset) (P : Kind → String → Prop) :
    (∀ s ∈ (p.merge q).settings, P s.kind s.name) ↔
      (∀ s ∈ p.settings, P s.kind s.name) ∧ ∀ s ∈ q.settings, P s.kind s.name := by
  have hflags : ∀ e : Preset, (∀ s ∈ e.settings, P s.kind s.name) ↔
      ∀ flag ∈ e.flags, P flag.1 flag.2 := by
    intro e
    simp [flags]
  rw [hflags, hflags, hflags, flags_merge, Finset.forall_mem_union]

theorem merge_assoc (p q s : Preset) : (p.merge q).merge s = p.merge (q.merge s) := by
  apply eq_of_find?
  · rfl
  · intro k name
    rw [find?_merge, find?_merge, find?_merge, find?_merge, Option.or_assoc]

theorem find?_of_isEmpty {e : Preset} (h : e.isEmpty = true) (k : Kind) (name : String) :
    e.find? k name = none := by
  obtain ⟨hbools, hints⟩ := Bool.and_eq_true_iff.1 h
  have hb : e.entries.bools.entries = [] := List.isEmpty_iff.1 hbools
  have hi : e.entries.ints.entries = [] := List.isEmpty_iff.1 hints
  cases k with
  | bool => simp [find?, PerKind.get, SortedMap.find?, hb, Entries.find?]
  | int => simp [find?, PerKind.get, SortedMap.find?, hi, Entries.find?]

/-! ## The law -/

/-- What two presets as one come to, beside the two in turn. -/
structure AppliesInTurn (p q : Preset) (r : Registry) : Prop where
  registry : ((p.merge q).apply r).value.2 = (q.apply (p.apply r).value.2).value.2
  /-- What one of the two would report is reported, once and in order. -/
  unknown : ∀ flag, flag ∈ ((p.merge q).apply r).value.1.unknown ↔
    flag ∈ (p.apply r).value.1.unknown ∨
      flag ∈ (q.apply (p.apply r).value.2).value.1.unknown
  once : ((p.merge q).apply r).value.1.unknown.Nodup
  in_order : ((p.merge q).apply r).value.1.unknown.Pairwise InOrder
  /-- A flag of both presets counts once. -/
  applied : ((p.merge q).apply r).value.1.applied =
    ((p.flags ∪ q.flags).filter fun flag => r.has flag.1 (Text.toBytes flag.2) = true).card

theorem appliesInTurn (p q : Preset) (r : Registry) : AppliesInTurn p q r where
  registry := p.apply_merge q r
  unknown := by
    rintro ⟨k, name⟩
    rw [mem_apply_unknown, mem_apply_unknown, mem_apply_unknown, apply_has,
      isSome_find?_merge, or_and_right]
  once := (p.merge q).apply_unknown_nodup r
  in_order := (p.merge q).apply_unknown_in_order r
  applied := by
    rw [applied_eq_card, flags_merge]

/-- Merged presets do what the two do in turn, and merging is associative. A
preset without entries can be merged on either side. -/
theorem merged_presets_apply_as_in_turn (p q : Preset) :
    (∀ r, AppliesInTurn p q r) ∧ (∀ s, (p.merge q).merge s = p.merge (q.merge s)) ∧
      ∀ e : Preset, e.isEmpty = true → p.merge e = p ∧ (e.merge p).entries = p.entries := by
  refine ⟨p.appliesInTurn q, p.merge_assoc q, ?_⟩
  intro e he
  refine ⟨?_, ?_⟩
  · apply eq_of_find?
    · rfl
    · intro k name
      rw [find?_merge, find?_of_isEmpty he, Option.none_or]
  · apply PerKind.ext
    intro k
    apply SortedMap.eq_of_find?
    intro name
    show (e.merge p).find? k name = p.find? k name
    rw [find?_merge, find?_of_isEmpty he, Option.or_none]

/-- A flag of both presets has the value of the upper one, and counts once. -/
theorem a_shared_flag_counts_once :
    let p := empty.put ⟨.int, "speed", 1⟩
    let q := (empty.put ⟨.int, "speed", 2⟩).put ⟨.bool, "rain", true⟩
    ∃ r, Registry.ofRows [⟨.int, Text.toBytes "speed", 0⟩] = .ok r ∧ AppliesInTurn p q r ∧
      ((p.merge q).apply r).value.1 = ⟨1, [(.bool, "rain")]⟩ ∧
      ((p.merge q).apply r).value.2.get .int (Text.toBytes "speed") = some 2 ∧
      empty.isEmpty = true ∧ p.merge empty = p := by
  intro p q
  obtain ⟨hturn, -, hempty⟩ := merged_presets_apply_as_in_turn p q
  exact ⟨_, rfl, hturn _, rfl, rfl, rfl, (hempty empty rfl).1⟩

end HostBoundary.Preset
