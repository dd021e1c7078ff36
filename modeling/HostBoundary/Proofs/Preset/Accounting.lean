-- The law of applying a preset: it writes the entries that the registry has,
-- and its report accounts for each of them. What is reported hangs on the
-- names alone, so a second time changes nothing and reports the same.
import HostBoundary.Proofs.Preset.Applying

namespace HostBoundary.Preset

/-! ## A second time -/

/-- A report depends on which flags there are. -/
theorem report_congr {r r' : Registry} (h : ∀ k name, r'.has k name = r.has k name) (p : Preset) :
    (p.apply r').value.1 = (p.apply r).value.1 := by
  rw [apply_report, apply_report]
  simp only [knownTo, unknownTo, h]

/-- What a preset writes, it writes over itself. -/
theorem apply_again (p : Preset) (r : Registry) :
    (p.apply (p.apply r).value.2).value.2 = (p.apply r).value.2 := by
  apply Registry.eq_of_get
  · exact p.apply_rows _
  · intro k name
    rw [apply_get, apply_has, apply_get]
    split
    · rw [← Option.or_assoc, Option.or_self]
    · rfl

/-! ## The law -/

/-- What becomes of a registry when a preset is applied to it, and what is reported. -/
structure Accounts (p : Preset) (r : Registry) (done : Report) (r' : Registry) : Prop where
  /-- A flag whose kind and name bytes are the ones of an entry has the value of the entry. -/
  written : ∀ k name v, p.find? k name = some v → r.has k (Text.toBytes name) = true →
    r'.get k (Text.toBytes name) = some v
  /-- A flag without an entry of its own kind is left, whatever the other kind has of its name. -/
  kept : ∀ k name, p.find? k name = none →
    r'.get k (Text.toBytes name) = r.get k (Text.toBytes name)
  /-- A flag whose name is no text is left, whatever name it is shown by. -/
  not_text : ∀ k name, (∀ text, Text.toBytes text ≠ name) → r'.get k name = r.get k name
  flags : ∀ k name, r'.has k name = r.has k name
  /-- The entries without a flag are reported, and no others. -/
  unknown : ∀ k name, (k, name) ∈ done.unknown ↔
    (p.find? k name).isSome = true ∧ ¬ r.has k (Text.toBytes name) = true
  once : done.unknown.Nodup
  in_order : done.unknown.Pairwise InOrder
  accounted : done.applied + done.unknown.length = p.entries.bools.size + p.entries.ints.size
  /-- A registry with the same flags has the same report, whatever their values are. -/
  values_apart : ∀ r₂ : Registry, (∀ k name, r₂.has k name = r.has k name) →
    (p.apply r₂).value.1 = done
  again : (p.apply r').value = (done, r')

/-- Applying a preset writes the entries that the registry has, and accounts
for every other one. -/
theorem a_preset_accounts_for_all_of_its_entries (p : Preset) (r : Registry) :
    Accounts p r (p.apply r).value.1 (p.apply r).value.2 where
  written := by
    intro k name v hv hhas
    rw [apply_get_text, if_pos hhas, hv, Option.some_or]
  kept := by
    intro k name hnone
    apply apply_get_of_none
    rw [Text.ofBytes?_toBytes, Option.bind_some, hnone]
  not_text := by
    intro k name hbytes
    apply apply_get_of_none
    cases htext : Text.ofBytes? name with
    | none => rfl
    | some text => exact absurd (Text.ofBytes?_eq_some.1 htext) (hbytes text)
  flags := p.apply_has r
  unknown := p.mem_apply_unknown r
  once := p.apply_unknown_nodup r
  in_order := p.apply_unknown_in_order r
  accounted := by
    rw [apply_report, length_knownTo_add]
    simp [settings, SortedMap.size]
  values_apart := fun _ hsame => report_congr hsame p
  again := Prod.ext (report_congr (p.apply_has r) p) (p.apply_again r)

-- A name that is no text is shown by the name of the entry, and is another flag.
example : (Registry.ofRows [⟨.bool, [0xFF], false⟩]).map (fun r =>
    ((empty.put ⟨.bool, Text.lossy [0xFF], true⟩).apply r).value.1) =
      .ok ⟨0, [(.bool, Text.lossy [0xFF])]⟩ := rfl

end HostBoundary.Preset
