-- The laws of applying a preset: which flags it writes and which names it
-- reports. Entries are written one after the other, and a write adds no
-- flag, so what the registry has stays the same all along.
import HostBoundary.Preset.Basic

namespace HostBoundary

/-! ## The order of flags -/

section

variable {ν α β : Type} [Keyed ν]

/-- Bool flags stand before int flags, and each kind is in byte order of
name, whether the names are bytes or texts. -/
def InOrder (a b : Kind × ν) : Prop := a.1 = .bool ∧ b.1 = .int ∨ a.1 = b.1 ∧ Before a.2 b.2

/-- No flags stand in both orders. -/
theorem InOrder.asymm {a b : Kind × ν} (h : InOrder a b) : ¬ InOrder b a := by
  rintro (⟨hb, ha⟩ | ⟨hkind, hba⟩)
  · rcases h with ⟨ha', _⟩ | ⟨hkind, _⟩
    · rw [ha] at ha'
      cases ha'
    · rw [ha, hb] at hkind
      cases hkind
  · rcases h with ⟨ha, hb⟩ | ⟨_, hab⟩
    · rw [ha, hb] at hkind
      cases hkind
    · exact Before.irrefl _ (hab.trans hba)

theorem InOrder.ne {a b : Kind × ν} (h : InOrder a b) : a ≠ b := by
  rintro rfl
  exact h.asymm h

/-- The keys of two maps are in order, those of the first as bool flags. -/
theorem keys_in_order (bools : SortedMap ν α) (ints : SortedMap ν β) :
    (bools.entries.map (fun e => (Kind.bool, e.1)) ++
      ints.entries.map fun e => (Kind.int, e.1)).Pairwise InOrder := by
  rw [List.pairwise_append, List.pairwise_map, List.pairwise_map]
  refine ⟨?_, ?_, ?_⟩
  · exact bools.ascending.imp fun h => Or.inr ⟨rfl, h⟩
  · exact ints.ascending.imp fun h => Or.inr ⟨rfl, h⟩
  · intro a ha b hb
    obtain ⟨_, _, rfl⟩ := List.mem_map.1 ha
    obtain ⟨_, _, rfl⟩ := List.mem_map.1 hb
    exact Or.inl ⟨rfl, rfl⟩

end

namespace Preset

/-! ## One entry, and entries in a row -/

theorem applyOne_registry (d : Report × Registry) (s : Setting) :
    (applyOne d s).value.2 = (d.2.set s.kind (Text.toBytes s.name) s.value).value.2 := by
  unfold applyOne
  rw [Logged.value_bind]
  rcases (d.2.set s.kind (Text.toBytes s.name) s.value).value with ⟨hit, r⟩
  cases hit <;> rfl

theorem applyOne_report (d : Report × Registry) (s : Setting) :
    (applyOne d s).value.1 =
      if d.2.has s.kind (Text.toBytes s.name) then { d.1 with applied := d.1.applied + 1 }
      else { d.1 with unknown := d.1.unknown ++ [(s.kind, s.name)] } := by
  rw [← Registry.set_hit d.2 s.kind (Text.toBytes s.name) s.value]
  unfold applyOne
  rw [Logged.value_bind]
  rcases (d.2.set s.kind (Text.toBytes s.name) s.value).value with ⟨hit, r⟩
  cases hit <;> rfl

/-- The entries written in a row, without the log. -/
def writeAll (ss : List Setting) (d : Report × Registry) : Report × Registry :=
  ss.foldl (fun d s => (applyOne d s).value) d

theorem value_apply (p : Preset) (r : Registry) :
    (p.apply r).value = writeAll p.settings (⟨0, []⟩, r) := Logged.value_foldlM _ _ _

theorem applyOne_rows (d : Report × Registry) (s : Setting) :
    (applyOne d s).value.2.rows = d.2.rows := by
  rw [applyOne_registry, Registry.rows_set]

theorem writeAll_rows (ss : List Setting) (d : Report × Registry) :
    (writeAll ss d).2.rows = d.2.rows := by
  induction ss generalizing d with
  | nil => rfl
  | cons s ss ih =>
    rw [writeAll, List.foldl_cons, ← writeAll, ih, applyOne_rows]

theorem applyOne_get (d : Report × Registry) (s : Setting) (k : Kind) (name : Bytes) :
    (applyOne d s).value.2.get k name =
      if d.2.has k name then (s.row.valueFor? k name).or (d.2.get k name) else none := by
  rw [applyOne_registry, Registry.get_set]
  rfl

/-- A flag that the registry has gets the last value of its kind and name, and
no other flag comes to be. -/
theorem writeAll_get (ss : List Setting) (d : Report × Registry) (k : Kind) (name : Bytes) :
    (writeAll ss d).2.get k name =
      if d.2.has k name then (Row.last? (ss.map Setting.row) k name).or (d.2.get k name)
      else none := by
  induction ss generalizing d with
  | nil =>
    split
    · rfl
    · rename_i h
      exact (d.2.get_eq_none_iff k name).2 h
  | cons s ss ih =>
    rw [writeAll, List.foldl_cons, ← writeAll, ih, Registry.has_congr (applyOne_rows d s),
      applyOne_get, List.map_cons, Row.last?_cons]
    split
    · rw [Option.or_assoc]
    · rfl

/-- The names of the entries that a registry has. -/
def knownTo (r : Registry) (ss : List Setting) : List (Kind × String) :=
  (ss.filter fun s => r.has s.kind (Text.toBytes s.name)).map fun s => (s.kind, s.name)

/-- The names of the entries that a registry does not have. -/
def unknownTo (r : Registry) (ss : List Setting) : List (Kind × String) :=
  (ss.filter fun s => !r.has s.kind (Text.toBytes s.name)).map fun s => (s.kind, s.name)

theorem unknownTo_eq_nil (r : Registry) (ss : List Setting) :
    unknownTo r ss = [] ↔ ∀ s ∈ ss, s.row.entry ∈ r.rows.map Row.entry := by
  unfold unknownTo
  rw [List.map_eq_nil_iff, List.filter_eq_nil_iff]
  constructor
  · intro h s hs
    have hhas : r.has s.kind (Text.toBytes s.name) = true := by simpa using h s hs
    exact (r.has_iff _ _).1 hhas
  · intro h s hs
    have hhas : r.has s.kind (Text.toBytes s.name) = true := (r.has_iff _ _).2 (h s hs)
    simp [hhas]

theorem writeAll_unknown (ss : List Setting) (d : Report × Registry) :
    (writeAll ss d).1.unknown = d.1.unknown ++ unknownTo d.2 ss := by
  induction ss generalizing d with
  | nil => exact (List.append_nil _).symm
  | cons s ss ih =>
    have hrest : unknownTo (applyOne d s).value.2 ss = unknownTo d.2 ss := by
      simp only [unknownTo, Registry.has_congr (applyOne_rows d s)]
    rw [writeAll, List.foldl_cons, ← writeAll, ih, hrest, applyOne_report]
    by_cases h : d.2.has s.kind (Text.toBytes s.name) = true
    · simp [unknownTo, h]
    · simp [unknownTo, h]

theorem writeAll_applied (ss : List Setting) (d : Report × Registry) :
    (writeAll ss d).1.applied = d.1.applied + (knownTo d.2 ss).length := by
  induction ss generalizing d with
  | nil => rfl
  | cons s ss ih =>
    have hrest : knownTo (applyOne d s).value.2 ss = knownTo d.2 ss := by
      simp only [knownTo, Registry.has_congr (applyOne_rows d s)]
    rw [writeAll, List.foldl_cons, ← writeAll, ih, hrest, applyOne_report]
    by_cases h : d.2.has s.kind (Text.toBytes s.name) = true
    · simp [knownTo, h]
      omega
    · simp [knownTo, h]

/-- Each entry is counted once, as known or as unknown. -/
theorem length_knownTo_add (r : Registry) (ss : List Setting) :
    (knownTo r ss).length + (unknownTo r ss).length = ss.length := by
  let known := fun s : Setting => r.has s.kind (Text.toBytes s.name)
  have hsplit : ss.length = ss.countP known + ss.countP fun s => ¬ known s = true :=
    List.length_eq_countP_add_countP known
  unfold knownTo unknownTo
  rw [List.length_map, List.length_map, hsplit, List.countP_eq_length_filter,
    List.countP_eq_length_filter]
  simp only [known, Bool.not_eq_true, Bool.decide_eq_false]

/-! ## A whole preset -/

theorem apply_rows (p : Preset) (r : Registry) : (p.apply r).value.2.rows = r.rows := by
  rw [value_apply, writeAll_rows]

theorem apply_has (p : Preset) (r : Registry) (k : Kind) (name : Bytes) :
    (p.apply r).value.2.has k name = r.has k name := Registry.has_congr (p.apply_rows r) k name

theorem apply_get (p : Preset) (r : Registry) (k : Kind) (name : Bytes) :
    (p.apply r).value.2.get k name =
      if r.has k name then (Row.last? p.rows k name).or (r.get k name) else none := by
  rw [value_apply, writeAll_get]
  rfl

theorem apply_unknown (p : Preset) (r : Registry) :
    (p.apply r).value.1.unknown = unknownTo r p.settings := by
  rw [value_apply, writeAll_unknown]
  exact List.nil_append _

theorem apply_applied (p : Preset) (r : Registry) :
    (p.apply r).value.1.applied = (knownTo r p.settings).length := by
  rw [value_apply, writeAll_applied]
  exact Nat.zero_add _

/-- A report tells of the names that a registry has, and not of the values there. -/
theorem apply_report (p : Preset) (r : Registry) :
    (p.apply r).value.1 = ⟨(knownTo r p.settings).length, unknownTo r p.settings⟩ := by
  rw [← apply_applied, ← apply_unknown]

/-! ## The entries of a preset -/

theorem mem_settings (p : Preset) (k : Kind) (name : String) (v : k.Value) :
    ⟨k, name, v⟩ ∈ p.settings ↔ p.find? k name = some v := by
  unfold settings find?
  rw [SortedMap.find?_eq_some, List.mem_append, List.mem_map, List.mem_map]
  cases k with
  | bool => simp [PerKind.get]
  | int => simp [PerKind.get]

/-- Of the entries that are picked by kind and name, the ones that the preset has. -/
theorem mem_picked (p : Preset) (pick : Kind → String → Bool) (k : Kind) (name : String) :
    (k, name) ∈ (p.settings.filter fun s => pick s.kind s.name).map (fun s => (s.kind, s.name)) ↔
      (p.find? k name).isSome = true ∧ pick k name = true := by
  rw [List.mem_map]
  constructor
  · rintro ⟨⟨k', name', v⟩, hmem, hkey⟩
    cases hkey
    obtain ⟨hs, hpick⟩ := List.mem_filter.1 hmem
    rw [(p.mem_settings _ _ v).1 hs]
    exact ⟨rfl, hpick⟩
  · rintro ⟨hsome, hpick⟩
    obtain ⟨v, hv⟩ := Option.isSome_iff_exists.1 hsome
    exact ⟨⟨k, name, v⟩, List.mem_filter.2 ⟨(p.mem_settings k name v).2 hv, hpick⟩, rfl⟩

theorem mem_knownTo (p : Preset) (r : Registry) (k : Kind) (name : String) :
    (k, name) ∈ knownTo r p.settings ↔
      (p.find? k name).isSome = true ∧ r.has k (Text.toBytes name) = true :=
  p.mem_picked (fun k name => r.has k (Text.toBytes name)) k name

theorem mem_unknownTo (p : Preset) (r : Registry) (k : Kind) (name : String) :
    (k, name) ∈ unknownTo r p.settings ↔
      (p.find? k name).isSome = true ∧ ¬ r.has k (Text.toBytes name) = true := by
  rw [Bool.not_eq_true, ← Bool.not_eq_true']
  exact p.mem_picked (fun k name => !r.has k (Text.toBytes name)) k name

theorem settings_in_order (p : Preset) :
    p.settings.Pairwise fun s s' => InOrder (s.kind, s.name) (s'.kind, s'.name) := by
  have hkeys := keys_in_order p.entries.bools p.entries.ints
  rw [← List.pairwise_map (f := fun s : Setting => (s.kind, s.name)), settings, List.map_append,
    List.map_map, List.map_map]
  exact hkeys

theorem knownTo_in_order (r : Registry) (p : Preset) :
    (knownTo r p.settings).Pairwise InOrder := by
  unfold knownTo
  exact List.pairwise_map.2 (p.settings_in_order.sublist List.filter_sublist)

/-- The names that a registry does not have are reported in order. -/
theorem unknownTo_in_order (r : Registry) (p : Preset) :
    (unknownTo r p.settings).Pairwise InOrder := by
  unfold unknownTo
  exact List.pairwise_map.2 (p.settings_in_order.sublist List.filter_sublist)

theorem mem_apply_unknown (p : Preset) (r : Registry) (k : Kind) (name : String) :
    (k, name) ∈ (p.apply r).value.1.unknown ↔
      (p.find? k name).isSome = true ∧ ¬ r.has k (Text.toBytes name) = true := by
  rw [apply_unknown, mem_unknownTo]

theorem apply_unknown_in_order (p : Preset) (r : Registry) :
    (p.apply r).value.1.unknown.Pairwise InOrder := by
  rw [apply_unknown]
  exact unknownTo_in_order r p

theorem apply_unknown_nodup (p : Preset) (r : Registry) :
    (p.apply r).value.1.unknown.Nodup := (p.apply_unknown_in_order r).imp InOrder.ne

/-- The entries of a preset are for distinct flags. -/
theorem rows_distinct (p : Preset) : (p.rows.map Row.entry).Nodup := by
  have hkind : ∀ (k : Kind) (m : SortedMap String k.Value),
      ((m.entries.map fun e => (⟨k, e.1, e.2⟩ : Setting)).map fun s => s.row.entry).Nodup := by
    intro k m
    rw [List.map_map]
    apply List.pairwise_map.2
    apply m.ascending.imp
    intro e e' hlt he
    exact hlt.ne (Text.toBytes_inj (congrArg Entry.name he))
  rw [rows, List.map_map, settings, List.map_append, List.nodup_append]
  refine ⟨hkind .bool _, hkind .int _, ?_⟩
  intro x hx y hy hxy
  simp only [List.map_map, List.mem_map, Function.comp] at hx hy
  obtain ⟨e, _, rfl⟩ := hx
  obtain ⟨e', _, rfl⟩ := hy
  cases congrArg Entry.kind hxy

/-- A preset has a value for the bytes of a text where it has one for the text. -/
theorem last?_rows (p : Preset) (k : Kind) (name : Bytes) :
    Row.last? p.rows k name = (Text.ofBytes? name).bind (p.find? k) := by
  apply Option.ext
  intro v
  rw [Row.last?_eq_some p.rows_distinct, Option.bind_eq_some_iff, rows, List.mem_map]
  constructor
  · rintro ⟨⟨k', text, v'⟩, hmem, hrow⟩
    cases hrow
    exact ⟨text, Text.ofBytes?_toBytes text, (mem_settings p _ _ _).1 hmem⟩
  · rintro ⟨text, htext, hv⟩
    refine ⟨⟨k, text, v⟩, (mem_settings p _ _ _).2 hv, ?_⟩
    rw [Setting.row, Text.ofBytes?_eq_some.1 htext]

/-- A flag whose name is the text of an entry has the value of the entry, if there is such a
flag. -/
theorem apply_get_text (p : Preset) (r : Registry) (k : Kind) (name : String) :
    (p.apply r).value.2.get k (Text.toBytes name) =
      if r.has k (Text.toBytes name) then (p.find? k name).or (r.get k (Text.toBytes name))
      else none := by
  rw [apply_get, last?_rows, Text.ofBytes?_toBytes, Option.bind_some]

/-- A flag that no entry is for stays as it is. -/
theorem apply_get_of_none {p : Preset} {k : Kind} {name : Bytes}
    (h : (Text.ofBytes? name).bind (p.find? k) = none) (r : Registry) :
    (p.apply r).value.2.get k name = r.get k name := by
  rw [apply_get, last?_rows, h, Option.none_or]
  split
  · rfl
  · rename_i hmiss
    exact ((r.get_eq_none_iff k name).2 hmiss).symm

end Preset

end HostBoundary
