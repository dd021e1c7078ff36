-- A preset is a set of flag values to put over a registry's defaults. It
-- names flags by text and kind. Applying it writes the flags that the
-- registry has and reports the others.
import HostBoundary.Flag.Registry

namespace HostBoundary

/-- One entry of a preset. -/
structure Setting where
  kind : Kind
  name : String
  value : kind.Value

/-- The row that the setting writes, where a registry has the flag. -/
def Setting.row (s : Setting) : Row := ⟨s.kind, Text.toBytes s.name, s.value⟩

structure Preset where
  /-- The version that a document states. Only documents do. -/
  version : Option String
  entries : PerKind fun k => SortedMap String k.Value

namespace Preset

def empty : Preset := ⟨none, SortedMap.empty, SortedMap.empty⟩

instance : Inhabited Preset := ⟨empty⟩

@[ext] theorem ext {p q : Preset} (hv : p.version = q.version)
    (he : ∀ k, p.entries.get k = q.entries.get k) : p = q := by
  cases p
  cases q
  cases hv
  cases PerKind.ext he
  rfl

def find? (p : Preset) (k : Kind) (name : String) : Option k.Value := (p.entries.get k).find? name

/-- A preset without entries is empty, whatever version it states. -/
def isEmpty (p : Preset) : Bool := p.entries.bools.isEmpty && p.entries.ints.isEmpty

/-- The preset with one more entry. A later value of a name stands. -/
def put (p : Preset) (s : Setting) : Preset :=
  { p with entries := p.entries.modify s.kind (·.insert s.name s.value) }

/-- The preset with the entries of `upper` on top. It keeps its own version. -/
def merge (p upper : Preset) : Preset where
  version := p.version
  entries := {
    bools := p.entries.bools.overlay upper.entries.bools
    ints := p.entries.ints.overlay upper.entries.ints }

/-- The entries, those for bool flags first, each kind in byte order of name. -/
def settings (p : Preset) : List Setting :=
  p.entries.bools.entries.map (fun e => ⟨.bool, e.1, e.2⟩)
    ++ p.entries.ints.entries.map fun e => ⟨.int, e.1, e.2⟩

/-- The rows that the preset writes. -/
def rows (p : Preset) : List Row := p.settings.map Setting.row

/-! ## Applying a preset -/

/-- How many entries were written, and the entries that the registry does not have. -/
structure Report where
  applied : Nat
  unknown : List (Kind × String)
  deriving DecidableEq

/-- Writes one entry and counts it. -/
def applyOne (done : Report × Registry) (s : Setting) : Logged (Report × Registry) := do
  let (hit, r) ← done.2.set s.kind (Text.toBytes s.name) s.value
  if hit then return ({ done.1 with applied := done.1.applied + 1 }, r)
  else return ({ done.1 with unknown := done.1.unknown ++ [(s.kind, s.name)] }, r)

def apply (p : Preset) (r : Registry) : Logged (Report × Registry) :=
  p.settings.foldlM applyOne (⟨0, []⟩, r)

/-! ## Look-ups -/

/-- A preset is its version and its look-ups. -/
theorem eq_of_find? {p q : Preset} (hv : p.version = q.version)
    (hf : ∀ k name, p.find? k name = q.find? k name) : p = q :=
  Preset.ext hv fun k => SortedMap.eq_of_find? (hf k)

theorem find?_put (p : Preset) (s : Setting) (k : Kind) (name : String) :
    (p.put s).find? k name = (s.row.valueFor? k (Text.toBytes name)).or (p.find? k name) := by
  unfold put find? Row.valueFor? Setting.row
  by_cases hk : s.kind = k
  · subst hk
    by_cases hn : s.name = name
    · simp [SortedMap.find?_insert, hn]
    · have hbytes : Text.toBytes s.name ≠ Text.toBytes name := fun h => hn (Text.toBytes_inj h)
      simp [SortedMap.find?_insert, hn, hbytes]
  · simp [hk, PerKind.get_modify_of_ne]

/-- Of the settings that are put into a preset, the last one of a flag stands. -/
theorem find?_foldl_put (ss : List Setting) (p : Preset) (k : Kind) (name : String) :
    (ss.foldl put p).find? k name =
      (Row.last? (ss.map Setting.row) k (Text.toBytes name)).or (p.find? k name) := by
  induction ss generalizing p with
  | nil => rfl
  | cons s ss ih =>
    rw [List.foldl_cons, ih, find?_put, List.map_cons, Row.last?_cons, Option.or_assoc]

theorem find?_merge (p upper : Preset) (k : Kind) (name : String) :
    (p.merge upper).find? k name = (upper.find? k name).or (p.find? k name) := by
  cases k with
  | bool => exact SortedMap.find?_overlay p.entries.bools upper.entries.bools name
  | int => exact SortedMap.find?_overlay p.entries.ints upper.entries.ints name

theorem find?_empty (k : Kind) (name : String) : empty.find? k name = none := by
  cases k <;> rfl

end Preset

end HostBoundary
