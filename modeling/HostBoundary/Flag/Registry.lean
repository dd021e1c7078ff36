-- The flag registry: typed tuning flags over a fixed table of rows. A
-- registry keeps the rows that it was built from and the values that stand
-- now. Writing overwrites, so no operation adds a name or takes one away.
import HostBoundary.Flag.Kind
import HostBoundary.Event
import HostBoundary.SortedMap

namespace HostBoundary

/-- What tells a flag from the others: its name and its kind. -/
structure Entry where
  name : Bytes
  kind : Kind
  deriving DecidableEq

/-- One row of a flag table: a flag and its default. -/
structure Row where
  kind : Kind
  name : Bytes
  value : kind.Value

namespace Row

/-- The flag of the row. -/
def entry (row : Row) : Entry := ⟨row.name, row.kind⟩

/-- Names are not empty and hold no zero byte. -/
def WellNamed (row : Row) : Prop := row.name ≠ [] ∧ 0 ∉ row.name

/-- The value of the row, where it is a row of this flag. -/
def valueFor? (row : Row) (k : Kind) (name : Bytes) : Option k.Value :=
  if h : row.kind = k then if row.name = name then some (h ▸ row.value) else none else none

/-- The value of the last row of a flag. -/
def last? (rows : List Row) (k : Kind) (name : Bytes) : Option k.Value :=
  rows.reverse.findSome? fun row => row.valueFor? k name

@[simp] theorem valueFor?_self (k : Kind) (name : Bytes) (v : k.Value) :
    (⟨k, name, v⟩ : Row).valueFor? k name = some v := by
  simp [valueFor?]

theorem valueFor?_isSome (row : Row) (k : Kind) (name : Bytes) :
    (row.valueFor? k name).isSome = true ↔ row.entry = ⟨name, k⟩ := by
  unfold valueFor? entry
  by_cases hk : row.kind = k
  · by_cases hn : row.name = name <;> simp [hk, hn]
  · simp [hk]

theorem valueFor?_of_ne {row : Row} {k : Kind} {name : Bytes} (h : row.entry ≠ ⟨name, k⟩) :
    row.valueFor? k name = none := by
  rw [← Option.not_isSome_iff_eq_none, valueFor?_isSome]
  exact h

theorem last?_append (rows rows' : List Row) (k : Kind) (name : Bytes) :
    last? (rows ++ rows') k name = (last? rows' k name).or (last? rows k name) := by
  simp [last?, List.reverse_append, List.findSome?_append]

theorem last?_cons (row : Row) (rows : List Row) (k : Kind) (name : Bytes) :
    last? (row :: rows) k name = (last? rows k name).or (row.valueFor? k name) := by
  rw [← List.singleton_append, last?_append]
  simp [last?]

theorem last?_isSome (rows : List Row) (k : Kind) (name : Bytes) :
    (last? rows k name).isSome = true ↔ ⟨name, k⟩ ∈ rows.map entry := by
  induction rows with
  | nil => simp [last?]
  | cons row rows ih =>
    rw [last?_cons, Option.isSome_or, Bool.or_eq_true, ih, valueFor?_isSome, List.map_cons,
      List.mem_cons, or_comm, eq_comm]

/-- A row for a new flag keeps the flags distinct. -/
theorem nodup_snoc {rows : List Row} {row : Row} (h : (rows.map entry).Nodup)
    (hnew : row.entry ∉ rows.map entry) : ((rows ++ [row]).map entry).Nodup := by
  rw [List.map_append, List.nodup_append]
  refine ⟨h, by simp, ?_⟩
  intro e he e' he' heq
  rw [List.mem_singleton.1 he'] at heq
  exact hnew (heq ▸ he)

/-- Of rows for distinct flags, each is the last of its own flag. -/
theorem last?_of_mem {rows : List Row} (h : (rows.map entry).Nodup) {row : Row}
    (hrow : row ∈ rows) : last? rows row.kind row.name = some row.value := by
  induction rows with
  | nil => cases hrow
  | cons first rows ih =>
    obtain ⟨hfirst, hrest⟩ := List.nodup_cons.1 h
    rw [last?_cons]
    rcases List.mem_cons.1 hrow with rfl | hmem
    · have hnone : last? rows row.kind row.name = none := by
        rw [← Option.not_isSome_iff_eq_none, last?_isSome]
        exact hfirst
      simp [hnone, valueFor?]
    · rw [ih hrest hmem]
      rfl

theorem last?_eq_some {rows : List Row} (h : (rows.map entry).Nodup) {k : Kind} {name : Bytes}
    {v : k.Value} : last? rows k name = some v ↔ ⟨k, name, v⟩ ∈ rows := by
  constructor
  · intro hv
    have hmem : (⟨name, k⟩ : Entry) ∈ rows.map entry := by
      rw [← last?_isSome, hv]
      rfl
    obtain ⟨⟨k', name', v'⟩, hrow, he⟩ := List.mem_map.1 hmem
    cases he
    rw [last?_of_mem h hrow] at hv
    cases hv
    exact hrow
  · exact last?_of_mem h

/-- Rows for distinct flags may stand in any order. -/
theorem last?_perm {rows rows' : List Row} (h : rows.Perm rows') (hnodup : (rows.map entry).Nodup)
    (k : Kind) (name : Bytes) : last? rows k name = last? rows' k name := by
  have hnodup' : (rows'.map entry).Nodup := (h.map entry).nodup_iff.1 hnodup
  apply Option.ext
  intro v
  rw [last?_eq_some hnodup, last?_eq_some hnodup', h.mem_iff]

end Row

/-! ## Tables of values -/

/-- A value for each of some names, kept apart by kind. -/
abbrev Table := PerKind fun k => SortedMap Bytes k.Value

namespace Table

def empty : Table := ⟨SortedMap.empty, SortedMap.empty⟩

def find? (t : Table) (k : Kind) (name : Bytes) : Option k.Value := (t.get k).find? name

def has (t : Table) (k : Kind) (name : Bytes) : Bool := (t.get k).contains name

/-- The table with the value of the row. A flag that is new joins it. -/
def put (t : Table) (row : Row) : Table := t.modify row.kind (·.insert row.name row.value)

/-- Overwrites a value that the table has. -/
def replace (t : Table) (k : Kind) (name : Bytes) (v : k.Value) : Table :=
  t.modify k (·.replace name v)

/-- The rows of the table, bool flags first, each kind in byte order of name. -/
def rows (t : Table) : List Row :=
  t.bools.entries.map (fun e => ⟨.bool, e.1, e.2⟩) ++ t.ints.entries.map fun e => ⟨.int, e.1, e.2⟩

@[simp] theorem has_empty (k : Kind) (name : Bytes) : empty.has k name = false := by
  cases k <;> rfl

theorem has_eq_isSome (t : Table) (k : Kind) (name : Bytes) :
    t.has k name = (t.find? k name).isSome := rfl

theorem find?_put (t : Table) (row : Row) (k : Kind) (name : Bytes) :
    (t.put row).find? k name = (row.valueFor? k name).or (t.find? k name) := by
  unfold put find? Row.valueFor?
  by_cases hk : row.kind = k
  · subst hk
    by_cases hn : row.name = name <;> simp [SortedMap.find?_insert, hn]
  · simp [hk, PerKind.get_modify_of_ne]

/-- Of the rows that are put into a table, the last one of a flag stands. -/
theorem find?_foldl_put (rows : List Row) (t : Table) (k : Kind) (name : Bytes) :
    (rows.foldl put t).find? k name = (Row.last? rows k name).or (t.find? k name) := by
  induction rows generalizing t with
  | nil => rfl
  | cons row rows ih => rw [List.foldl_cons, ih, find?_put, Row.last?_cons, Option.or_assoc]

theorem find?_replace (t : Table) (k k' : Kind) (name name' : Bytes) (v : k.Value) :
    (t.replace k name v).find? k' name' =
      if t.has k' name' then ((⟨k, name, v⟩ : Row).valueFor? k' name').or (t.find? k' name')
      else none := by
  unfold replace find? has SortedMap.contains Row.valueFor?
  by_cases hk : k = k'
  · subst hk
    by_cases hn : name = name'
    · subst hn
      cases h : (t.get k).find? name <;> simp [SortedMap.find?_replace, h]
    · cases h : (t.get k).find? name' <;> simp [SortedMap.find?_replace, hn, h]
  · cases h : (t.get k').find? name' <;> simp [hk, PerKind.get_modify_of_ne, h]

/-- A flag has a value where it has a row, and nowhere else. -/
def Holds (t : Table) (rows : List Row) : Prop :=
  ∀ k name, t.has k name = true ↔ ⟨name, k⟩ ∈ rows.map Row.entry

theorem holds_empty : empty.Holds [] := by
  intro k name
  simp

theorem holds_put {t : Table} {rows : List Row} (h : t.Holds rows) (row : Row) :
    (t.put row).Holds (rows ++ [row]) := by
  intro k name
  rw [has_eq_isSome, find?_put, Option.isSome_or, Bool.or_eq_true, ← has_eq_isSome, h,
    Row.valueFor?_isSome, List.map_append, List.mem_append, or_comm]
  simp [eq_comm]

theorem holds_replace {t : Table} {rows : List Row} (h : t.Holds rows) (k : Kind) (name : Bytes)
    (v : k.Value) : (t.replace k name v).Holds rows := by
  intro k' name'
  rw [← h, has_eq_isSome, find?_replace]
  split
  · rename_i hhas
    rw [Option.isSome_or, ← has_eq_isSome, hhas, Bool.or_true]
  · rename_i hhas
    simp [hhas]

/-- The rows that a table holds can be put into it again. -/
theorem holds_foldl_put {t : Table} {rows : List Row} (h : t.Holds rows) :
    (rows.foldl put t).Holds rows := by
  intro k name
  rw [has_eq_isSome, find?_foldl_put, Option.isSome_or, Bool.or_eq_true, ← has_eq_isSome, h,
    Row.last?_isSome, or_self]

end Table

/-! ## Registries -/

/-- Why a row cannot join a registry. -/
inductive RowError where
  | emptyName (kind : Kind)
  | zeroInName (kind : Kind) (name : Bytes)
  | duplicate (kind : Kind) (name : Bytes)
  deriving DecidableEq

def RowError.message : RowError → String
  | .emptyName kind => kind.text ++ " flag registered with empty name"
  | .zeroInName kind name =>
    kind.text ++ " flag name " ++ Text.quoted (Text.lossy name) ++ " contains a NUL byte"
  | .duplicate kind name =>
    kind.text ++ " flag " ++ Text.quoted (Text.lossy name) ++ " registered twice"

structure Registry where
  /-- The rows that the registry was built from, in table order. -/
  rows : List Row
  values : Table
  holds : values.Holds rows
  distinct : (rows.map Row.entry).Nodup
  well_named : ∀ row ∈ rows, row.WellNamed

namespace Registry

@[ext] theorem ext {r r' : Registry} (hr : r.rows = r'.rows) (hv : r.values = r'.values) :
    r = r' := by
  cases r
  cases r'
  cases hr
  cases hv
  rfl

def empty : Registry where
  rows := []
  values := .empty
  holds := Table.holds_empty
  distinct := List.nodup_nil
  well_named := by simp

def get (r : Registry) (k : Kind) (name : Bytes) : Option k.Value := r.values.find? k name

/-- Whether the registry has a flag of this kind with exactly these name bytes. -/
def has (r : Registry) (k : Kind) (name : Bytes) : Bool := r.values.has k name

def count (r : Registry) (k : Kind) : Nat := (r.values.get k).size

def size (r : Registry) : Nat := r.count .bool + r.count .int

def isEmpty (r : Registry) : Bool := r.size = 0

/-- The registry with one more row. Names are told apart within a kind. -/
def add (r : Registry) (row : Row) : Except RowError Registry :=
  if hempty : row.name = [] then .error (.emptyName row.kind)
  else if hzero : 0 ∈ row.name then .error (.zeroInName row.kind row.name)
  else if hnew : r.has row.kind row.name then .error (.duplicate row.kind row.name)
  else .ok {
    rows := r.rows ++ [row]
    values := r.values.put row
    holds := Table.holds_put r.holds row
    distinct := Row.nodup_snoc r.distinct fun h => hnew ((r.holds _ _).2 h)
    well_named := by
      intro x hx
      rcases List.mem_append.1 hx with hx | hx
      · exact r.well_named x hx
      · rw [List.mem_singleton.1 hx]
        exact ⟨hempty, hzero⟩ }

/-- The registry of the rows. The first row that cannot join is the error. -/
def ofRows (rows : List Row) : Except RowError Registry := rows.foldlM add empty

/-- The registry with `v` at a flag that it has. -/
def replace (r : Registry) (k : Kind) (name : Bytes) (v : k.Value) : Registry :=
  { r with
    values := r.values.replace k name v
    holds := Table.holds_replace r.holds k name v }

/-- Overwrites a flag and says whether there is one. A miss changes nothing
and logs nothing. -/
def set (r : Registry) (k : Kind) (name : Bytes) (v : k.Value) : Logged (Bool × Registry) :=
  if r.has k name then ⟨(true, r.replace k name v), [.flagSet k name v]⟩ else ⟨(false, r), []⟩

/-- Every flag back at the default of its row. The rows are put into the
values once more. -/
def reset (r : Registry) : Registry :=
  { r with
    values := r.rows.foldl Table.put r.values
    holds := Table.holds_foldl_put r.holds }

/-! ## Look-ups -/

theorem has_iff (r : Registry) (k : Kind) (name : Bytes) :
    r.has k name = true ↔ ⟨name, k⟩ ∈ r.rows.map Row.entry := r.holds k name

theorem has_of_mem {r : Registry} {row : Row} (h : row ∈ r.rows) :
    r.has row.kind row.name = true := (r.has_iff _ _).2 (List.mem_map_of_mem h)

theorem has_iff_row (r : Registry) (k : Kind) (name : Bytes) :
    r.has k name = true ↔ ∃ row ∈ r.rows, row.kind = k ∧ row.name = name := by
  rw [has_iff, List.mem_map]
  constructor
  · rintro ⟨row, hrow, he⟩
    cases he
    exact ⟨row, hrow, rfl, rfl⟩
  · rintro ⟨row, hrow, rfl, rfl⟩
    exact ⟨row, hrow, rfl⟩

/-- A flag that the registry does not have has no value. -/
theorem get_eq_none_iff (r : Registry) (k : Kind) (name : Bytes) :
    r.get k name = none ↔ ¬ r.has k name = true := Option.not_isSome_iff_eq_none.symm

/-- The values of a registry are its look-ups. -/
theorem values_eq_of_get {r r' : Registry} (h : ∀ k name, r.get k name = r'.get k name) :
    r.values = r'.values := by
  apply PerKind.ext
  intro k
  exact SortedMap.eq_of_find? (h k)

/-- A registry is its rows and its look-ups. -/
theorem eq_of_get {r r' : Registry} (hrows : r.rows = r'.rows)
    (hget : ∀ k name, r.get k name = r'.get k name) : r = r' :=
  ext hrows (values_eq_of_get hget)

/-- A registry has the flags of its rows, so rows in common are flags in common. -/
theorem has_congr {r r' : Registry} (h : r.rows = r'.rows) (k : Kind) (name : Bytes) :
    r.has k name = r'.has k name := by
  rw [Bool.eq_iff_iff, has_iff, has_iff, h]

theorem get_replace (r : Registry) (k k' : Kind) (name name' : Bytes) (v : k.Value) :
    (r.replace k name v).get k' name' =
      if r.has k' name' then ((⟨k, name, v⟩ : Row).valueFor? k' name').or (r.get k' name')
      else none :=
  Table.find?_replace r.values k k' name name' v

theorem get_reset (r : Registry) (k : Kind) (name : Bytes) :
    r.reset.get k name = Row.last? r.rows k name := by
  show (r.rows.foldl Table.put r.values).find? k name = _
  rw [Table.find?_foldl_put]
  cases h : Row.last? r.rows k name with
  | some v => rfl
  | none =>
    have hnot : ¬ r.has k name = true := by
      rw [has_iff, ← Row.last?_isSome, h]
      simp
    exact (r.get_eq_none_iff k name).2 hnot

/-! ## Writing one flag -/

theorem set_of_miss {r : Registry} {k : Kind} {name : Bytes} (h : ¬ r.has k name = true)
    (v : k.Value) : r.set k name v = ⟨(false, r), []⟩ := by
  unfold set
  rw [if_neg h]

/-- A write says whether there is such a flag. -/
theorem set_hit (r : Registry) (k : Kind) (name : Bytes) (v : k.Value) :
    (r.set k name v).value.1 = r.has k name := by
  by_cases h : r.has k name = true
  · unfold set
    rw [if_pos h, h]
  · rw [set_of_miss h, Bool.eq_false_iff.2 h]

theorem rows_set (r : Registry) (k : Kind) (name : Bytes) (v : k.Value) :
    (r.set k name v).value.2.rows = r.rows := by
  unfold set
  split <;> rfl

/-- A write gives its flag the value, if there is one, and leaves the others. -/
theorem get_set (r : Registry) (k k' : Kind) (name name' : Bytes) (v : k.Value) :
    (r.set k name v).value.2.get k' name' =
      if r.has k' name' then ((⟨k, name, v⟩ : Row).valueFor? k' name').or (r.get k' name')
      else none := by
  by_cases h : r.has k name = true
  · unfold set
    rw [if_pos h]
    exact get_replace r k k' name name' v
  · rw [set_of_miss h]
    by_cases h' : r.has k' name' = true
    · have hne : (⟨k, name, v⟩ : Row).entry ≠ ⟨name', k'⟩ := by
        intro he
        cases he
        exact h h'
      rw [if_pos h', Row.valueFor?_of_ne hne, Option.none_or]
    · rw [if_neg h']
      exact (r.get_eq_none_iff k' name').2 h'

end Registry

end HostBoundary
