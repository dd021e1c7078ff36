-- Maps kept as lists in ascending byte order of the key. The order is part
-- of the type, so a map has one form only: two maps that answer every
-- look-up alike are equal.
import HostBoundary.Text.Utf8

namespace HostBoundary

/-- Keys that are told apart, and ordered, by their bytes. -/
class Keyed (κ : Type) where
  bytes : κ → Bytes
  bytes_inj : ∀ {a b : κ}, bytes a = bytes b → a = b

instance : Keyed Bytes where
  bytes b := b
  bytes_inj h := h

/-- A text is ordered by its UTF-8 bytes. -/
instance : Keyed String where
  bytes := Text.toBytes
  bytes_inj := Text.toBytes_inj

/-- The key `a` stands before the key `b`: unsigned bytes, a proper beginning first. -/
def Before {κ : Type} [Keyed κ] (a b : κ) : Prop := Keyed.bytes a < Keyed.bytes b

instance {κ : Type} [Keyed κ] (a b : κ) : Decidable (Before a b) :=
  inferInstanceAs (Decidable (Keyed.bytes a < Keyed.bytes b))

theorem Before.irrefl {κ : Type} [Keyed κ] (a : κ) : ¬ Before a a := List.lt_irrefl _

theorem Before.trans {κ : Type} [Keyed κ] {a b c : κ} (h : Before a b) (h' : Before b c) :
    Before a c := List.lt_trans h h'

theorem Before.ne {κ : Type} [Keyed κ] {a b : κ} (h : Before a b) : a ≠ b := by
  rintro rfl
  exact Before.irrefl a h

/-- Of two keys, one stands before the other or they are the same. -/
theorem eq_of_not_before {κ : Type} [Keyed κ] {a b : κ} (h : ¬ Before a b) (h' : ¬ Before b a) :
    a = b := Keyed.bytes_inj (List.le_antisymm h' h)

/-- The entries of a map, strictly ascending by key. -/
def Ascending {κ α : Type} [Keyed κ] (l : List (κ × α)) : Prop :=
  l.Pairwise fun e e' => Before e.1 e'.1

structure SortedMap (κ α : Type) [Keyed κ] where
  entries : List (κ × α)
  ascending : Ascending entries

/-! ## The entry list -/

namespace Entries

section Keys

variable {κ α : Type} [DecidableEq κ]

/-- The value of the first entry with this key. -/
def find? (k : κ) : List (κ × α) → Option α
  | [] => none
  | e :: rest => if e.1 = k then some e.2 else find? k rest

/-- The entries with `v` at `k` where `k` has an entry, and the same entries else. -/
def replace (k : κ) (v : α) : List (κ × α) → List (κ × α)
  | [] => []
  | e :: rest => if e.1 = k then (k, v) :: rest else e :: replace k v rest

theorem map_fst_replace (k : κ) (v : α) (l : List (κ × α)) :
    (replace k v l).map Prod.fst = l.map Prod.fst := by
  induction l with
  | nil => rfl
  | cons x rest ih =>
    simp only [replace]
    split <;> simp_all

theorem find?_replace (k k' : κ) (v : α) (l : List (κ × α)) :
    find? k' (replace k v l) =
      if k = k' then (find? k l).map fun _ => v else find? k' l := by
  induction l with
  | nil => simp [replace, find?]
  | cons x rest ih =>
    simp only [replace]
    split
    · rename_i heq
      subst heq
      simp only [find?]
      split <;> simp_all
    · simp only [find?, ih]
      split
      · rename_i h1 h2
        subst h2
        simp [Ne.symm h1]
      · split <;> simp_all

theorem find?_isSome (k : κ) (l : List (κ × α)) :
    (find? k l).isSome = true ↔ k ∈ l.map Prod.fst := by
  induction l with
  | nil => simp [find?]
  | cons x rest ih =>
    simp only [find?, List.map_cons, List.mem_cons]
    split
    · rename_i h
      simp [h]
    · rename_i h
      rw [ih]
      simp [Ne.symm h]

end Keys

section Order

variable {κ α : Type} [Keyed κ]

theorem ascending_iff (l : List (κ × α)) :
    Ascending l ↔ (l.map Prod.fst).Pairwise Before := by
  simp [Ascending, List.pairwise_map]

/-- Two ascending lists with the same members are the same list. -/
theorem eq_of_mem_iff {l l' : List (κ × α)} (h : Ascending l) (h' : Ascending l')
    (hm : ∀ e, e ∈ l ↔ e ∈ l') : l = l' := by
  induction l generalizing l' with
  | nil =>
    cases l' with
    | nil => rfl
    | cons y _ => exact absurd ((hm y).2 (by simp)) (by simp)
  | cons x rest ih =>
    cases l' with
    | nil => exact absurd ((hm x).1 (by simp)) (by simp)
    | cons y rest' =>
      obtain ⟨hx, hrest⟩ := List.pairwise_cons.1 h
      obtain ⟨hy, hrest'⟩ := List.pairwise_cons.1 h'
      have hxy : x = y := by
        rcases List.mem_cons.1 ((hm x).1 (by simp)) with h1 | h1
        · exact h1
        · rcases List.mem_cons.1 ((hm y).2 (by simp)) with h2 | h2
          · exact h2.symm
          · exact absurd ((hy x h1).trans (hx y h2)) (Before.irrefl _)
      subst hxy
      congr 1
      refine ih hrest hrest' fun e => ⟨fun he => ?_, fun he => ?_⟩
      · rcases List.mem_cons.1 ((hm e).1 (List.mem_cons_of_mem _ he)) with h1 | h1
        · exact absurd (h1 ▸ hx e he) (Before.irrefl _)
        · exact h1
      · rcases List.mem_cons.1 ((hm e).2 (List.mem_cons_of_mem _ he)) with h1 | h1
        · exact absurd (h1 ▸ hy e he) (Before.irrefl _)
        · exact h1

variable [DecidableEq κ]

/-- The entries with `v` at `k`: a new entry goes to its place in the order. -/
def insert (k : κ) (v : α) : List (κ × α) → List (κ × α)
  | [] => [(k, v)]
  | e :: rest =>
    if Before k e.1 then (k, v) :: e :: rest
    else if e.1 = k then (k, v) :: rest
    else e :: insert k v rest

theorem mem_insert {k : κ} {v : α} {l : List (κ × α)} {e : κ × α} (h : e ∈ insert k v l) :
    e = (k, v) ∨ e ∈ l := by
  induction l with
  | nil => simpa [insert] using h
  | cons x rest ih =>
    simp only [insert] at h
    split at h
    · simpa using h
    · split at h
      · simp only [List.mem_cons] at h ⊢
        exact h.imp_right Or.inr
      · simp only [List.mem_cons] at h ⊢
        rcases h with h | h
        · exact Or.inr (Or.inl h)
        · exact (ih h).imp_right Or.inr

theorem ascending_insert (k : κ) (v : α) {l : List (κ × α)} (h : Ascending l) :
    Ascending (insert k v l) := by
  induction l with
  | nil => exact List.pairwise_singleton _ _
  | cons x rest ih =>
    obtain ⟨hx, hrest⟩ := List.pairwise_cons.1 h
    simp only [insert]
    split
    · rename_i hk
      refine List.pairwise_cons.2 ⟨fun e he => ?_, h⟩
      rcases List.mem_cons.1 he with rfl | he
      · exact hk
      · exact hk.trans (hx e he)
    · rename_i hk
      split
      · rename_i heq
        subst heq
        exact List.pairwise_cons.2 ⟨hx, hrest⟩
      · rename_i hne
        refine List.pairwise_cons.2 ⟨fun e he => ?_, ih hrest⟩
        rcases mem_insert he with rfl | he
        · exact Classical.byContradiction fun h' => hne (eq_of_not_before h' hk)
        · exact hx e he

theorem ascending_replace (k : κ) (v : α) {l : List (κ × α)} (h : Ascending l) :
    Ascending (replace k v l) := by
  rw [ascending_iff, map_fst_replace, ← ascending_iff]
  exact h

theorem find?_insert (k k' : κ) (v : α) (l : List (κ × α)) :
    find? k' (insert k v l) = if k = k' then some v else find? k' l := by
  induction l with
  | nil => simp [insert, find?]
  | cons x rest ih =>
    simp only [insert]
    split
    · simp [find?]
    · split
      · rename_i heq
        subst heq
        simp only [find?]
        split <;> simp_all
      · simp only [find?, ih]
        split
        · rename_i h1 h2
          subst h2
          simp [Ne.symm h1]
        · rfl

theorem find?_eq_some {l : List (κ × α)} (h : Ascending l) {k : κ} {v : α} :
    find? k l = some v ↔ (k, v) ∈ l := by
  induction l with
  | nil => simp [find?]
  | cons x rest ih =>
    obtain ⟨hx, hrest⟩ := List.pairwise_cons.1 h
    simp only [find?, List.mem_cons]
    split
    · rename_i heq
      subst heq
      constructor
      · intro h1
        cases h1
        exact Or.inl rfl
      · rintro (h1 | h1)
        · rw [← h1]
        · exact absurd (hx _ h1) (Before.irrefl _)
    · rename_i hne
      rw [ih hrest]
      constructor
      · exact Or.inr
      · rintro (h1 | h1)
        · exact absurd (by rw [← h1]) hne
        · exact h1

/-- In ascending entries the first key is nowhere else. -/
theorem find?_rest {e : κ × α} {rest : List (κ × α)} (h : Ascending (e :: rest)) :
    find? e.1 rest = none := by
  rw [← Option.not_isSome_iff_eq_none, find?_isSome]
  intro hmem
  obtain ⟨e', he', hkey⟩ := List.mem_map.1 hmem
  have hlt := (List.pairwise_cons.1 h).1 e' he'
  exact hlt.ne hkey.symm

end Order

end Entries

/-! ## The map -/

namespace SortedMap

variable {κ α : Type} [Keyed κ]

@[ext] theorem ext {m m' : SortedMap κ α} (h : m.entries = m'.entries) : m = m' := by
  cases m
  cases m'
  cases h
  rfl

def keys (m : SortedMap κ α) : List κ := m.entries.map Prod.fst

def size (m : SortedMap κ α) : Nat := m.entries.length

def isEmpty (m : SortedMap κ α) : Bool := m.entries.isEmpty

theorem length_keys (m : SortedMap κ α) : m.keys.length = m.size := List.length_map ..

theorem keys_ascending (m : SortedMap κ α) : m.keys.Pairwise Before :=
  (Entries.ascending_iff m.entries).1 m.ascending

def empty : SortedMap κ α := ⟨[], List.Pairwise.nil⟩

instance : Inhabited (SortedMap κ α) := ⟨empty⟩

variable [DecidableEq κ]

def find? (m : SortedMap κ α) (k : κ) : Option α := Entries.find? k m.entries

def contains (m : SortedMap κ α) (k : κ) : Bool := (m.find? k).isSome

def insert (m : SortedMap κ α) (k : κ) (v : α) : SortedMap κ α :=
  ⟨Entries.insert k v m.entries, Entries.ascending_insert k v m.ascending⟩

/-- Overwrites the value at a key that the map has. Adds no key. -/
def replace (m : SortedMap κ α) (k : κ) (v : α) : SortedMap κ α :=
  ⟨Entries.replace k v m.entries, Entries.ascending_replace k v m.ascending⟩

/-- Both maps in one. Where both have a key, the value of `upper` stands. -/
def overlay (m upper : SortedMap κ α) : SortedMap κ α :=
  upper.entries.foldl (fun m e => m.insert e.1 e.2) m

@[simp] theorem find?_empty (k : κ) : (empty : SortedMap κ α).find? k = none := rfl

theorem find?_insert (m : SortedMap κ α) (k k' : κ) (v : α) :
    (m.insert k v).find? k' = if k = k' then some v else m.find? k' :=
  Entries.find?_insert k k' v m.entries

theorem find?_replace (m : SortedMap κ α) (k k' : κ) (v : α) :
    (m.replace k v).find? k' = if k = k' then (m.find? k).map fun _ => v else m.find? k' :=
  Entries.find?_replace k k' v m.entries

theorem find?_foldl_insert (m : SortedMap κ α) {l : List (κ × α)} (h : Ascending l) (k : κ) :
    (l.foldl (fun m e => m.insert e.1 e.2) m).find? k = (Entries.find? k l).or (m.find? k) := by
  induction l generalizing m with
  | nil => rfl
  | cons e rest ih =>
    rw [List.foldl_cons, ih _ (List.pairwise_cons.1 h).2, find?_insert, Entries.find?]
    by_cases hk : e.1 = k
    · subst hk
      rw [if_pos rfl, if_pos rfl, Entries.find?_rest h]
      rfl
    · rw [if_neg hk, if_neg hk]

theorem find?_overlay (m upper : SortedMap κ α) (k : κ) :
    (m.overlay upper).find? k = (upper.find? k).or (m.find? k) :=
  m.find?_foldl_insert upper.ascending k

@[simp] theorem keys_replace (m : SortedMap κ α) (k : κ) (v : α) :
    (m.replace k v).keys = m.keys :=
  Entries.map_fst_replace k v m.entries

theorem contains_iff (m : SortedMap κ α) (k : κ) : m.contains k = true ↔ k ∈ m.keys :=
  Entries.find?_isSome k m.entries

theorem find?_eq_some (m : SortedMap κ α) (k : κ) (v : α) :
    m.find? k = some v ↔ (k, v) ∈ m.entries :=
  Entries.find?_eq_some m.ascending

/-- A map is its look-ups. -/
theorem eq_of_find? {m m' : SortedMap κ α} (h : ∀ k, m.find? k = m'.find? k) : m = m' := by
  refine ext (Entries.eq_of_mem_iff m.ascending m'.ascending fun e => ?_)
  rw [← m.find?_eq_some e.1 e.2, ← m'.find?_eq_some e.1 e.2, h]

instance [DecidableEq α] : DecidableEq (SortedMap κ α) := fun m m' =>
  decidable_of_iff (m.entries = m'.entries) ⟨ext, fun h => h ▸ rfl⟩

end SortedMap

end HostBoundary
