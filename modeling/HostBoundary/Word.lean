-- Numbers of 32 bits with a sign and of 64 bits without one, and the ways
-- from one to the other. A number that does not fit is none, or is clamped,
-- but never wraps.

namespace HostBoundary

/-- The integers of 32 bits with a sign. -/
def InInt32 (i : Int) : Prop := -0x80000000 ≤ i ∧ i < 0x80000000

instance (i : Int) : Decidable (InInt32 i) :=
  inferInstanceAs (Decidable (-0x80000000 ≤ i ∧ i < 0x80000000))

namespace Word

/-- The 32-bit integer with this value, if there is one. -/
def int32? (i : Int) : Option Int32 := if InInt32 i then some (Int32.ofInt i) else none

theorem int32?_eq_some {i : Int} {v : Int32} : int32? i = some v ↔ v.toInt = i := by
  unfold int32?
  constructor
  · intro h
    split at h
    · rename_i hi
      cases h
      exact Int32.toInt_ofInt_of_le hi.1 hi.2
    · cases h
  · rintro rfl
    have h : InInt32 v.toInt := ⟨Int32.le_toInt v, Int32.toInt_lt v⟩
    simp [h]

@[simp] theorem int32?_toInt (v : Int32) : int32? v.toInt = some v := int32?_eq_some.2 rfl

/-- The nearest 32-bit integer. -/
def clampInt32 (i : Int) : Int32 := Int32.ofInt (max (-0x80000000) (min i 0x7FFFFFFF))

/-- A number that is not negative, without its sign. -/
def unsigned? (v : Int32) : Option UInt64 :=
  if 0 ≤ v.toInt then some (UInt64.ofNat v.toInt.toNat) else none

/-- A number without sign in 32 bits with one, if it fits. -/
def signed? (n : UInt64) : Option Int32 := int32? n.toNat

/-- The sum, or the largest number where the sum does not fit. -/
def addSaturating (a b : UInt64) : UInt64 :=
  UInt64.ofNat (min (a.toNat + b.toNat) 0xFFFFFFFFFFFFFFFF)

/-- The sum with a sign, or the nearest number where the sum does not fit. -/
def addClamped (a b : Int32) : Int32 := clampInt32 (a.toInt + b.toInt)

theorem toNat_of_unsigned? {v : Int32} {n : UInt64} (h : unsigned? v = some n) :
    (n.toNat : Int) = v.toInt := by
  unfold unsigned? at h
  split at h
  · rename_i hv
    cases h
    have hlt := Int32.toInt_lt v
    have h : (UInt64.ofNat v.toInt.toNat).toNat = v.toInt.toNat :=
      UInt64.toNat_ofNat_of_lt (by show v.toInt.toNat < 0x10000000000000000; omega)
    omega
  · cases h

theorem exists_unsigned? {v : Int32} (h : 0 ≤ v.toInt) : ∃ n, unsigned? v = some n := by
  unfold unsigned?
  rw [if_pos h]
  exact ⟨_, rfl⟩

theorem unsigned?_of_neg {v : Int32} (h : v.toInt < 0) : unsigned? v = none := by
  unfold unsigned?
  rw [if_neg (by omega)]

/-- A number that is not negative fits 32 bits with a sign again. -/
theorem signed?_of_unsigned? {v : Int32} {n : UInt64} (h : unsigned? v = some n) :
    signed? n = some v := int32?_eq_some.2 (toNat_of_unsigned? h).symm

theorem signed?_of_large {n : UInt64} (h : 0x80000000 ≤ n.toNat) : signed? n = none := by
  have hlarge : ¬ InInt32 n.toNat := by
    intro hfits
    have hlt := hfits.2
    omega
  rw [signed?, int32?, if_neg hlarge]

/-- Without a sign, a negative number counts as zero. -/
theorem toNat_getD_unsigned? (v : Int32) :
    (((unsigned? v).getD 0).toNat : Int) = max v.toInt 0 := by
  by_cases h : 0 ≤ v.toInt
  · obtain ⟨n, hn⟩ := exists_unsigned? h
    have hnat := toNat_of_unsigned? hn
    rw [hn, Option.getD_some]
    omega
  · rw [unsigned?_of_neg (by omega), Option.getD_none]
    show (0 : Int) = max v.toInt 0
    omega

theorem toInt_clampInt32 (i : Int) :
    (clampInt32 i).toInt = max (-0x80000000) (min i 0x7FFFFFFF) :=
  Int32.toInt_ofInt_of_le (by show -0x80000000 ≤ _; omega) (by show _ < 0x80000000; omega)

theorem toInt_max (a b : Int32) : (max a b).toInt = max a.toInt b.toInt := by
  have hmax : max a b = if a ≤ b then b else a := rfl
  rw [hmax]
  split
  · rename_i hle
    have := Int32.le_iff_toInt_le.1 hle
    omega
  · rename_i hlt
    rw [Int32.le_iff_toInt_le] at hlt
    omega

theorem toNat_addSaturating (a b : UInt64) :
    (addSaturating a b).toNat = min (a.toNat + b.toNat) 0xFFFFFFFFFFFFFFFF :=
  UInt64.toNat_ofNat_of_lt
    (by show min (a.toNat + b.toNat) 0xFFFFFFFFFFFFFFFF < 0x10000000000000000; omega)

end Word

end HostBoundary
