-- The laws of decimal numerals: which texts are integers, and which integer
-- each of them is. Zeros in front and a plus sign change nothing.
import HostBoundary.Decimal.Signed

namespace HostBoundary.Decimal

/-- Digits, at least one. -/
structure IsDigits (cs : List Char) : Prop where
  some : cs ≠ []
  digit : ∀ c ∈ cs, c.isDigit = true

/-- The text says the integer. -/
inductive Numeral : List Char → Int → Prop
  | plain {cs : List Char} : IsDigits cs → Numeral cs (Nat.ofDigitChars 10 cs 0)
  | plus {cs : List Char} : IsDigits cs → Numeral ('+' :: cs) (Nat.ofDigitChars 10 cs 0)
  | minus {cs : List Char} : IsDigits cs → Numeral ('-' :: cs) (-(Nat.ofDigitChars 10 cs 0 : Int))

theorem isDigits_ofNat (n : Nat) : IsDigits (ofNat n) :=
  ⟨Nat.toDigits_ne_nil, fun _ => isDigit_of_mem_ofNat⟩

theorem IsDigits.head {c : Char} {cs : List Char} (h : IsDigits (c :: cs)) : c.isDigit = true :=
  h.digit c List.mem_cons_self

theorem readNat?_eq_some {cs : List Char} {n : Nat} :
    readNat? cs = some n ↔ IsDigits cs ∧ Nat.ofDigitChars 10 cs 0 = n := by
  unfold readNat?
  constructor
  · intro h
    split at h
    · rename_i hcs
      cases h
      exact ⟨⟨hcs.1, List.all_eq_true.1 hcs.2⟩, rfl⟩
    · cases h
  · rintro ⟨hcs, rfl⟩
    rw [if_pos ⟨hcs.some, List.all_eq_true.2 hcs.digit⟩]

theorem readNat?_of_isDigits {cs : List Char} (h : IsDigits cs) :
    readNat? cs = some (Nat.ofDigitChars 10 cs 0) := readNat?_eq_some.2 ⟨h, rfl⟩

theorem readInt?_eq_some {cs : List Char} {i : Int} : readInt? cs = some i ↔ Numeral cs i := by
  constructor
  · intro h
    unfold readInt? at h
    split at h
    · rename_i ds
      cases hn : readNat? ds with
      | none => simp [hn] at h
      | some n =>
        obtain ⟨hdigits, rfl⟩ := readNat?_eq_some.1 hn
        obtain rfl : _ = i := by simpa [hn] using h
        exact .plus hdigits
    · rename_i ds
      cases hn : readNat? ds with
      | none => simp [hn] at h
      | some n =>
        obtain ⟨hdigits, rfl⟩ := readNat?_eq_some.1 hn
        obtain rfl : _ = i := by simpa [hn] using h
        exact .minus hdigits
    · cases hn : readNat? cs with
      | none => simp [hn] at h
      | some n =>
        obtain ⟨hdigits, rfl⟩ := readNat?_eq_some.1 hn
        obtain rfl : _ = i := by simpa [hn] using h
        exact .plain hdigits
  · rintro (hdigits | hdigits | hdigits)
    · unfold readInt?
      -- A digit is neither of the signs.
      split
      · exact absurd hdigits.head (by decide)
      · exact absurd hdigits.head (by decide)
      · simp [readNat?_of_isDigits hdigits]
    · simp [readInt?, readNat?_of_isDigits hdigits]
    · simp [readInt?, readNat?_of_isDigits hdigits]

/-- The integer must be one of 32 bits. -/
theorem readInt32?_eq_some {cs : List Char} {v : Int32} :
    readInt32? cs = some v ↔ Numeral cs v.toInt := by
  unfold readInt32?
  rw [Option.bind_eq_some_iff]
  simp only [readInt?_eq_some, Word.int32?_eq_some]
  constructor
  · rintro ⟨i, hi, rfl⟩
    exact hi
  · intro h
    exact ⟨_, h, rfl⟩

/-- A printed integer says what it was printed from. -/
theorem numeral_ofInt (i : Int) : Numeral (ofInt i) i := by
  have hvalue : Nat.ofDigitChars 10 (ofNat i.natAbs) 0 = i.natAbs :=
    Nat.ofDigitChars_toDigits (by decide) (by decide)
  unfold ofInt
  split
  · have h := Numeral.minus (isDigits_ofNat i.natAbs)
    rw [hvalue] at h
    have hi : -(i.natAbs : Int) = i := by omega
    rwa [hi] at h
  · have h := Numeral.plain (isDigits_ofNat i.natAbs)
    rw [hvalue] at h
    have hi : (i.natAbs : Int) = i := by omega
    rwa [hi] at h

/-- A numeral is digits behind a sign or without one. -/
theorem Numeral.isDigit_or_sign {cs : List Char} {i : Int} (h : Numeral cs i) :
    ∀ c ∈ cs, c.isDigit = true ∨ c = '+' ∨ c = '-' := by
  intro c hc
  cases h with
  | plain hdigits => exact Or.inl (hdigits.digit c hc)
  | plus hdigits =>
    rcases List.mem_cons.1 hc with rfl | hc
    · simp
    · exact Or.inl (hdigits.digit c hc)
  | minus hdigits =>
    rcases List.mem_cons.1 hc with rfl | hc
    · simp
    · exact Or.inl (hdigits.digit c hc)

end HostBoundary.Decimal
