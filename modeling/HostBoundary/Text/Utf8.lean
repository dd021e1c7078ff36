-- Bytes and text. `ofBytes?` reads bytes that are UTF-8. `lossy` shows any
-- bytes as text: one U+FFFD stands for each ill-formed part, where a part
-- is the longest run of bytes that could still begin a character.

namespace HostBoundary

/-- Raw bytes: flag names, variables and files need not be text. -/
abbrev Bytes := List UInt8

namespace Text

def toBytes (s : String) : Bytes := s.toByteArray.data.toList

def ofBytes? (bs : Bytes) : Option String := String.fromUTF8? ⟨bs.toArray⟩

theorem toBytes_inj {s t : String} (h : toBytes s = toBytes t) : s = t :=
  String.toByteArray_inj.1 (ByteArray.ext (Array.toList_inj.1 h))

theorem ofBytes?_eq_some {bs : Bytes} {s : String} : ofBytes? bs = some s ↔ toBytes s = bs := by
  unfold ofBytes? toBytes String.fromUTF8?
  constructor
  · intro h
    split at h
    · cases h
      rfl
    · cases h
  · rintro rfl
    have h : (⟨s.toByteArray.data.toList.toArray⟩ : ByteArray) = s.toByteArray :=
      ByteArray.ext (by simp)
    rw [h]
    simp [s.isValidUTF8, String.fromUTF8]

@[simp] theorem ofBytes?_toBytes (s : String) : ofBytes? (toBytes s) = some s :=
  ofBytes?_eq_some.2 rfl

/-! ## Ill-formed bytes -/

/-- A character that has begun: how many bytes it still owes, the range of
the next one, and the value so far. -/
structure Begun where
  owed : Nat
  low : UInt8
  high : UInt8
  value : Nat

inductive First where
  | char (c : Char)
  | begun (p : Begun)
  | never

/-- What the first byte of a character says. The ranges of the second byte
keep out overlong forms, surrogates and values above U+10FFFF. -/
def first (b : UInt8) : First :=
  if b < 0x80 then .char (Char.ofNat b.toNat)
  else if b < 0xC2 then .never
  else if b < 0xE0 then .begun ⟨1, 0x80, 0xBF, b.toNat % 0x20⟩
  else if b < 0xF0 then
    .begun ⟨2, if b = 0xE0 then 0xA0 else 0x80, if b = 0xED then 0x9F else 0xBF, b.toNat % 0x10⟩
  else if b < 0xF5 then
    .begun ⟨3, if b = 0xF0 then 0x90 else 0x80, if b = 0xF4 then 0x8F else 0xBF, b.toNat % 8⟩
  else .never

/-- The characters of the bytes, with `none` for each ill-formed part. -/
def scan : Option Begun → Bytes → List (Option Char)
  | none, [] => []
  | some _, [] => [none]
  | none, b :: rest =>
    match first b with
    | .char c => some c :: scan none rest
    | .begun p => scan (some p) rest
    | .never => none :: scan none rest
  | some p, b :: rest =>
    if p.low ≤ b ∧ b ≤ p.high then
      let value := p.value * 0x40 + b.toNat % 0x40
      if p.owed ≤ 1 then some (Char.ofNat value) :: scan none rest
      else scan (some ⟨p.owed - 1, 0x80, 0xBF, value⟩) rest
    else
      match first b with
      | .char c => none :: some c :: scan none rest
      | .begun q => none :: scan (some q) rest
      | .never => none :: none :: scan none rest

/-- The text of the bytes for display. -/
def lossy (bs : Bytes) : String :=
  match ofBytes? bs with
  | some s => s
  | none => String.ofList ((scan none bs).map (·.getD '\uFFFD'))

@[simp] theorem lossy_toBytes (s : String) : lossy (toBytes s) = s := by
  simp [lossy]

/-- The bytes that a C string shows: those before the first zero byte. -/
def untilZero (bs : Bytes) : Bytes := bs.takeWhile (· != 0)

/-- A text without a zero byte is read up to the zero byte behind it. -/
theorem untilZero_append {bs : Bytes} (h : 0 ∉ bs) (rest : Bytes) :
    untilZero (bs ++ 0 :: rest) = bs := by
  have hne : ∀ b ∈ bs, (b != 0) = true := by
    intro b hb
    have hzero : b ≠ 0 := fun he => h (he ▸ hb)
    simpa using hzero
  unfold untilZero
  rw [List.takeWhile_append_of_pos hne]
  simp

theorem zero_not_mem_untilZero (bs : Bytes) : 0 ∉ untilZero bs := by
  intro h
  have hne := List.all_eq_true.1 (List.all_takeWhile ..) 0 h
  exact absurd hne (by decide)

end Text

end HostBoundary
