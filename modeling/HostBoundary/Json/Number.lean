-- Numbers in a JSON document. A number without fraction and exponent that
-- fits in 64 bits is kept whole. Any other is a double, found from the first
-- digits that fit in 64 bits and a power of ten, in double arithmetic.
import HostBoundary.Json.Fault
import HostBoundary.Json.Value

namespace HostBoundary.Json

namespace Number

/-- What follows a number that was read, or why none was read. -/
abbrev Read := Except (Fault GrammarError) (Number × List Char)

/-- Adds digits to `v` as long as the value stays below `limit`. Gives the
value, how many digits it took, and what is left. -/
def absorb (limit v taken : Nat) : List Char → Nat × Nat × List Char
  | [] => (v, taken, [])
  | c :: rest =>
    if c.isDigit = true ∧ 10 * v + (c.toNat - 48) < limit then
      absorb limit (10 * v + (c.toNat - 48)) (taken + 1) rest
    else (v, taken, c :: rest)

def startsWithDigit : List Char → Bool
  | [] => false
  | c :: _ => c.isDigit

/-- The double nearest to a power of ten, up to 308. -/
def powerOfTen (e : Nat) : Float := Float.ofScientific 1 false e

/-- `f` times a power of ten, unless it is too large for a double. -/
def scaleUp (f : Float) (e : Nat) : Option Float :=
  if e ≤ 308 then
    let g := f * powerOfTen e
    if g.isInf then none else some g
  else if f == 0 then some f
  else none

/-- `f` divided by a power of ten, in steps that a double can take. -/
def scaleDown (f : Float) (e : Nat) : Float :=
  if h : e ≤ 308 then f / powerOfTen e
  else if f == 0 then f
  else scaleDown (f / powerOfTen 308) (e - 308)
termination_by e
decreasing_by omega

def signed (negative : Bool) (f : Float) : Float := if negative then -f else f

/-- The double of the digits `v` and the exponent `e`. -/
def ofParts (negative : Bool) (v : Nat) (e : Int) (rest : List Char) : Read :=
  let f := (UInt64.ofNat v).toFloat
  let scaled := if 0 ≤ e then scaleUp f e.toNat else some (scaleDown f e.natAbs)
  match scaled with
  | some g => .ok (.real (signed negative g), rest)
  | none => .error (.before .numberOutOfRange rest)

/-- What follows the letter of an exponent. An exponent of more than 31 bits
gives zero, or is out of range where the digits are not all zero. -/
def readExponent (negative : Bool) (v : Nat) (e : Int) (cs : List Char) : Read :=
  let (down, digits) := match cs with
    | '+' :: rest => (false, rest)
    | '-' :: rest => (true, rest)
    | _ => (false, cs)
  match digits with
  | [] => .error (.atEnd .endInValue)
  | c :: _ =>
    if c.isDigit then
      let (x, _, rest) := absorb (0x80000000) 0 0 digits
      if startsWithDigit rest then
        if v ≠ 0 ∧ down = false then .error (.before .numberOutOfRange (rest.drop 1))
        else .ok (.real (signed negative 0), rest.dropWhile Char.isDigit)
      else ofParts negative v (if down then e - x else e + x) rest
    else .error (.at .invalidNumber digits)

/-- What follows all digits of a number with fraction or exponent. -/
def readTail (negative : Bool) (v : Nat) (e : Int) : List Char → Read
  | 'e' :: rest => readExponent negative v e rest
  | 'E' :: rest => readExponent negative v e rest
  | rest => ofParts negative v e rest

/-- What follows the point. A digit must. Digits that no longer fit are dropped. -/
def readFraction (negative : Bool) (v : Nat) (e : Int) (cs : List Char) : Read :=
  let (w, taken, rest) := absorb (0x10000000000000000) v 0 cs
  if startsWithDigit rest then
    readTail negative w (e - taken) (rest.dropWhile Char.isDigit)
  else if taken = 0 then
    match rest with
    | [] => .error (.atEnd .endInValue)
    | _ => .error (.at .invalidNumber rest)
  else readTail negative w (e - taken) rest

/-- The number of whole digits `v`. Minus zero is a double, and so is what is
below the 64-bit integers with a sign. -/
def ofDigits (negative : Bool) (v : Nat) : Number :=
  if negative then
    if v = 0 ∨ 0x8000000000000000 < v then .real (-(UInt64.ofNat v).toFloat)
    else .whole (-(v : Int))
  else .whole v

/-- What follows the whole digits that fit in 64 bits. The count of digits
that do not fit becomes the exponent. -/
def readRest (negative : Bool) (v : Nat) (cs : List Char) : Read :=
  if startsWithDigit cs then
    let e := (cs.takeWhile Char.isDigit).length
    match cs.dropWhile Char.isDigit with
    | '.' :: rest => readFraction negative v e rest
    | rest => readTail negative v e rest
  else
    match cs with
    | '.' :: rest => readFraction negative v 0 rest
    | 'e' :: rest => readExponent negative v 0 rest
    | 'E' :: rest => readExponent negative v 0 rest
    | rest => .ok (ofDigits negative v, rest)

/-- A number after its sign. A leading zero stands alone. -/
def readUnsigned (negative : Bool) : List Char → Read
  | [] => .error (.atEnd .endInValue)
  | c :: rest =>
    if c = '0' then
      if startsWithDigit rest then .error (.at .invalidNumber rest) else readRest negative 0 rest
    else if c.isDigit then
      let (v, _, more) := absorb (0x10000000000000000) (c.toNat - 48) 0 rest
      readRest negative v more
    else .error (.at .invalidNumber (c :: rest))

/-- A number that begins with the sign or digit `c`. -/
def read (c : Char) (rest : List Char) : Read :=
  if c = '-' then readUnsigned true rest else readUnsigned false (c :: rest)

/-! ## A number takes from the front of the text -/

theorem length_absorb (limit v taken : Nat) (cs : List Char) :
    (absorb limit v taken cs).2.2.length ≤ cs.length := by
  induction cs generalizing v taken with
  | nil => exact Nat.le_refl _
  | cons c rest ih =>
    simp only [absorb]
    split
    · exact Nat.le_succ_of_le (ih ..)
    · exact Nat.le_refl _

theorem length_dropWhile_le (p : Char → Bool) (cs : List Char) :
    (cs.dropWhile p).length ≤ cs.length :=
  (List.dropWhile_sublist p).length_le

theorem length_ofParts {negative : Bool} {v : Nat} {e : Int} {cs rest : List Char} {n : Number}
    (h : ofParts negative v e cs = .ok (n, rest)) : rest.length ≤ cs.length := by
  unfold ofParts at h
  dsimp only at h
  split at h
  · cases h
    exact Nat.le_refl _
  · cases h

theorem length_readExponent {negative : Bool} {v : Nat} {e : Int} {cs rest : List Char}
    {n : Number} (h : readExponent negative v e cs = .ok (n, rest)) :
    rest.length ≤ cs.length := by
  unfold readExponent at h
  have hd : ∀ down digits, (match cs with
      | '+' :: rest => (false, rest)
      | '-' :: rest => (true, rest)
      | _ => (false, cs)) = (down, digits) → digits.length ≤ cs.length := by
    intro down digits hm
    split at hm <;> cases hm <;> simp
  generalize hm : (match cs with
    | '+' :: rest => (false, rest)
    | '-' :: rest => (true, rest)
    | _ => (false, cs)) = p at h
  obtain ⟨down, digits⟩ := p
  have hle := hd down digits hm
  dsimp only at h
  split at h
  · cases h
  · rename_i c tail
    have hab := length_absorb (0x80000000) 0 0 (c :: tail)
    split at h
    · split at h
      · split at h
        · cases h
        · cases h
          exact Nat.le_trans (length_dropWhile_le _ _) (Nat.le_trans hab hle)
      · exact Nat.le_trans (length_ofParts h) (Nat.le_trans hab hle)
    · cases h

theorem length_readTail {negative : Bool} {v : Nat} {e : Int} {cs rest : List Char} {n : Number}
    (h : readTail negative v e cs = .ok (n, rest)) : rest.length ≤ cs.length := by
  unfold readTail at h
  split at h
  · exact Nat.le_succ_of_le (length_readExponent h)
  · exact Nat.le_succ_of_le (length_readExponent h)
  · exact length_ofParts h

theorem length_readFraction {negative : Bool} {v : Nat} {e : Int} {cs rest : List Char}
    {n : Number} (h : readFraction negative v e cs = .ok (n, rest)) :
    rest.length ≤ cs.length := by
  unfold readFraction at h
  have hab := length_absorb (0x10000000000000000) v 0 cs
  dsimp only at h
  split at h
  · exact Nat.le_trans (length_readTail h) (Nat.le_trans (length_dropWhile_le _ _) hab)
  · split at h
    · split at h <;> cases h
    · exact Nat.le_trans (length_readTail h) hab

theorem length_readRest {negative : Bool} {v : Nat} {cs rest : List Char} {n : Number}
    (h : readRest negative v cs = .ok (n, rest)) : rest.length ≤ cs.length := by
  unfold readRest at h
  split at h
  · have hdrop := length_dropWhile_le Char.isDigit cs
    dsimp only at h
    split at h
    · rename_i heq
      rw [heq] at hdrop
      exact Nat.le_trans (length_readFraction h) (Nat.le_trans (Nat.le_succ _) hdrop)
    · exact Nat.le_trans (length_readTail h) hdrop
  · split at h
    · exact Nat.le_succ_of_le (length_readFraction h)
    · exact Nat.le_succ_of_le (length_readExponent h)
    · exact Nat.le_succ_of_le (length_readExponent h)
    · cases h
      exact Nat.le_refl _

theorem length_readUnsigned {negative : Bool} {cs rest : List Char} {n : Number}
    (h : readUnsigned negative cs = .ok (n, rest)) : rest.length < cs.length := by
  unfold readUnsigned at h
  split at h
  · cases h
  · split at h
    · split at h
      · cases h
      · exact Nat.lt_succ_of_le (length_readRest h)
    · split at h
      · exact Nat.lt_succ_of_le (Nat.le_trans (length_readRest h) (length_absorb ..))
      · cases h

/-- Reading a number leaves no more than stood after its first character. -/
theorem length_read {c : Char} {cs rest : List Char} {n : Number}
    (h : read c cs = .ok (n, rest)) : rest.length ≤ cs.length := by
  unfold read at h
  split at h
  · exact Nat.le_of_lt (length_readUnsigned h)
  · exact Nat.le_of_lt_succ (length_readUnsigned h)

end Number

end HostBoundary.Json
