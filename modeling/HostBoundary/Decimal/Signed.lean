-- Integers in decimal. Writing gives one form: no plus sign, no leading
-- zeros. Reading takes an optional sign and any ASCII digits, and
-- `readInt32?` takes only what fits in 32 bits.
import HostBoundary.Word

namespace HostBoundary.Decimal

/-- The digits of `n`, without leading zeros. -/
def ofNat (n : Nat) : List Char := Nat.toDigits 10 n

def ofInt (i : Int) : List Char :=
  if i < 0 then '-' :: ofNat i.natAbs else ofNat i.natAbs

/-- One digit or more, and nothing else. -/
def readNat? (cs : List Char) : Option Nat :=
  if cs ≠ [] ∧ cs.all Char.isDigit = true then some (Nat.ofDigitChars 10 cs 0) else none

def readInt? : List Char → Option Int
  | '+' :: cs => (readNat? cs).map fun n => (n : Int)
  | '-' :: cs => (readNat? cs).map fun n => -(n : Int)
  | cs => (readNat? cs).map fun n => (n : Int)

def readInt32? (cs : List Char) : Option Int32 := (readInt? cs).bind Word.int32?

/-! ## Laws -/

@[simp] theorem readNat?_ofNat (n : Nat) : readNat? (ofNat n) = some n := by
  have h1 : ofNat n ≠ [] := Nat.toDigits_ne_nil
  have h2 : (ofNat n).all Char.isDigit = true :=
    List.all_eq_true.2 fun _ h => Nat.isDigit_of_mem_toDigits (by decide) (by decide) h
  simp only [readNat?, h1, h2, ne_eq, not_false_eq_true, and_self, if_true]
  exact congrArg some (Nat.ofDigitChars_toDigits (by decide) (by decide))

theorem isDigit_of_mem_ofNat {n : Nat} {c : Char} (h : c ∈ ofNat n) : c.isDigit = true :=
  Nat.isDigit_of_mem_toDigits (by decide) (by decide) h

end HostBoundary.Decimal
