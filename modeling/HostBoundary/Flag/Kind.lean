-- The two kinds of flag, the values that each holds, and what is kept once
-- for each kind.
import HostBoundary.Text.Blank
import HostBoundary.Text.Quoted
import HostBoundary.Decimal.Signed

namespace HostBoundary

inductive Kind where
  | bool
  | int
  deriving DecidableEq, Repr

namespace Kind

def text : Kind → String
  | .bool => "bool"
  | .int => "int"

/-- The number that stands for the kind at the boundary. -/
def tag : Kind → Int32
  | .bool => 0
  | .int => 1

def ofTag? (t : Int32) : Option Kind :=
  if t = tag .bool then some .bool else if t = tag .int then some .int else none

@[simp] theorem ofTag?_tag (k : Kind) : ofTag? k.tag = some k := by
  cases k <;> decide

theorem ofTag?_eq_some {t : Int32} {k : Kind} : ofTag? t = some k ↔ t = k.tag := by
  constructor
  · intro h
    unfold ofTag? at h
    split at h
    · cases h
      assumption
    · split at h
      · cases h
        assumption
      · cases h
  · rintro rfl
    exact ofTag?_tag k

/-- A text that names no kind, without the blanks around it. -/
structure ParseError where
  text : String
  deriving DecidableEq

def ParseError.message (e : ParseError) : String :=
  "invalid flag kind " ++ Text.quoted e.text ++ " (expected one of: bool, int)"

/-- Reads a kind's name. Blanks around it do not count, and case does. -/
def parse (s : String) : Except ParseError Kind :=
  let name := String.ofList (Text.trim s.toList)
  if name = text .bool then .ok .bool
  else if name = text .int then .ok .int
  else .error ⟨name⟩

/-- The values that flags of a kind hold. -/
abbrev Value : Kind → Type
  | .bool => Bool
  | .int => Int32

instance : (k : Kind) → DecidableEq k.Value
  | .bool => inferInstanceAs (DecidableEq Bool)
  | .int => inferInstanceAs (DecidableEq Int32)

def valueText : (k : Kind) → k.Value → String
  | .bool, true => "true"
  | .bool, false => "false"
  | .int, i => String.ofList (Decimal.ofInt i.toInt)

end Kind

/-! ## One for each kind -/

structure PerKind (F : Kind → Type) where
  bools : F .bool
  ints : F .int

namespace PerKind

variable {F : Kind → Type}

def get (p : PerKind F) : (k : Kind) → F k
  | .bool => p.bools
  | .int => p.ints

def modify (p : PerKind F) : (k : Kind) → (F k → F k) → PerKind F
  | .bool, f => { p with bools := f p.bools }
  | .int, f => { p with ints := f p.ints }

@[simp] theorem get_modify_self (p : PerKind F) (k : Kind) (f : F k → F k) :
    (p.modify k f).get k = f (p.get k) := by
  cases k <;> rfl

theorem get_modify_of_ne (p : PerKind F) {k k' : Kind} (f : F k → F k) (h : k ≠ k') :
    (p.modify k f).get k' = p.get k' := by
  cases k <;> cases k' <;> simp_all [modify, get]

@[ext] theorem ext {p p' : PerKind F} (h : ∀ k, p.get k = p'.get k) : p = p' := by
  cases p
  cases p'
  congr
  · exact h .bool
  · exact h .int

end PerKind

end HostBoundary
