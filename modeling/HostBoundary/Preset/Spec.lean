-- Presets written on one line: pieces `name=value` between semicolons and
-- commas. Blanks around a piece, a name or a value do not count, and blank
-- pieces are skipped. The value tells the kind of flag.
import HostBoundary.Preset.Basic

namespace HostBoundary

/-- Why a piece is no entry. Texts are kept without the blanks around them. -/
inductive SpecError where
  | missingValue (entry : String)
  | emptyName (entry : String)
  | badValue (name value : String)
  deriving DecidableEq

def SpecError.message : SpecError → String
  | .missingValue entry => "flag entry " ++ Text.quoted entry ++ " is not of the form name=value"
  | .emptyName entry => "flag entry " ++ Text.quoted entry ++ " has an empty name"
  | .badValue name value => "flag " ++ Text.quoted name ++ " has value " ++ Text.quoted value
    ++ " (expected true, false, or a 32-bit integer)"

namespace Preset.Spec

def isSeparator (c : Char) : Bool := c = ';' || c = ','

/-- The text cut at every separator. There is always a first piece. -/
def pieces : List Char → List (List Char)
  | [] => [[]]
  | c :: rest =>
    if isSeparator c then [] :: pieces rest
    else match pieces rest with
      | [] => [[c]]
      | p :: ps => (c :: p) :: ps

theorem pieces_ne_nil (cs : List Char) : pieces cs ≠ [] := by
  cases cs with
  | nil => simp [pieces]
  | cons c rest =>
    simp only [pieces]
    split
    · simp
    · split <;> simp

/-- A separator cuts the text into the pieces of both sides. -/
theorem pieces_append (cs cs' : List Char) {c : Char} (h : isSeparator c = true) :
    pieces (cs ++ c :: cs') = pieces cs ++ pieces cs' := by
  induction cs with
  | nil => simp [pieces, h]
  | cons x rest ih =>
    simp only [List.cons_append, pieces, ih]
    split
    · rfl
    · cases hp : pieces rest with
      | nil => exact absurd hp (pieces_ne_nil rest)
      | cons p ps => rfl

/-- The entries of a text: its pieces without the blanks around them, but for blank pieces. -/
def entries (cs : List Char) : List (List Char) :=
  ((pieces cs).map Text.trim).filter fun e => !e.isEmpty

/-- The setting of a name and a value: `true` and `false` are for bool flags,
integers for int flags. -/
def setting? (name : String) (value : List Char) : Option Setting :=
  if value = ['t', 'r', 'u', 'e'] then some ⟨.bool, name, true⟩
  else if value = ['f', 'a', 'l', 's', 'e'] then some ⟨.bool, name, false⟩
  else (Decimal.readInt32? value).map fun i => ⟨.int, name, i⟩

/-- Reads an entry. The first equals sign ends the name. -/
def readEntry (entry : List Char) : Except SpecError Setting :=
  match entry.dropWhile (· != '=') with
  | [] => .error (.missingValue (String.ofList entry))
  | _ :: after =>
    let name := String.ofList (Text.trim (entry.takeWhile (· != '=')))
    let value := Text.trim after
    if name = "" then .error (.emptyName (String.ofList entry))
    else match setting? name value with
      | some s => .ok s
      | none => .error (.badValue name (String.ofList value))

/-- Reads entries one after the other into a preset. The first fault ends it. -/
def readInto (p : Preset) (es : List (List Char)) : Except SpecError Preset :=
  es.foldlM (fun p e => (readEntry e).map p.put) p

end Preset.Spec

/-- The preset that a text states. -/
def Preset.ofSpec (s : String) : Except SpecError Preset :=
  Spec.readInto .empty (Spec.entries s.toList)

end HostBoundary
