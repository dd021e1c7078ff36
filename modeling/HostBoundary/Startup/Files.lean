-- The files that a startup can read. What comes of a path is the system's
-- matter: the contents of a file, or an error of any kind. A directory of
-- regular files is one such system. Its paths are walked name by name, and
-- the first name that cannot be walked is the error.
import HostBoundary.Decimal.Signed
import HostBoundary.Text.Utf8

namespace HostBoundary

/-- Why the text of a file cannot be read. -/
inductive FileError where
  /-- An error of the system, in its words and with its number. -/
  | system (words : String) (number : Int32)
  /-- A path that the system is not asked for. -/
  | refused (words : String)
  /-- The contents are not UTF-8. -/
  | notText
  deriving DecidableEq

namespace FileError

def notFound : FileError := .system "No such file or directory" 2

def notDirectory : FileError := .system "Not a directory" 20

def isDirectory : FileError := .system "Is a directory" 21

def nameTooLong : FileError := .system "File name too long" 36

def message : FileError → String
  | .system words number =>
    words ++ " (os error " ++ String.ofList (Decimal.ofInt number.toInt) ++ ")"
  | .refused words => words
  | .notText => "stream did not contain valid UTF-8"

end FileError

/-- What comes of reading the file at a path, whatever the path is. -/
structure Files where
  read : Bytes → Except FileError Bytes

/-- The text of the file at a path. -/
def Files.readText (files : Files) (path : Bytes) : Except FileError String := do
  match Text.ofBytes? (← files.read path) with
  | some s => return s
  | none => .error .notText

/-! ## A directory -/

/-- Regular files by name, in the current directory. There are no others. -/
abbrev Directory := List (Bytes × Bytes)

namespace Directory

/-- The names between the slashes of a path. -/
def names : Bytes → List Bytes
  | [] => [[]]
  | b :: rest =>
    if b = 47 then [] :: names rest
    else match names rest with
      | [] => [[b]]
      | n :: ns => (b :: n) :: ns

/-- Names that lead back to the same directory. -/
def isStill (name : Bytes) : Bool := name = [] || name = [46]

def isParent (name : Bytes) : Bool := name = [46, 46]

/-- The longest name of a file. -/
def nameLimit : Nat := 255

/-- A path of this many bytes is too long. -/
def pathLimit : Nat := 4096

/-- Walks names outside the current directory. Nothing there is known, so no
name leads on. -/
def walkOutside : List Bytes → FileError
  | [] => .isDirectory
  | name :: rest =>
    if isStill name || isParent name then walkOutside rest
    else if nameLimit < name.length then .nameTooLong
    else .notFound

/-- Walks names from the current directory to the contents of a file. A file
ends the path. -/
def walk (d : Directory) : List Bytes → Except FileError Bytes
  | [] => .error .isDirectory
  | name :: rest =>
    if isStill name then walk d rest
    else if isParent name then .error (walkOutside rest)
    else if nameLimit < name.length then .error .nameTooLong
    else match d.lookup name with
      | none => .error .notFound
      | some contents => if rest = [] then .ok contents else .error .notDirectory

/-- The contents of the file at a path. A path that begins with a slash is
walked from the root. An empty path leads nowhere. -/
def read (d : Directory) (path : Bytes) : Except FileError Bytes :=
  if path = [] then .error .notFound
  else if pathLimit ≤ path.length then .error .nameTooLong
  else if path.head? = some 47 then .error (walkOutside (names path))
  else walk d (names path)

/-- The files of the directory, and no others. -/
def files (d : Directory) : Files := ⟨read d⟩

/-- A name that a file may have: it leads nowhere else, and it is not too long. -/
def Plain (name : Bytes) : Prop :=
  47 ∉ name ∧ isStill name = false ∧ isParent name = false ∧ name.length ≤ nameLimit

instance (name : Bytes) : Decidable (Plain name) :=
  inferInstanceAs (Decidable (_ ∧ _ ∧ _ ∧ _))

theorem names_of_not_mem {name : Bytes} (h : 47 ∉ name) : names name = [name] := by
  induction name with
  | nil => rfl
  | cons b rest ih =>
    rw [List.mem_cons, not_or] at h
    rw [names, if_neg (Ne.symm h.1), ih h.2]

/-- Under a plain name the directory has the contents that are listed for it, if any are. -/
theorem read_files {name : Bytes} (h : Plain name) (d : Directory) :
    d.files.read name = (d.lookup name).elim (.error .notFound) .ok := by
  obtain ⟨hslash, hstill, hparent, hshort⟩ := h
  have hsome : name ≠ [] := by
    rintro rfl
    cases hstill
  have hpath : ¬ pathLimit ≤ name.length := by
    unfold nameLimit at hshort
    unfold pathLimit
    omega
  have hroot : name.head? ≠ some 47 := fun hhead => hslash (List.mem_of_mem_head? hhead)
  show read d name = _
  rw [read, if_neg hsome, if_neg hpath, if_neg hroot, names_of_not_mem hslash, walk, hstill,
    hparent, if_neg (by simp), if_neg (by simp), if_neg (Nat.not_lt.2 hshort)]
  cases d.lookup name <;> rfl

end Directory

end HostBoundary
