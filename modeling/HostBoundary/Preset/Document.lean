-- Presets written as JSON documents: an object with the members
-- `schema_version`, `bool` and `int`, each at most once and each free to be
-- missing, or a list of their values in that order. Other members are
-- refused. Inside a section a later value of a name stands.
import HostBoundary.Json.Walk
import HostBoundary.Preset.Basic

namespace HostBoundary

namespace Preset.Document

/-- The members of a preset. -/
inductive Member where
  | version
  | bools
  | ints
  deriving DecidableEq

def Member.name : Member → String
  | .version => "schema_version"
  | .bools => "bool"
  | .ints => "int"

def Member.ofName? (s : String) : Option Member :=
  if s = name .version then some .version
  else if s = name .bools then some .bools
  else if s = name .ints then some .ints
  else none

/-- A value of the wrong type, as a message shows it. -/
inductive Found where
  | null
  | bool (b : Bool)
  | number (n : Json.Number)
  | text (s : String)
  | list
  | object

def Found.describe : Found → String
  | .null => "null"
  | .bool true => "boolean `true`"
  | .bool false => "boolean `false`"
  | .number (.whole i) => "integer `" ++ String.ofList (Decimal.ofInt i) ++ "`"
  | .number (.real x) => "floating point `" ++ Decimal.ofFloat x ++ "`"
  | .text s => "string " ++ Text.quoted s
  | .list => "sequence"
  | .object => "map"

/-- What a place in the document may hold. -/
inductive Wanted where
  | preset
  | text
  | entries
  | bool
  | int32

def Wanted.describe : Wanted → String
  | .preset => "struct FlagPreset"
  | .text => "a string"
  | .entries => "a map"
  | .bool => "a boolean"
  | .int32 => "i32"

inductive Cause where
  | grammar (e : Json.GrammarError)
  | wrongType (found : Found) (wanted : Wanted)
  /-- An integer that does not fit in 32 bits. -/
  | outOfRange (i : Int)
  | unknownMember (name : String)
  | duplicateMember (member : Member)

def Cause.describe : Cause → String
  | .grammar e => e.message
  | .wrongType found wanted =>
    "invalid type: " ++ found.describe ++ ", expected " ++ wanted.describe
  | .outOfRange i =>
    "invalid value: " ++ (Found.number (.whole i)).describe ++ ", expected "
      ++ Wanted.int32.describe
  | .unknownMember name =>
    "unknown field `" ++ name ++ "`, expected one of `schema_version`, `bool`, `int`"
  | .duplicateMember member => "duplicate field `" ++ member.name ++ "`"

abbrev DocumentFault := Json.Fault Cause

/-- A step of the walk through the tokens, with faults of the grammar as causes. -/
def grammar {α : Type} (x : Except (Json.Fault Json.GrammarError) α) : Except DocumentFault α :=
  x.mapError fun f => ⟨.grammar f.cause, f.left⟩

/-! ## Values -/

/-- The fault of a token that begins no value that is wanted. A scalar is
wrong at its end, a list or object before its bracket. -/
def mismatch (wanted : Wanted) (t : Json.Token) : DocumentFault :=
  match t.form with
  | .null => .before (.wrongType .null wanted) t.after
  | .bool b => .before (.wrongType (.bool b) wanted) t.after
  | .number n => .before (.wrongType (.number n) wanted) t.after
  | .text s => .before (.wrongType (.text s) wanted) t.after
  | .openBracket => .before (.wrongType .list wanted) t.start
  | .openBrace => .before (.wrongType .object wanted) t.start
  | .brokenText f => ⟨.grammar f.cause, f.left⟩
  | .brokenWord f => ⟨.grammar f.cause, f.left⟩
  | _ => .at (.grammar .expectedValue) t.start

/-- A version is a text, or null for none. -/
def readVersion (t : Json.Token) : Except DocumentFault (Option String) :=
  match t.form with
  | .null => .ok none
  | .text s => .ok (some s)
  | _ => .error (mismatch .text t)

/-- A flag's value of the kind. -/
def readValue (k : Kind) (t : Json.Token) : Except DocumentFault k.Value :=
  match k, t.form with
  | .bool, .bool b => .ok b
  | .bool, _ => .error (mismatch .bool t)
  | .int, .number (.whole i) =>
    match Word.int32? i with
    | some v => .ok v
    | none => .error (.before (.outOfRange i) t.after)
  | .int, _ => .error (mismatch .int32 t)

/-! ## Sections -/

/-- The rest of a section, from its brace or from behind a value. -/
def readEntries (k : Kind) (isFirst : Bool) (m : SortedMap String k.Value) (ts : List Json.Token) :
    Except DocumentFault (SortedMap String k.Value × List Json.Token) :=
  match h : Json.nextMember isFirst ts with
  | .error f => .error ⟨.grammar f.cause, f.left⟩
  | .ok (none, rest) => .ok (m, rest)
  | .ok (some name, rest) =>
    match h' : Json.memberValue rest with
    | .error f => .error ⟨.grammar f.cause, f.left⟩
    | .ok (t, more) =>
      match readValue k t with
      | .error f => .error f
      | .ok v =>
        have : more.length < ts.length :=
          Nat.lt_trans (Json.length_memberValue h') (Json.length_nextMember h)
        readEntries k false (m.insert name v) more
termination_by ts.length

theorem length_readEntries {k : Kind} {isFirst : Bool} {m m' : SortedMap String k.Value}
    {ts rest : List Json.Token} (h : readEntries k isFirst m ts = .ok (m', rest)) :
    rest.length < ts.length := by
  fun_induction readEntries k isFirst m ts with
  | case1 => cases h
  | case2 isFirst m ts rest' hn =>
    simp only [Except.ok.injEq, Prod.mk.injEq] at h
    obtain ⟨_, rfl⟩ := h
    exact Json.length_nextMember hn
  | case3 => cases h
  | case4 => cases h
  | case5 isFirst m ts name rest' hn t more hv v hr hlt ih => exact Nat.lt_trans (ih h) hlt

/-- A section that begins with the token `t`. -/
def readSection (k : Kind) (t : Json.Token) (rest : List Json.Token) :
    Except DocumentFault (SortedMap String k.Value × List Json.Token) :=
  match t.form with
  | .openBrace => readEntries k true .empty rest
  | _ => .error (mismatch .entries t)

theorem length_readSection {k : Kind} {t : Json.Token} {m : SortedMap String k.Value}
    {ts rest : List Json.Token} (h : readSection k t ts = .ok (m, rest)) :
    rest.length < ts.length := by
  unfold readSection at h
  split at h
  · exact length_readEntries h
  · cases h

/-! ## The whole document -/

/-- The members read so far. -/
structure Parts where
  version : Option (Option String)
  bools : Option (SortedMap String Bool)
  ints : Option (SortedMap String Int32)

namespace Parts

def empty : Parts := ⟨none, none, none⟩

def has (p : Parts) : Member → Bool
  | .version => p.version.isSome
  | .bools => p.bools.isSome
  | .ints => p.ints.isSome

/-- The preset, with what is missing left empty. -/
def toPreset (p : Parts) : Preset where
  version := p.version.getD none
  entries := { bools := p.bools.getD .empty, ints := p.ints.getD .empty }

/-- The parts with the value of one more member, which begins with the token `t`. -/
def readMember (p : Parts) (member : Member) (t : Json.Token) (rest : List Json.Token) :
    Except DocumentFault (Parts × List Json.Token) :=
  match member with
  | .version => (readVersion t).map fun v => ({ p with version := some v }, rest)
  | .bools => (readSection .bool t rest).map fun s => ({ p with bools := some s.1 }, s.2)
  | .ints => (readSection .int t rest).map fun s => ({ p with ints := some s.1 }, s.2)

end Parts

theorem map_eq_ok {ε α β : Type} {x : Except ε α} {f : α → β} {b : β} :
    x.map f = .ok b ↔ ∃ a, x = .ok a ∧ f a = b := by
  cases x with
  | error e => simp [Except.map]
  | ok a => simp [Except.map]

theorem length_readMember {p p' : Parts} {member : Member} {t : Json.Token}
    {ts rest : List Json.Token} (h : p.readMember member t ts = .ok (p', rest)) :
    rest.length ≤ ts.length := by
  cases member with
  | version =>
    obtain ⟨_, _, h⟩ := map_eq_ok.1 h
    cases h
    exact Nat.le_refl _
  | bools =>
    obtain ⟨⟨s, us⟩, hs, h⟩ := map_eq_ok.1 h
    cases h
    exact Nat.le_of_lt (length_readSection hs)
  | ints =>
    obtain ⟨⟨s, us⟩, hs, h⟩ := map_eq_ok.1 h
    cases h
    exact Nat.le_of_lt (length_readSection hs)

/-- A name that cannot stand is at fault at the token after it: before that
token, or after it where it closes the object. -/
def nameFault (cause : Cause) : List Json.Token → DocumentFault
  | [] => .atEnd cause
  | t :: _ =>
    match t.form with
    | .closeBrace => .before cause t.after
    | _ => .before cause t.start

/-- The member of a name. It must be a member of presets that was not read before. -/
def Parts.member (p : Parts) (name : String) : Except Cause Member :=
  match Member.ofName? name with
  | none => .error (.unknownMember name)
  | some member => if p.has member then .error (.duplicateMember member) else .ok member

/-- The rest of the object, from its brace or from behind a value. -/
def readMembers (isFirst : Bool) (p : Parts) (ts : List Json.Token) :
    Except DocumentFault (Parts × List Json.Token) :=
  match h : Json.nextMember isFirst ts with
  | .error f => .error ⟨.grammar f.cause, f.left⟩
  | .ok (none, rest) => .ok (p, rest)
  | .ok (some name, rest) =>
    match p.member name with
    | .error cause => .error (nameFault cause rest)
    | .ok member =>
      match h' : Json.memberValue rest with
      | .error f => .error ⟨.grammar f.cause, f.left⟩
      | .ok (t, more) =>
        match h'' : p.readMember member t more with
        | .error f => .error f
        | .ok (p', rest') =>
          have : rest'.length < ts.length :=
            Nat.lt_of_le_of_lt (length_readMember h'')
              (Nat.lt_trans (Json.length_memberValue h') (Json.length_nextMember h))
          readMembers false p' rest'
termination_by ts.length

/-- The values of a list, for these members in order. Trailing items may be missing. -/
def readItems (isFirst : Bool) (p : Parts) :
    List Member → List Json.Token → Except DocumentFault (Parts × List Json.Token)
  | [], ts => (grammar (Json.closeList ts)).map fun s => (p, s.2)
  | member :: members, ts => do
    let (item, rest) ← grammar (Json.nextItem isFirst ts)
    match item with
    | none => return (p, rest)
    | some t =>
      let (p', rest') ← p.readMember member t rest
      readItems false p' members rest'

def readTop (ts : List Json.Token) : Except DocumentFault (Parts × List Json.Token) := do
  let (t, rest) ← grammar (Json.nextValue ts)
  match t.form with
  | .openBrace => readMembers true .empty rest
  | .openBracket => readItems true .empty [.version, .bools, .ints] rest
  | _ => .error (mismatch .preset t)

/-- The preset that the tokens of a document state, of whatever version. -/
def read (ts : List Json.Token) : Except DocumentFault Preset := do
  let (p, rest) ← readTop ts
  grammar (Json.endOfDocument rest)
  return p.toPreset

end Preset.Document

/-- Why a document is no preset. -/
inductive DocumentError where
  /-- The text cannot be read. -/
  | unreadable (cause : Preset.Document.Cause) (place : Json.Position)
  | unsupportedVersion (version : String)

namespace Preset

def schemaVersion : String := "vmbridge.flags.preset@0.1.0"

/-- The preset of a document. A version that is stated must be the supported
one. It is looked at last. -/
def ofDocument (s : String) : Except DocumentError Preset :=
  match Document.read (Json.tokens s.toList) with
  | .error f => .error (.unreadable f.cause (Json.Position.ofLeft s f.left))
  | .ok p =>
    match p.version with
    | none => .ok p
    | some v => if v = schemaVersion then .ok p else .error (.unsupportedVersion v)

end Preset

def DocumentError.message : DocumentError → String
  | .unreadable cause place =>
    "parse flag preset JSON: " ++ cause.describe
      ++ " at line " ++ String.ofList (Decimal.ofNat place.line)
      ++ " column " ++ String.ofList (Decimal.ofNat place.column)
  | .unsupportedVersion version =>
    "unsupported flag preset schema_version " ++ Text.quoted version
      ++ " (expected " ++ Text.quoted Preset.schemaVersion ++ ")"

end HostBoundary
