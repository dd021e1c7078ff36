-- Which documents a preset is read from. The walk through the tokens takes
-- the ones of a value, and what it makes of them are the parts of the value:
-- a version and sections, each of them at most once.
import HostBoundary.Preset.Document
import HostBoundary.Proofs.Json.Lexemes

namespace HostBoundary

namespace Json

/-! ## Tokens from the front -/

/-- The tokens begin with ones of these forms, and the rest is behind them. -/
def Passes (ts : List Token) (fs : List Form) (rest : List Token) : Prop :=
  ∃ passed, ts = passed ++ rest ∧ passed.map Token.form = fs

@[simp] theorem passes_nil {ts rest : List Token} : Passes ts [] rest ↔ ts = rest := by
  simp [Passes]

@[simp] theorem passes_none {rest : List Token} {f : Form} {fs : List Form} :
    ¬ Passes [] (f :: fs) rest := by
  rintro ⟨_ | _, hts, hforms⟩
  · cases hforms
  · cases hts

@[simp] theorem passes_some {t : Token} {us rest : List Token} {f : Form} {fs : List Form} :
    Passes (t :: us) (f :: fs) rest ↔ t.form = f ∧ Passes us fs rest := by
  constructor
  · rintro ⟨_ | ⟨u, passed⟩, hts, hforms⟩
    · cases hforms
    · obtain ⟨rfl, rfl⟩ := List.cons.inj hts
      obtain ⟨rfl, rfl⟩ := List.cons.inj hforms
      exact ⟨rfl, passed, rfl, rfl⟩
  · rintro ⟨rfl, passed, rfl, rfl⟩
    exact ⟨t :: passed, rfl, rfl⟩

theorem passes_append {ts rest : List Token} {fs gs : List Form} :
    Passes ts (fs ++ gs) rest ↔ ∃ us, Passes ts fs us ∧ Passes us gs rest := by
  unfold Passes
  constructor
  · rintro ⟨passed, rfl, hforms⟩
    obtain ⟨xs, ys, rfl, hxs, hys⟩ := List.map_eq_append_iff.1 hforms
    exact ⟨ys ++ rest, ⟨xs, List.append_assoc .., hxs⟩, ys, rfl, hys⟩
  · rintro ⟨_, ⟨xs, rfl, rfl⟩, ys, rfl, rfl⟩
    exact ⟨xs ++ ys, (List.append_assoc ..).symm, List.map_append⟩

theorem passes_all {ts : List Token} {fs : List Form} :
    Passes ts fs [] ↔ ts.map Token.form = fs := by
  simp [Passes]

/-! ## Steps of the walk -/

theorem nameAfterComma_ne_none {ts rest : List Token} :
    nameAfterComma ts ≠ .ok (none, rest) := by
  cases ts with
  | nil => simp [nameAfterComma]
  | cons t us =>
    obtain ⟨_, f, _⟩ := t
    cases f <;> simp [nameAfterComma, memberName, Except.map]

theorem nameAfterComma_eq_some {ts rest : List Token} {name : String} :
    nameAfterComma ts = .ok (some name, rest) ↔ Passes ts [.text name] rest := by
  cases ts with
  | nil => simp [nameAfterComma]
  | cons t us =>
    obtain ⟨_, f, _⟩ := t
    cases f <;> simp [nameAfterComma, memberName, Except.map]

/-- What stands in front of the next member of an object or the next item of a list. -/
def lead (isFirst : Bool) : List Form := if isFirst then [] else [.comma]

theorem nextMember_eq_none {isFirst : Bool} {ts rest : List Token} :
    nextMember isFirst ts = .ok (none, rest) ↔ Passes ts [.closeBrace] rest := by
  cases ts with
  | nil => simp [nextMember]
  | cons t us =>
    obtain ⟨_, f, _⟩ := t
    cases f <;> cases isFirst <;> simp [nextMember, memberName, Except.map, nameAfterComma_ne_none]

theorem nextMember_eq_some {isFirst : Bool} {ts rest : List Token} {name : String} :
    nextMember isFirst ts = .ok (some name, rest) ↔
      Passes ts (lead isFirst ++ [.text name]) rest := by
  cases ts with
  | nil => cases isFirst <;> simp [nextMember, lead]
  | cons t us =>
    obtain ⟨_, f, _⟩ := t
    cases f <;> cases isFirst <;>
      simp [nextMember, memberName, lead, Except.map, nameAfterComma_eq_some]

theorem memberValue_eq_ok {ts rest : List Token} {t : Token} :
    memberValue ts = .ok (t, rest) ↔ Passes ts [.colon] (t :: rest) := by
  cases ts with
  | nil => simp [memberValue]
  | cons u us =>
    obtain ⟨_, f, _⟩ := u
    cases us with
    | nil => cases f <;> simp [memberValue, nextValue]
    | cons v us => cases f <;> simp [memberValue, nextValue]

theorem nextItem_eq_none {isFirst : Bool} {ts rest : List Token} :
    nextItem isFirst ts = .ok (none, rest) ↔ Passes ts [.closeBracket] rest := by
  cases ts with
  | nil => simp [nextItem]
  | cons t us =>
    obtain ⟨_, f, _⟩ := t
    cases isFirst with
    | true => cases f <;> simp [nextItem]
    | false =>
      cases us with
      | nil => cases f <;> simp [nextItem]
      | cons u us =>
        obtain ⟨_, g, _⟩ := u
        cases f <;> cases g <;> simp [nextItem]

/-- A closing bracket ends a list where an item could stand. -/
theorem nextItem_eq_some {isFirst : Bool} {ts rest : List Token} {t : Token} :
    nextItem isFirst ts = .ok (some t, rest) ↔
      Passes ts (lead isFirst) (t :: rest) ∧ t.form ≠ .closeBracket := by
  cases ts with
  | nil => cases isFirst <;> simp [nextItem, lead]
  | cons u us =>
    obtain ⟨_, f, _⟩ := u
    cases isFirst with
    | true => cases f <;> simp [nextItem, lead] <;> rintro rfl <;> simp
    | false =>
      cases us with
      | nil => cases f <;> simp [nextItem, lead]
      | cons v us =>
        obtain ⟨_, g, _⟩ := v
        cases f <;> cases g <;> simp [nextItem, lead] <;> rintro rfl <;> simp

theorem closeList_eq_ok {ts rest : List Token} :
    closeList ts = .ok ((), rest) ↔ Passes ts [.closeBracket] rest := by
  cases ts with
  | nil => simp [closeList]
  | cons t us =>
    obtain ⟨_, f, _⟩ := t
    cases us with
    | nil => cases f <;> simp [closeList]
    | cons u us =>
      obtain ⟨_, g, _⟩ := u
      cases f <;> cases g <;> simp [closeList]

/-! ## Tokens of the rest of a value -/

/-- The tokens from the brace of an object on, or from behind a member. -/
def membersFrom (isFirst : Bool) : List (String × Value) → List Form
  | [] => [.closeBrace]
  | (name, v) :: ms =>
    (lead isFirst ++ [.text name]) ++ ([.colon] ++ (v.forms ++ membersFrom false ms))

/-- The tokens from the bracket of a list on, or from behind an item. -/
def itemsFrom (isFirst : Bool) : List Value → List Form
  | [] => [.closeBracket]
  | v :: vs => lead isFirst ++ (v.forms ++ itemsFrom false vs)

theorem memberForms_eq (ms : List (String × Value)) : memberForms ms = membersFrom false ms := by
  induction ms with
  | nil => rfl
  | cons m ms ih =>
    rw [memberForms, ih]
    rfl

theorem itemForms_eq (vs : List Value) : itemForms vs = itemsFrom false vs := by
  induction vs with
  | nil => rfl
  | cons v vs ih =>
    rw [itemForms, ih]
    rfl

theorem forms_object (ms : List (String × Value)) :
    (Value.object ms).forms = .openBrace :: membersFrom true ms := by
  cases ms with
  | nil => rfl
  | cons m ms =>
    rw [Value.forms, memberForms_eq]
    rfl

theorem forms_list (vs : List Value) :
    (Value.list vs).forms = .openBracket :: itemsFrom true vs := by
  cases vs with
  | nil => rfl
  | cons v vs =>
    rw [Value.forms, itemForms_eq]
    rfl

theorem passes_value {ts rest : List Token} {v : Value} (h : Passes ts v.forms rest) :
    ∃ t us, ts = t :: us := by
  obtain ⟨fs, hv⟩ := v.forms_eq_cons
  cases ts with
  | nil =>
    rw [hv] at h
    exact absurd h passes_none
  | cons t us => exact ⟨t, us, rfl⟩

/-- A member is passed by its name, the colon and its value. -/
theorem passes_member {isFirst : Bool} {ts rest : List Token} {name : String} {v : Value}
    {ms : List (String × Value)} :
    Passes ts (membersFrom isFirst ((name, v) :: ms)) rest ↔
      ∃ us t vs ws, nextMember isFirst ts = .ok (some name, us) ∧ memberValue us = .ok (t, vs) ∧
        Passes (t :: vs) v.forms ws ∧ Passes ws (membersFrom false ms) rest := by
  simp only [nextMember_eq_some, memberValue_eq_ok]
  constructor
  · intro h
    obtain ⟨us, hname, h⟩ := passes_append.1 h
    obtain ⟨xs, hcolon, h⟩ := passes_append.1 h
    obtain ⟨ws, hvalue, hrest⟩ := passes_append.1 h
    obtain ⟨t, vs, rfl⟩ := passes_value hvalue
    exact ⟨us, t, vs, ws, hname, hcolon, hvalue, hrest⟩
  · rintro ⟨us, t, vs, ws, hname, hcolon, hvalue, hrest⟩
    exact passes_append.2 ⟨us, hname, passes_append.2 ⟨t :: vs, hcolon,
      passes_append.2 ⟨ws, hvalue, hrest⟩⟩⟩

theorem Value.opening_ne (v : Value) : v.opening ≠ .closeBracket := by
  cases v <;> nofun

theorem passes_item {isFirst : Bool} {ts rest : List Token} {v : Value} {vs : List Value} :
    Passes ts (itemsFrom isFirst (v :: vs)) rest ↔
      ∃ t us ws, nextItem isFirst ts = .ok (some t, us) ∧ Passes (t :: us) v.forms ws ∧
        Passes ws (itemsFrom false vs) rest := by
  simp only [nextItem_eq_some]
  constructor
  · intro h
    obtain ⟨xs, hlead, h⟩ := passes_append.1 h
    obtain ⟨ws, hvalue, hrest⟩ := passes_append.1 h
    obtain ⟨t, us, rfl⟩ := passes_value hvalue
    refine ⟨t, us, ws, ⟨hlead, ?_⟩, hvalue, hrest⟩
    obtain ⟨fs, hv⟩ := v.forms_eq_cons
    rw [hv, passes_some] at hvalue
    rw [hvalue.1]
    exact v.opening_ne
  · rintro ⟨t, us, ws, ⟨hlead, -⟩, hvalue, hrest⟩
    exact passes_append.2 ⟨t :: us, hlead, passes_append.2 ⟨ws, hvalue, hrest⟩⟩

end Json

/-! ## Values of flags -/

/-- What a document has for a flag's value. -/
def Kind.toJson : (k : Kind) → k.Value → Json.Value
  | .bool, b => .bool b
  | .int, v => .number (.whole v.toInt)

/-- The members of a section. -/
def Kind.members (k : Kind) (es : List (String × k.Value)) : List (String × Json.Value) :=
  es.map fun e => (e.1, k.toJson e.2)

theorem Kind.forms_toJson (k : Kind) (v : k.Value) :
    (k.toJson v).forms = [(k.toJson v).opening] := by
  cases k <;> rfl

namespace Preset.Document

open Json (Passes membersFrom itemsFrom lead)

theorem readValue_eq_ok {k : Kind} {t : Json.Token} {v : k.Value} :
    readValue k t = .ok v ↔ t.form = (k.toJson v).opening := by
  obtain ⟨start, f, after⟩ := t
  cases k with
  | bool => cases f <;> simp [readValue, Kind.toJson, Json.Value.opening]
  | int =>
    cases f with
    | number n =>
      cases n with
      | whole i =>
        have hread : readValue .int ⟨start, .number (.whole i), after⟩ = .ok v ↔
            Word.int32? i = some v := by
          simp only [readValue]
          split
          · rename_i w hw
            simp [hw]
          · rename_i hw
            simp [hw]
        rw [hread, Word.int32?_eq_some]
        simp [Kind.toJson, Json.Value.opening, eq_comm]
      | real x => simp [readValue, Kind.toJson, Json.Value.opening]
    | _ => simp [readValue, Kind.toJson, Json.Value.opening]

/-- The value of a flag is one token. -/
theorem passes_value_iff {k : Kind} {t : Json.Token} {us rest : List Json.Token} {v : k.Value} :
    Passes (t :: us) (k.toJson v).forms rest ↔ readValue k t = .ok v ∧ us = rest := by
  rw [k.forms_toJson, Json.passes_some, Json.passes_nil, readValue_eq_ok]

/-! ## Sections -/

section Entries

variable {k : Kind} {m m' : SortedMap String k.Value} {ts us rest : List Json.Token}

theorem readEntries_none {isFirst : Bool} (h : Json.nextMember isFirst ts = .ok (none, rest)) :
    readEntries k isFirst m ts = .ok (m, rest) := by
  rw [readEntries]
  split
  · rename_i heq
    rw [h] at heq
    cases heq
  · rename_i heq
    rw [h] at heq
    cases heq
    rfl
  · rename_i heq
    rw [h] at heq
    cases heq

theorem readEntries_some {isFirst : Bool} {name : String} {t : Json.Token} {v : k.Value}
    (h : Json.nextMember isFirst ts = .ok (some name, us))
    (h' : Json.memberValue us = .ok (t, rest)) (hv : readValue k t = .ok v) :
    readEntries k isFirst m ts = readEntries k false (m.insert name v) rest := by
  rw [readEntries]
  split
  · rename_i heq
    rw [h] at heq
    cases heq
  · rename_i heq
    rw [h] at heq
    cases heq
  · rename_i heq
    rw [h] at heq
    cases heq
    split
    · rename_i heq
      rw [h'] at heq
      cases heq
    · rename_i heq
      rw [h'] at heq
      cases heq
      rw [hv]

/-- A section is read from the tokens of its members, and a later value of a name stands. -/
theorem readEntries_eq_ok {isFirst : Bool} :
    readEntries k isFirst m ts = .ok (m', rest) ↔
      ∃ es, Passes ts (membersFrom isFirst (k.members es)) rest ∧
        m' = es.foldl (fun m e => m.insert e.1 e.2) m := by
  constructor
  · intro h
    fun_induction readEntries k isFirst m ts with
    | case1 => cases h
    | case2 isFirst m ts us hn =>
      cases h
      exact ⟨[], Json.nextMember_eq_none.1 hn, rfl⟩
    | case3 => cases h
    | case4 => cases h
    | case5 isFirst m ts name us hn t more hv v hr _ ih =>
      obtain ⟨es, hes, rfl⟩ := ih h
      refine ⟨(name, v) :: es, ?_, rfl⟩
      exact Json.passes_member.2 ⟨us, t, more, more, hn, hv, passes_value_iff.2 ⟨hr, rfl⟩, hes⟩
  · rintro ⟨es, hes, rfl⟩
    induction es generalizing isFirst m ts with
    | nil => exact readEntries_none (Json.nextMember_eq_none.2 hes)
    | cons e es ih =>
      obtain ⟨us, t, vs, ws, hn, hv, hvalue, hrest⟩ := Json.passes_member.1 hes
      obtain ⟨hr, rfl⟩ := passes_value_iff.1 hvalue
      rw [readEntries_some hn hv hr]
      exact ih hrest

end Entries

/-- The map of a section's entries in their order. -/
def toMap {k : Kind} (es : List (String × k.Value)) : SortedMap String k.Value :=
  es.foldl (fun m e => m.insert e.1 e.2) .empty

theorem readSection_eq_ok {k : Kind} {t : Json.Token} {us rest : List Json.Token}
    {m : SortedMap String k.Value} :
    readSection k t us = .ok (m, rest) ↔
      ∃ es, Passes (t :: us) (Json.Value.object (k.members es)).forms rest ∧ m = toMap es := by
  obtain ⟨start, f, after⟩ := t
  simp only [Json.forms_object, Json.passes_some]
  cases f with
  | openBrace => simp [readSection, readEntries_eq_ok, toMap]
  | _ => simp [readSection]

/-! ## Parts of a document -/

/-- One member of a preset with what it has for the preset. -/
inductive Part where
  | version (v : Option String)
  | entries (k : Kind) (es : List (String × k.Value))

def Member.ofKind : Kind → Member
  | .bool => .bools
  | .int => .ints

namespace Part

def member : Part → Member
  | .version _ => .version
  | .entries k _ => .ofKind k

/-- What stands in the document. -/
def value : Part → Json.Value
  | .version none => .null
  | .version (some s) => .text s
  | .entries k es => .object (k.members es)

/-- The member as it stands in an object. -/
def pair (part : Part) : String × Json.Value := (part.member.name, part.value)

end Part

/-- The parts with one more. -/
def Parts.add (p : Parts) : Part → Parts
  | .version v => { p with version := some v }
  | .entries .bool es => { p with bools := some (toMap es) }
  | .entries .int es => { p with ints := some (toMap es) }

theorem Parts.has_add (p : Parts) (part : Part) (member : Member) :
    (p.add part).has member = (decide (part.member = member) || p.has member) := by
  rcases part with _ | ⟨_ | _, _⟩ <;> cases member <;> rfl

theorem Parts.fresh_add {p : Parts} {part : Part} {parts : List Part} :
    (∀ q ∈ parts, (p.add part).has q.member = false) ↔
      part.member ∉ parts.map Part.member ∧ ∀ q ∈ parts, p.has q.member = false := by
  simp only [Parts.has_add, Bool.or_eq_false_iff, decide_eq_false_iff_not, List.mem_map,
    not_exists, not_and]
  constructor
  · intro h
    exact ⟨fun q hq he => (h q hq).1 he.symm, fun q hq => (h q hq).2⟩
  · rintro ⟨hne, hp⟩ q hq
    exact ⟨fun he => hne q hq he.symm, hp q hq⟩

theorem Member.ofName?_eq_some {name : String} {member : Member} :
    Member.ofName? name = some member ↔ name = member.name := by
  constructor
  · intro h
    unfold Member.ofName? at h
    split at h
    · cases h
      assumption
    · split at h
      · cases h
        assumption
      · split at h
        · cases h
          assumption
        · cases h
  · rintro rfl
    cases member <;> decide

theorem Parts.member_eq_ok {p : Parts} {name : String} {member : Member} :
    p.member name = .ok member ↔ name = member.name ∧ p.has member = false := by
  rw [← Member.ofName?_eq_some]
  unfold Parts.member
  cases Member.ofName? name with
  | none => simp
  | some found =>
    simp only [Option.some.injEq]
    by_cases hp : p.has found = true
    · rw [if_pos hp]
      constructor
      · rintro ⟨⟩
      · rintro ⟨rfl, hfresh⟩
        rw [hp] at hfresh
        cases hfresh
    · rw [if_neg hp]
      constructor
      · rintro ⟨⟩
        exact ⟨rfl, Bool.eq_false_iff.2 hp⟩
      · rintro ⟨rfl, -⟩
        rfl

/-- A version is one token. -/
theorem passes_version_iff {t : Json.Token} {us rest : List Json.Token} {v : Option String} :
    Passes (t :: us) (Part.version v).value.forms rest ↔ readVersion t = .ok v ∧ us = rest := by
  obtain ⟨start, f, after⟩ := t
  cases v <;> cases f <;> simp [Part.value, Json.Value.forms, readVersion]

/-- The value of a member is one of its parts. -/
theorem readMember_eq_ok {p p' : Parts} {member : Member} {t : Json.Token}
    {us rest : List Json.Token} :
    p.readMember member t us = .ok (p', rest) ↔
      ∃ part : Part, part.member = member ∧ Passes (t :: us) part.value.forms rest ∧
        p' = p.add part := by
  constructor
  · intro h
    cases member with
    | version =>
      obtain ⟨v, hv, hp⟩ := map_eq_ok.1 h
      cases hp
      exact ⟨.version v, rfl, passes_version_iff.2 ⟨hv, rfl⟩, rfl⟩
    | bools =>
      obtain ⟨s, hs, hp⟩ := map_eq_ok.1 h
      cases hp
      obtain ⟨es, hes, hm⟩ := readSection_eq_ok.1 hs
      exact ⟨.entries .bool es, rfl, hes, by rw [hm]; rfl⟩
    | ints =>
      obtain ⟨s, hs, hp⟩ := map_eq_ok.1 h
      cases hp
      obtain ⟨es, hes, hm⟩ := readSection_eq_ok.1 hs
      exact ⟨.entries .int es, rfl, hes, by rw [hm]; rfl⟩
  · rintro ⟨part, rfl, hvalue, rfl⟩
    rcases part with v | ⟨_ | _, es⟩
    · obtain ⟨hv, rfl⟩ := passes_version_iff.1 hvalue
      exact map_eq_ok.2 ⟨v, hv, rfl⟩
    · exact map_eq_ok.2 ⟨(toMap es, rest), readSection_eq_ok.2 ⟨es, hvalue, rfl⟩, rfl⟩
    · exact map_eq_ok.2 ⟨(toMap es, rest), readSection_eq_ok.2 ⟨es, hvalue, rfl⟩, rfl⟩

/-! ## Objects -/

section Members

variable {p p' p₁ : Parts} {ts us vs rest : List Json.Token}

theorem readMembers_none {isFirst : Bool} (h : Json.nextMember isFirst ts = .ok (none, rest)) :
    readMembers isFirst p ts = .ok (p, rest) := by
  rw [readMembers]
  split
  · rename_i heq
    rw [h] at heq
    cases heq
  · rename_i heq
    rw [h] at heq
    cases heq
    rfl
  · rename_i heq
    rw [h] at heq
    cases heq

theorem readMembers_some {isFirst : Bool} {name : String} {member : Member} {t : Json.Token}
    (h : Json.nextMember isFirst ts = .ok (some name, us)) (hm : p.member name = .ok member)
    (h' : Json.memberValue us = .ok (t, vs)) (h'' : p.readMember member t vs = .ok (p₁, rest)) :
    readMembers isFirst p ts = readMembers false p₁ rest := by
  rw [readMembers]
  split
  · rename_i heq
    rw [h] at heq
    cases heq
  · rename_i heq
    rw [h] at heq
    cases heq
  · rename_i heq
    rw [h] at heq
    cases heq
    rw [hm]
    dsimp only
    split
    · rename_i heq
      rw [h'] at heq
      cases heq
    · rename_i heq
      rw [h'] at heq
      cases heq
      split
      · rename_i heq
        rw [h''] at heq
        cases heq
      · rename_i heq
        rw [h''] at heq
        cases heq
        rfl

/-- An object is read from the tokens of members that are all different and
that were not read before. -/
theorem readMembers_eq_ok {isFirst : Bool} :
    readMembers isFirst p ts = .ok (p', rest) ↔
      ∃ parts : List Part, Passes ts (membersFrom isFirst (parts.map Part.pair)) rest ∧
        (parts.map Part.member).Nodup ∧ (∀ part ∈ parts, p.has part.member = false) ∧
        p' = parts.foldl Parts.add p := by
  constructor
  · intro h
    fun_induction readMembers isFirst p ts with
    | case1 => cases h
    | case2 isFirst p ts us hn =>
      cases h
      exact ⟨[], Json.nextMember_eq_none.1 hn, List.nodup_nil, by simp, rfl⟩
    | case3 => cases h
    | case4 => cases h
    | case5 => cases h
    | case6 isFirst p ts name us hn member hm t vs hv p₁ ws hr _ ih =>
      obtain ⟨rfl, hnew⟩ := Parts.member_eq_ok.1 hm
      obtain ⟨part, rfl, hvalue, rfl⟩ := readMember_eq_ok.1 hr
      obtain ⟨parts, hparts, hnodup, hfresh, rfl⟩ := ih h
      obtain ⟨hother, hparts'⟩ := Parts.fresh_add.1 hfresh
      exact ⟨part :: parts, Json.passes_member.2 ⟨us, t, vs, ws, hn, hv, hvalue, hparts⟩,
        List.nodup_cons.2 ⟨hother, hnodup⟩, List.forall_mem_cons.2 ⟨hnew, hparts'⟩, rfl⟩
  · rintro ⟨parts, hparts, hnodup, hfresh, rfl⟩
    induction parts generalizing isFirst p ts with
    | nil => exact readMembers_none (Json.nextMember_eq_none.2 hparts)
    | cons part parts ih =>
      obtain ⟨us, t, vs, ws, hn, hv, hvalue, hrest⟩ := Json.passes_member.1 hparts
      obtain ⟨hother, hnodup⟩ := List.nodup_cons.1 hnodup
      obtain ⟨hnew, hfresh⟩ := List.forall_mem_cons.1 hfresh
      have hm := Parts.member_eq_ok.2 ⟨rfl, hnew⟩
      have hr : p.readMember part.member t vs = .ok (p.add part, ws) :=
        readMember_eq_ok.2 ⟨part, rfl, hvalue, rfl⟩
      rw [readMembers_some hn hm hv hr]
      exact ih hrest hnodup (Parts.fresh_add.2 ⟨hother, hfresh⟩)

end Members

/-! ## Lists -/

theorem grammar_eq_ok {α : Type} {x : Except (Json.Fault Json.GrammarError) α} {a : α} :
    grammar x = .ok a ↔ x = .ok a := by
  cases x with
  | error f =>
    constructor
    · rintro ⟨⟩
    · rintro ⟨⟩
  | ok b =>
    constructor
    · rintro ⟨⟩
      rfl
    · rintro ⟨⟩
      rfl

/-- A list is read from the tokens of items for the first members in their order. -/
theorem readItems_eq_ok {isFirst : Bool} {p p' : Parts} {members : List Member}
    {ts rest : List Json.Token} :
    readItems isFirst p members ts = .ok (p', rest) ↔
      ∃ parts : List Part, Passes ts (itemsFrom isFirst (parts.map Part.value)) rest ∧
        parts.map Part.member <+: members ∧ p' = parts.foldl Parts.add p := by
  constructor
  · intro h
    induction members generalizing isFirst p ts with
    | nil =>
      obtain ⟨⟨_, us⟩, hclose, hp⟩ := map_eq_ok.1 h
      cases hp
      exact ⟨[], Json.closeList_eq_ok.1 (grammar_eq_ok.1 hclose), List.nil_prefix, rfl⟩
    | cons member members ih =>
      obtain ⟨⟨item, us⟩, hitem, hread⟩ := Json.Text.bind_eq_ok.1 h
      cases item with
      | none =>
        cases hread
        exact ⟨[], Json.nextItem_eq_none.1 (grammar_eq_ok.1 hitem), List.nil_prefix, rfl⟩
      | some t =>
        obtain ⟨⟨p₁, ws⟩, hr, hrest⟩ := Json.Text.bind_eq_ok.1 hread
        obtain ⟨part, rfl, hvalue, rfl⟩ := readMember_eq_ok.1 hr
        obtain ⟨parts, hparts, hprefix, rfl⟩ := ih hrest
        exact ⟨part :: parts,
          Json.passes_item.2 ⟨t, us, ws, grammar_eq_ok.1 hitem, hvalue, hparts⟩,
          List.cons_prefix_cons.2 ⟨rfl, hprefix⟩, rfl⟩
  · rintro ⟨parts, hparts, hprefix, rfl⟩
    induction parts generalizing isFirst p members ts with
    | nil =>
      cases members with
      | nil =>
        exact map_eq_ok.2 ⟨((), rest), grammar_eq_ok.2 (Json.closeList_eq_ok.2 hparts), rfl⟩
      | cons member members =>
        exact Json.Text.bind_eq_ok.2
          ⟨(none, rest), grammar_eq_ok.2 (Json.nextItem_eq_none.2 hparts), rfl⟩
    | cons part parts ih =>
      cases members with
      | nil => exact absurd (List.prefix_nil.1 hprefix) (by simp)
      | cons member members =>
        obtain ⟨rfl, htail⟩ := List.cons_prefix_cons.1 hprefix
        obtain ⟨t, us, ws, hitem, hvalue, hrest⟩ := Json.passes_item.1 hparts
        have hr : p.readMember part.member t us = .ok (p.add part, ws) :=
          readMember_eq_ok.2 ⟨part, rfl, hvalue, rfl⟩
        exact Json.Text.bind_eq_ok.2 ⟨(some t, us), grammar_eq_ok.2 hitem,
          Json.Text.bind_eq_ok.2 ⟨(p.add part, ws), hr, ih hrest htail⟩⟩

/-! ## Documents -/

/-- The parts as a document has them: members of an object, all of them
different, or items of a list, from the first member on. -/
inductive Lays : List Part → Json.Value → Prop
  | object {parts : List Part} : (parts.map Part.member).Nodup →
      Lays parts (.object (parts.map Part.pair))
  | list {parts : List Part} : parts.map Part.member <+: [.version, .bools, .ints] →
      Lays parts (.list (parts.map Part.value))

theorem Lays.opening {parts : List Part} {v : Json.Value} (h : Lays parts v) :
    v.opening = .openBracket ∨ v.opening = .openBrace := by
  cases h with
  | object => exact Or.inr rfl
  | list => exact Or.inl rfl

/-- The preset of the parts. -/
def ofParts (parts : List Part) : Preset := (parts.foldl Parts.add .empty).toPreset

theorem has_empty (member : Member) : Parts.empty.has member = false := by
  cases member <;> rfl

theorem readTop_eq_ok {p : Parts} {ts rest : List Json.Token} :
    readTop ts = .ok (p, rest) ↔
      ∃ parts v, Lays parts v ∧ Passes ts v.forms rest ∧ p = parts.foldl Parts.add .empty := by
  cases ts with
  | nil =>
    constructor
    · rintro ⟨⟩
    · rintro ⟨_, _, _, hpasses, _⟩
      obtain ⟨_, _, ⟨⟩⟩ := Json.passes_value hpasses
  | cons t us =>
    constructor
    · intro h
      obtain ⟨⟨_, _⟩, hnext, h⟩ := Json.Text.bind_eq_ok.1 h
      cases hnext
      dsimp only at h
      split at h
      · rename_i ht
        obtain ⟨parts, hparts, hnodup, -, rfl⟩ := readMembers_eq_ok.1 h
        refine ⟨parts, _, .object hnodup, ?_, rfl⟩
        rw [Json.forms_object, Json.passes_some]
        exact ⟨ht, hparts⟩
      · rename_i ht
        obtain ⟨parts, hparts, hprefix, rfl⟩ := readItems_eq_ok.1 h
        refine ⟨parts, _, .list hprefix, ?_, rfl⟩
        rw [Json.forms_list, Json.passes_some]
        exact ⟨ht, hparts⟩
      · cases h
    · rintro ⟨parts, _, hlays, hpasses, rfl⟩
      refine Json.Text.bind_eq_ok.2 ⟨(t, us), rfl, ?_⟩
      cases hlays with
      | object hnodup =>
        rw [Json.forms_object, Json.passes_some] at hpasses
        simp only [hpasses.1]
        exact readMembers_eq_ok.2
          ⟨parts, hpasses.2, hnodup, fun part _ => has_empty part.member, rfl⟩
      | list hprefix =>
        rw [Json.forms_list, Json.passes_some] at hpasses
        simp only [hpasses.1]
        exact readItems_eq_ok.2 ⟨parts, hpasses.2, hprefix, rfl⟩

/-- A document is read where it lays out parts, and gives their preset. -/
theorem read_eq_ok {p : Preset} {ts : List Json.Token} :
    read ts = .ok p ↔
      ∃ parts v, Lays parts v ∧ ts.map Json.Token.form = v.forms ∧ p = ofParts parts := by
  have hend : ∀ rest, grammar (Json.endOfDocument rest) = .ok () ↔ rest = [] := by
    intro rest
    rw [grammar_eq_ok]
    cases rest <;> simp [Json.endOfDocument]
  constructor
  · intro h
    obtain ⟨⟨q, rest⟩, htop, h⟩ := Json.Text.bind_eq_ok.1 h
    obtain ⟨_, hrest, h⟩ := Json.Text.bind_eq_ok.1 h
    obtain rfl := (hend rest).1 hrest
    obtain ⟨parts, v, hlays, hpasses, rfl⟩ := readTop_eq_ok.1 htop
    cases h
    exact ⟨parts, v, hlays, Json.passes_all.1 hpasses, rfl⟩
  · rintro ⟨parts, v, hlays, hforms, rfl⟩
    have htop : readTop ts = .ok (parts.foldl Parts.add .empty, []) :=
      readTop_eq_ok.2 ⟨parts, v, hlays, Json.passes_all.2 hforms, rfl⟩
    exact Json.Text.bind_eq_ok.2 ⟨_, htop, Json.Text.bind_eq_ok.2 ⟨(), (hend []).2 rfl, rfl⟩⟩

end Preset.Document

open Preset.Document in
/-- A text is a preset where it is a document that lays out parts, and the
version that they state is the supported one. -/
theorem Preset.ofDocument_eq_ok {text : String} {p : Preset} :
    ofDocument text = .ok p ↔
      ∃ parts v, Lays parts v ∧ Json.IsDocument text v ∧ p = ofParts parts ∧
        ∀ s, p.version = some s → s = schemaVersion := by
  have hread : ∀ q, read (Json.tokens text.toList) = .ok q ↔
      ∃ parts v, Lays parts v ∧ Json.IsDocument text v ∧ q = ofParts parts := by
    intro q
    simp only [read_eq_ok, Json.isDocument_iff]
    rfl
  constructor
  · intro h
    unfold ofDocument at h
    split at h
    · cases h
    · rename_i q hq
      obtain ⟨parts, v, hlays, hdocument, hparts⟩ := (hread q).1 hq
      split at h
      · rename_i hv
        cases h
        exact ⟨parts, v, hlays, hdocument, hparts, by simp [hv]⟩
      · rename_i hv
        split at h
        · cases h
          exact ⟨parts, v, hlays, hdocument, hparts, by simp_all⟩
        · cases h
  · rintro ⟨parts, v, hlays, hdocument, hparts, hversion⟩
    unfold ofDocument
    rw [(hread p).2 ⟨parts, v, hlays, hdocument, hparts⟩]
    cases hp : p.version with
    | none => simp [hp]
    | some s => simp [hp, hversion s hp]

end HostBoundary
