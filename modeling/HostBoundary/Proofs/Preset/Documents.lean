-- The laws of presets as documents. An object is a preset where its members
-- are the ones of presets and hold what they may, and then the last value of
-- a name in a section stands. The order of members does not matter, nor does
-- the order of names in a section.
import HostBoundary.Proofs.Preset.Sections

namespace HostBoundary.Preset.Document

open Json (IsDocument)

/-! ## What an object may have -/

/-- The value may stand for a flag of the kind: true or false, or a whole
number of 32 bits. -/
def Admits : Kind → Json.Value → Prop
  | .bool, v => ∃ b, v = .bool b
  | .int, v => ∃ i, v = .number (.whole i) ∧ InInt32 i

/-- The members of a preset, each at most once and each with what it may have. -/
structure Acceptable (ms : List (String × Json.Value)) : Prop where
  names : ∀ m ∈ ms, ∃ member : Member, m.1 = member.name
  once : (ms.map Prod.fst).Nodup
  version : ∀ v, (Member.name .version, v) ∈ ms → v = .null ∨ v = .text schemaVersion
  sections : ∀ k v, ((Member.ofKind k).name, v) ∈ ms →
    ∃ es, v = .object es ∧ ∀ e ∈ es, Admits k e.2

/-- The last value of a name. -/
def lastOf {α : Type} (name : String) : List (String × α) → Option α
  | [] => none
  | e :: es => (lastOf name es).or (if e.1 = name then some e.2 else none)

/-- The section of the kind has the value as the last one of the name. -/
def StatedIn (ms : List (String × Json.Value)) (k : Kind) (name : String) (x : k.Value) : Prop :=
  ∃ es, ((Member.ofKind k).name, .object es) ∈ ms ∧ lastOf name es = some (k.toJson x)

/-- What an object says as a preset. -/
structure IsPresetOf (ms : List (String × Json.Value)) (p : Preset) : Prop where
  acceptable : Acceptable ms
  version : ∀ s, p.version = some s ↔ (Member.name .version, .text s) ∈ ms
  entries : ∀ k name x, p.find? k name = some x ↔ StatedIn ms k name x

/-! ## The last value of a name -/

theorem toJson_inj {k : Kind} {x y : k.Value} (h : k.toJson x = k.toJson y) : x = y := by
  cases k with
  | bool =>
    cases h
    rfl
  | int =>
    simp only [Kind.toJson, Json.Value.number.injEq, Json.Number.whole.injEq] at h
    exact Int32.toInt_inj.1 h

theorem lastOf_members {k : Kind} (name : String) (es : List (String × k.Value)) :
    lastOf name (k.members es) = (lastOf name es).map k.toJson := by
  induction es with
  | nil => rfl
  | cons e es ih =>
    have hcons : k.members (e :: es) = (e.1, k.toJson e.2) :: k.members es := rfl
    rw [hcons, lastOf, lastOf, ih]
    cases lastOf name es with
    | some v => rfl
    | none => by_cases hn : e.1 = name <;> simp [hn]

theorem lastOf_filter {α : Type} (name : String) (es : List (String × α)) :
    lastOf name (es.filter fun e => e.1 = name) = lastOf name es := by
  induction es with
  | nil => rfl
  | cons e es ih =>
    by_cases hn : e.1 = name
    · rw [List.filter_cons_of_pos (by simpa using hn), lastOf, lastOf, ih]
    · rw [List.filter_cons_of_neg (by simpa using hn), ih, lastOf, if_neg hn, Option.or_none]

theorem find?_foldl_insert {k : Kind} (es : List (String × k.Value))
    (m : SortedMap String k.Value) (name : String) :
    (es.foldl (fun m e => m.insert e.1 e.2) m).find? name = (lastOf name es).or (m.find? name) := by
  induction es generalizing m with
  | nil => rfl
  | cons e es ih =>
    rw [List.foldl_cons, ih, SortedMap.find?_insert, lastOf, Option.or_assoc]
    by_cases hn : e.1 = name <;> simp [hn]

theorem find?_toMap {k : Kind} (es : List (String × k.Value)) (name : String) :
    (toMap es).find? name = lastOf name es := by
  rw [toMap, find?_foldl_insert, SortedMap.find?_empty, Option.or_none]

/-! ## The preset of parts -/

section Parts

variable {parts : List Part}

/-- What was read of other members stays as it is. -/
theorem foldl_add_keeps {α : Type} (get : Parts → α) {member : Member}
    (hget : ∀ (p : Parts) part, part.member ≠ member → get (p.add part) = get p)
    (h : member ∉ parts.map Part.member) (p : Parts) :
    get (parts.foldl Parts.add p) = get p := by
  induction parts generalizing p with
  | nil => rfl
  | cons part parts ih =>
    rw [List.map_cons, List.mem_cons, not_or] at h
    rw [List.foldl_cons, ih h.2, hget p part (Ne.symm h.1)]

/-- Of parts that are all different, each is what stands of its member. -/
theorem foldl_add_mem {α : Type} (get : Parts → α) {part : Part} {a : α}
    (hget : ∀ (p : Parts) q, q.member ≠ part.member → get (p.add q) = get p)
    (hpart : ∀ p : Parts, get (p.add part) = a) (hnodup : (parts.map Part.member).Nodup)
    (hmem : part ∈ parts) (p : Parts) : get (parts.foldl Parts.add p) = a := by
  induction parts generalizing p with
  | nil => cases hmem
  | cons q parts ih =>
    obtain ⟨hq, hnodup⟩ := List.nodup_cons.1 hnodup
    rw [List.foldl_cons]
    rcases List.mem_cons.1 hmem with rfl | hmem
    · rw [foldl_add_keeps get hget hq, hpart]
    · exact ih hnodup hmem _

/-- The section of a kind, if it was read. -/
def Parts.section? (p : Parts) : (k : Kind) → Option (SortedMap String k.Value)
  | .bool => p.bools
  | .int => p.ints

theorem find?_toPreset (p : Parts) (k : Kind) (name : String) :
    p.toPreset.find? k name = (p.section? k).bind fun m => m.find? name := by
  cases k with
  | bool => cases h : p.bools <;> simp [Parts.toPreset, find?, PerKind.get, Parts.section?, h]
  | int => cases h : p.ints <;> simp [Parts.toPreset, find?, PerKind.get, Parts.section?, h]

theorem section?_add_entries (p : Parts) (k : Kind) (es : List (String × k.Value)) :
    (p.add (.entries k es)).section? k = some (toMap es) := by
  cases k <;> rfl

theorem section?_add_of_ne {k : Kind} {part : Part} (h : part.member ≠ .ofKind k) (p : Parts) :
    (p.add part).section? k = p.section? k := by
  rcases part with _ | ⟨_ | _, _⟩ <;> cases k
  all_goals first | rfl | exact absurd rfl h

theorem exists_entries {k : Kind} {part : Part} (h : part.member = .ofKind k) :
    ∃ es, part = .entries k es := by
  rcases part with _ | ⟨_ | _, es⟩ <;> cases k
  all_goals first | exact ⟨es, rfl⟩ | cases h

theorem exists_version {part : Part} (h : part.member = .version) :
    ∃ v, part = .version v := by
  rcases part with v | ⟨_ | _, _⟩
  · exact ⟨v, rfl⟩
  · cases h
  · cases h

theorem find?_ofParts (h : (parts.map Part.member).Nodup) {k : Kind} {name : String}
    {x : k.Value} :
    (ofParts parts).find? k name = some x ↔
      ∃ es, .entries k es ∈ parts ∧ lastOf name es = some x := by
  have hfind : ∀ es, .entries k es ∈ parts →
      (ofParts parts).find? k name = lastOf name es := by
    intro es hes
    have hsection : (parts.foldl Parts.add .empty).section? k = some (toMap es) :=
      foldl_add_mem (fun p => p.section? k) (fun p _ hq => section?_add_of_ne hq p)
        (fun p => section?_add_entries p k es) h hes _
    rw [ofParts, find?_toPreset, hsection, Option.bind_some, find?_toMap]
  constructor
  · intro hx
    by_cases hmem : Member.ofKind k ∈ parts.map Part.member
    · obtain ⟨part, hpart, hmember⟩ := List.mem_map.1 hmem
      obtain ⟨es, rfl⟩ := exists_entries hmember
      exact ⟨es, hpart, hfind es hpart ▸ hx⟩
    · have hsection : (parts.foldl Parts.add .empty).section? k = Parts.empty.section? k :=
        foldl_add_keeps (fun p => p.section? k) (fun p _ hq => section?_add_of_ne hq p) hmem _
      rw [ofParts, find?_toPreset, hsection] at hx
      cases k <;> cases hx
  · rintro ⟨es, hes, hx⟩
    rw [hfind es hes, hx]

theorem version_add_of_ne {part : Part} (h : part.member ≠ .version) (p : Parts) :
    (p.add part).version = p.version := by
  rcases part with _ | ⟨_ | _, _⟩
  · exact absurd rfl h
  · rfl
  · rfl

theorem version_ofParts (h : (parts.map Part.member).Nodup) {s : String} :
    (ofParts parts).version = some s ↔ .version (some s) ∈ parts := by
  have hversion : ∀ v, .version v ∈ parts → (ofParts parts).version = v := by
    intro v hv
    have hlast : (parts.foldl Parts.add .empty).version = some v :=
      foldl_add_mem Parts.version (fun p _ hq => version_add_of_ne hq p) (fun _ => rfl) h hv _
    rw [ofParts, Parts.toPreset, hlast]
    rfl
  constructor
  · intro hs
    by_cases hmem : Member.version ∈ parts.map Part.member
    · obtain ⟨part, hpart, hmember⟩ := List.mem_map.1 hmem
      obtain ⟨v, rfl⟩ := exists_version hmember
      rw [hversion v hpart] at hs
      exact hs ▸ hpart
    · have hnone : (parts.foldl Parts.add .empty).version = none :=
        foldl_add_keeps Parts.version (fun p _ hq => version_add_of_ne hq p) hmem _
      rw [ofParts, Parts.toPreset, hnone] at hs
      cases hs
  · exact hversion (some s)

end Parts

/-! ## Acceptable members are parts -/

theorem exists_map_eq {α β : Type} {f : α → β} {bs : List β} (h : ∀ b ∈ bs, ∃ a, f a = b) :
    ∃ as : List α, as.map f = bs := by
  induction bs with
  | nil => exact ⟨[], rfl⟩
  | cons b bs ih =>
    obtain ⟨⟨a, rfl⟩, hbs⟩ := List.forall_mem_cons.1 h
    obtain ⟨as, rfl⟩ := ih hbs
    exact ⟨a :: as, rfl⟩

theorem Member.name_inj {member member' : Member} (h : member.name = member'.name) :
    member = member' := by
  have hfound := Member.ofName?_eq_some.2 h
  rw [Member.ofName?_eq_some.2 rfl] at hfound
  exact Option.some.inj hfound

theorem admits_iff {k : Kind} {v : Json.Value} : Admits k v ↔ ∃ x, k.toJson x = v := by
  cases k with
  | bool =>
    constructor
    · rintro ⟨b, rfl⟩
      exact ⟨b, rfl⟩
    · rintro ⟨b, rfl⟩
      exact ⟨b, rfl⟩
  | int =>
    constructor
    · rintro ⟨i, rfl, hi⟩
      refine ⟨Int32.ofInt i, ?_⟩
      rw [Kind.toJson, Int32.toInt_ofInt_of_le hi.1 hi.2]
    · rintro ⟨x, rfl⟩
      exact ⟨x.toInt, rfl, Int32.le_toInt x, Int32.toInt_lt x⟩

theorem nodup_names {parts : List Part} :
    ((parts.map Part.pair).map Prod.fst).Nodup ↔ (parts.map Part.member).Nodup := by
  simp only [List.Nodup, List.pairwise_map]
  constructor
  · exact List.Pairwise.imp fun h he => h (congrArg Member.name he)
  · exact List.Pairwise.imp fun h he => h (Member.name_inj he)

theorem mem_pairs {parts : List Part} {member : Member} {v : Json.Value} :
    (member.name, v) ∈ parts.map Part.pair ↔
      ∃ part ∈ parts, part.member = member ∧ part.value = v := by
  rw [List.mem_map]
  constructor
  · rintro ⟨part, hpart, he⟩
    obtain ⟨hname, rfl⟩ := Prod.mk.inj he
    exact ⟨part, hpart, Member.name_inj hname, rfl⟩
  · rintro ⟨part, hpart, rfl, rfl⟩
    exact ⟨part, hpart, rfl⟩

theorem exists_members {k : Kind} {es : List (String × Json.Value)}
    (h : ∀ e ∈ es, Admits k e.2) : ∃ xs, k.members xs = es := by
  refine exists_map_eq fun e he => ?_
  obtain ⟨x, hx⟩ := admits_iff.1 (h e he)
  exact ⟨(e.1, x), by rw [hx]⟩

theorem Acceptable.exists_parts {ms : List (String × Json.Value)} (h : Acceptable ms) :
    ∃ parts : List Part, parts.map Part.pair = ms := by
  have hsection : ∀ k v, ((Member.ofKind k).name, v) ∈ ms →
      ∃ part : Part, part.pair = ((Member.ofKind k).name, v) := by
    intro k v hm
    obtain ⟨es, rfl, hes⟩ := h.sections k v hm
    obtain ⟨xs, rfl⟩ := exists_members hes
    exact ⟨.entries k xs, rfl⟩
  refine exists_map_eq fun m hm => ?_
  obtain ⟨name, v⟩ := m
  obtain ⟨member, hname⟩ := h.names _ hm
  obtain rfl : name = member.name := hname
  cases member with
  | version =>
    rcases h.version v hm with rfl | rfl
    · exact ⟨.version none, rfl⟩
    · exact ⟨.version (some schemaVersion), rfl⟩
  | bools => exact hsection .bool v hm
  | ints => exact hsection .int v hm

theorem acceptable_pairs {parts : List Part} (hnodup : (parts.map Part.member).Nodup)
    (hversion : ∀ s, .version (some s) ∈ parts → s = schemaVersion) :
    Acceptable (parts.map Part.pair) where
  names := by
    rintro m hm
    obtain ⟨part, -, rfl⟩ := List.mem_map.1 hm
    exact ⟨part.member, rfl⟩
  once := nodup_names.2 hnodup
  version := by
    intro v hm
    obtain ⟨part, hpart, hmember, rfl⟩ := mem_pairs.1 hm
    obtain ⟨v, rfl⟩ := exists_version hmember
    cases v with
    | none => exact Or.inl rfl
    | some s => exact Or.inr (congrArg Json.Value.text (hversion s hpart))
  sections := by
    intro k v hm
    obtain ⟨part, -, hmember, rfl⟩ := mem_pairs.1 hm
    obtain ⟨es, rfl⟩ := exists_entries hmember
    refine ⟨k.members es, rfl, ?_⟩
    intro e he
    obtain ⟨x, -, rfl⟩ := List.mem_map.1 he
    exact admits_iff.2 ⟨x.2, rfl⟩

/-- The preset of parts is the one that their members say. -/
theorem isPresetOf_ofParts {parts : List Part} (hnodup : (parts.map Part.member).Nodup)
    (hversion : ∀ s, (ofParts parts).version = some s → s = schemaVersion) :
    IsPresetOf (parts.map Part.pair) (ofParts parts) where
  acceptable := acceptable_pairs hnodup fun s hs => hversion s ((version_ofParts hnodup).2 hs)
  version := by
    intro s
    rw [version_ofParts hnodup, mem_pairs]
    constructor
    · intro hs
      exact ⟨_, hs, rfl, rfl⟩
    · rintro ⟨part, hpart, hmember, hvalue⟩
      obtain ⟨v, rfl⟩ := exists_version hmember
      cases v with
      | none => cases hvalue
      | some s' =>
        cases hvalue
        exact hpart
  entries := by
    intro k name x
    rw [find?_ofParts hnodup]
    constructor
    · rintro ⟨es, hes, hx⟩
      refine ⟨k.members es, mem_pairs.2 ⟨_, hes, rfl, rfl⟩, ?_⟩
      rw [lastOf_members, hx]
      rfl
    · rintro ⟨es, hes, hx⟩
      obtain ⟨part, hpart, hmember, hvalue⟩ := mem_pairs.1 hes
      obtain ⟨xs, rfl⟩ := exists_entries hmember
      cases hvalue
      rw [lastOf_members, Option.map_eq_some_iff] at hx
      obtain ⟨y, hy, hxy⟩ := hx
      exact ⟨xs, hpart, toJson_inj hxy ▸ hy⟩

theorem IsPresetOf.unique {ms : List (String × Json.Value)} {p q : Preset}
    (hp : IsPresetOf ms p) (hq : IsPresetOf ms q) : p = q := by
  apply eq_of_find?
  · exact Option.ext fun s => (hp.version s).trans (hq.version s).symm
  · exact fun k name => Option.ext fun x => (hp.entries k name x).trans (hq.entries k name x).symm

theorem Acceptable.version_ofParts {parts : List Part} (h : Acceptable (parts.map Part.pair))
    (s : String) (hs : (ofParts parts).version = some s) : s = schemaVersion := by
  have hnodup := nodup_names.1 h.once
  have hmem := mem_pairs.2 ⟨_, (Document.version_ofParts hnodup).1 hs, rfl, rfl⟩
  rcases h.version _ hmem with hnull | htext
  · cases hnull
  · cases htext
    rfl

theorem Acceptable.exists_lays {ms : List (String × Json.Value)} (h : Acceptable ms) :
    ∃ parts, Lays parts (.object ms) ∧ IsPresetOf ms (ofParts parts) ∧
      ∀ s, (ofParts parts).version = some s → s = schemaVersion := by
  obtain ⟨parts, rfl⟩ := h.exists_parts
  have hnodup := nodup_names.1 h.once
  exact ⟨parts, .object hnodup, isPresetOf_ofParts hnodup h.version_ofParts, h.version_ofParts⟩

/-- A document that is an object gives the preset that its members say, if they say one. -/
theorem ofDocument_object {text : String} {ms : List (String × Json.Value)}
    (h : IsDocument text (.object ms)) {p : Preset} :
    ofDocument text = .ok p ↔ IsPresetOf ms p := by
  constructor
  · intro hp
    obtain ⟨parts, v, hlays, hv, rfl, hversion⟩ := ofDocument_eq_ok.1 hp
    obtain rfl := hv.unique h
    cases hlays with
    | object hnodup => exact isPresetOf_ofParts hnodup hversion
  · intro hp
    obtain ⟨parts, hlays, hparts, hversion⟩ := hp.acceptable.exists_lays
    rw [hp.unique hparts]
    exact ofDocument_eq_ok.2 ⟨parts, _, hlays, h, rfl, hversion⟩

theorem exists_ofDocument_iff {text : String} {ms : List (String × Json.Value)}
    (h : IsDocument text (.object ms)) : (∃ p, ofDocument text = .ok p) ↔ Acceptable ms := by
  simp only [ofDocument_object h]
  constructor
  · rintro ⟨p, hp⟩
    exact hp.acceptable
  · intro hms
    obtain ⟨parts, -, hparts, -⟩ := hms.exists_lays
    exact ⟨_, hparts⟩

/-! ## What a list may have -/

/-- The members of a preset in the places that their values have in a list. -/
def places : List Member := [.version, .bools, .ints]

theorem zip_places {parts : List Part} {members : List Member}
    (h : parts.map Part.member <+: members) :
    (members.map Member.name).zip (parts.map Part.value) = parts.map Part.pair := by
  induction parts generalizing members with
  | nil => simp
  | cons part parts ih =>
    cases members with
    | nil => exact absurd (List.prefix_nil.1 h) (by simp)
    | cons member members =>
      obtain ⟨rfl, htail⟩ := List.cons_prefix_cons.1 h
      simp [ih htail, Part.pair]

theorem parts_of_zip {parts : List Part} {members : List Member} {vs : List Json.Value}
    (hlength : vs.length ≤ members.length)
    (h : parts.map Part.pair = (members.map Member.name).zip vs) :
    parts.map Part.value = vs ∧ parts.map Part.member <+: members := by
  induction vs generalizing parts members with
  | nil =>
    rw [List.zip_nil_right, List.map_eq_nil_iff] at h
    subst h
    exact ⟨rfl, List.nil_prefix⟩
  | cons v vs ih =>
    cases members with
    | nil => simp at hlength
    | cons member members =>
      obtain ⟨part, rest, rfl, hpair, hrest⟩ := List.map_eq_cons_iff.1 h
      obtain ⟨hname, hvalue⟩ := Prod.mk.inj hpair
      obtain ⟨hvalues, hmembers⟩ := ih (Nat.le_of_succ_le_succ hlength) hrest
      refine ⟨?_, ?_⟩
      · rw [List.map_cons, hvalue, hvalues]
      · rw [List.map_cons]
        exact List.cons_prefix_cons.2 ⟨Member.name_inj hname, hmembers⟩

/-- A document that is a list gives the preset that the object with its items
in their places says. The list may end early. -/
theorem ofDocument_list {text : String} {vs : List Json.Value} (h : IsDocument text (.list vs))
    {p : Preset} : ofDocument text = .ok p ↔
      vs.length ≤ places.length ∧ IsPresetOf ((places.map Member.name).zip vs) p := by
  constructor
  · intro hp
    obtain ⟨parts, v, hlays, hv, rfl, hversion⟩ := ofDocument_eq_ok.1 hp
    obtain rfl := hv.unique h
    cases hlays with
    | list hprefix =>
      have hnodup : (parts.map Part.member).Nodup := hprefix.sublist.nodup (by decide)
      have hlength : (parts.map Part.value).length ≤ places.length := by
        simpa [places] using hprefix.length_le
      have hzip : (places.map Member.name).zip (parts.map Part.value) = parts.map Part.pair :=
        zip_places hprefix
      refine ⟨hlength, ?_⟩
      rw [hzip]
      exact isPresetOf_ofParts hnodup hversion
  · rintro ⟨hlength, hp⟩
    obtain ⟨parts, hparts⟩ := hp.acceptable.exists_parts
    obtain ⟨rfl, hprefix⟩ := parts_of_zip hlength hparts
    rw [← hparts] at hp
    have hversion := hp.acceptable.version_ofParts
    have hsame := hp.unique (isPresetOf_ofParts (nodup_names.1 hp.acceptable.once) hversion)
    rw [hsame]
    exact ofDocument_eq_ok.2 ⟨parts, _, .list hprefix, h, rfl, hversion⟩

/-! ## The order of members -/

/-- Both lists have the same entries of each name, in the same order. -/
def SameByName (es es' : List (String × Json.Value)) : Prop :=
  ∀ name, es.filter (fun e => e.1 = name) = es'.filter fun e => e.1 = name

/-- An object with its members in another order, and with the names inside of
its sections in another order. -/
inductive Rearranged : List (String × Json.Value) → List (String × Json.Value) → Prop
  | members {ms ms' : List (String × Json.Value)} : ms.Perm ms' → Rearranged ms ms'
  | entries {before after : List (String × Json.Value)} {name : String}
      {es es' : List (String × Json.Value)} : SameByName es es' →
      Rearranged (before ++ (name, .object es) :: after) (before ++ (name, .object es') :: after)
  | trans {ms ms' ms'' : List (String × Json.Value)} : Rearranged ms ms' →
      Rearranged ms' ms'' → Rearranged ms ms''

theorem Rearranged.symm {ms ms' : List (String × Json.Value)} (h : Rearranged ms ms') :
    Rearranged ms' ms := by
  induction h with
  | members h => exact .members h.symm
  | entries h => exact .entries fun name => (h name).symm
  | trans _ _ ih ih' => exact .trans ih' ih

theorem SameByName.trans {es es' es'' : List (String × Json.Value)} (h : SameByName es es')
    (h' : SameByName es' es'') : SameByName es es'' := fun name => (h name).trans (h' name)

theorem SameByName.mem {es es' : List (String × Json.Value)} (h : SameByName es es')
    {e : String × Json.Value} (he : e ∈ es') : e ∈ es := by
  have hmem : e ∈ es'.filter fun e' => e'.1 = e.1 := List.mem_filter.2 ⟨he, by simp⟩
  rw [← h e.1] at hmem
  exact (List.mem_filter.1 hmem).1

theorem SameByName.lastOf_eq {es es' : List (String × Json.Value)} (h : SameByName es es')
    (name : String) : lastOf name es = lastOf name es' := by
  rw [← lastOf_filter name es, h name, lastOf_filter]

/-- A member of an object and the one that takes its place. -/
inductive Alike : String × Json.Value → String × Json.Value → Prop
  | same (m : String × Json.Value) : Alike m m
  | entries {name : String} {es es' : List (String × Json.Value)} : SameByName es es' →
      Alike (name, .object es) (name, .object es')

theorem Alike.trans {m m' m'' : String × Json.Value} (h : Alike m m') (h' : Alike m' m'') :
    Alike m m'' := by
  cases h with
  | same => exact h'
  | entries h =>
    cases h' with
    | same => exact .entries h
    | entries h' => exact .entries (h.trans h')

namespace Rearranged

variable {ms ms' : List (String × Json.Value)}

theorem names_perm (h : Rearranged ms ms') : (ms.map Prod.fst).Perm (ms'.map Prod.fst) := by
  induction h with
  | members h => exact h.map Prod.fst
  | entries => simp
  | trans _ _ ih ih' => exact ih.trans ih'

/-- Each member has taken the place of one. -/
theorem exists_alike (h : Rearranged ms ms') {m' : String × Json.Value} (hm' : m' ∈ ms') :
    ∃ m ∈ ms, Alike m m' := by
  induction h generalizing m' with
  | members h => exact ⟨m', h.mem_iff.2 hm', .same m'⟩
  | entries h =>
    rw [List.mem_append, List.mem_cons] at hm'
    rcases hm' with hm' | rfl | hm'
    · exact ⟨m', by simp [hm'], .same m'⟩
    · exact ⟨_, by simp, .entries h⟩
    · exact ⟨m', by simp [hm'], .same m'⟩
  | trans _ _ ih ih' =>
    obtain ⟨m₁, hm₁, halike'⟩ := ih' hm'
    obtain ⟨m, hm, halike⟩ := ih hm₁
    exact ⟨m, hm, halike.trans halike'⟩

theorem acceptable (h : Rearranged ms ms') (hms : Acceptable ms) : Acceptable ms' where
  names := by
    intro m' hm'
    obtain ⟨m, hm, halike⟩ := h.exists_alike hm'
    cases halike with
    | same => exact hms.names _ hm
    | entries =>
      obtain ⟨member, hname⟩ := hms.names _ hm
      exact ⟨member, hname⟩
  once := h.names_perm.nodup_iff.1 hms.once
  version := by
    intro v hm'
    obtain ⟨m, hm, halike⟩ := h.exists_alike hm'
    cases halike with
    | same => exact hms.version v hm
    | entries => rcases hms.version _ hm with hv | hv <;> cases hv
  sections := by
    intro k v hm'
    obtain ⟨m, hm, halike⟩ := h.exists_alike hm'
    cases halike with
    | same => exact hms.sections k v hm
    | entries hes =>
      obtain ⟨_, hv, hadmits⟩ := hms.sections k _ hm
      cases hv
      exact ⟨_, rfl, fun e he => hadmits e (hes.mem he)⟩

theorem mem_version (h : Rearranged ms ms') {s : String}
    (hm' : (Member.name .version, .text s) ∈ ms') : (Member.name .version, .text s) ∈ ms := by
  obtain ⟨m, hm, halike⟩ := h.exists_alike hm'
  cases halike with
  | same => exact hm

theorem statedIn (h : Rearranged ms ms') {k : Kind} {name : String} {x : k.Value}
    (hx : StatedIn ms' k name x) : StatedIn ms k name x := by
  obtain ⟨es', hm', hlast⟩ := hx
  obtain ⟨m, hm, halike⟩ := h.exists_alike hm'
  cases halike with
  | same => exact ⟨es', hm, hlast⟩
  | entries hes => exact ⟨_, hm, (hes.lastOf_eq name).trans hlast⟩

theorem isPresetOf (h : Rearranged ms ms') {p : Preset} (hp : IsPresetOf ms p) :
    IsPresetOf ms' p where
  acceptable := h.acceptable hp.acceptable
  version s := (hp.version s).trans ⟨h.symm.mem_version, h.mem_version⟩
  entries k name x := (hp.entries k name x).trans ⟨h.symm.statedIn, h.statedIn⟩

end Rearranged

end HostBoundary.Preset.Document

namespace HostBoundary.Preset

open Document

/-- An object is a preset exactly where its members are acceptable, and then
the last value of a name in the section of its kind stands, in whatever order
the members and the names are. What is no document is no preset, and neither is
a document with more than blanks behind it. -/
theorem an_object_is_the_preset_of_its_sections (text : String) :
    (∀ ms, Json.IsDocument text (.object ms) →
      ((∃ p, ofDocument text = .ok p) ↔ Acceptable ms) ∧
      (∀ p, ofDocument text = .ok p →
        ∀ k name x, p.find? k name = some x ↔ StatedIn ms k name x) ∧
      ∀ text' ms', Json.IsDocument text' (.object ms') → Rearranged ms ms' →
        ∀ p, ofDocument text = .ok p ↔ ofDocument text' = .ok p) ∧
    (∀ p, ofDocument text = .ok p → ∃ v, Json.IsDocument text v) ∧
    ∀ v rest, Json.IsDocument text v → (∃ c ∈ rest.toList, Json.isGap c = false) →
      ∀ p, ofDocument (text ++ rest) ≠ .ok p := by
  refine ⟨?_, ?_, ?_⟩
  · intro ms hms
    refine ⟨exists_ofDocument_iff hms, ?_, ?_⟩
    · intro p hp
      exact ((ofDocument_object hms).1 hp).entries
    · intro text' ms' hms' harranged p
      rw [ofDocument_object hms, ofDocument_object hms']
      exact ⟨harranged.isPresetOf, harranged.symm.isPresetOf⟩
  · intro p hp
    obtain ⟨_, v, _, hv, _⟩ := ofDocument_eq_ok.1 hp
    exact ⟨v, hv⟩
  · intro v rest hv hrest p hp
    obtain ⟨_, w, hlays, hw, _⟩ := ofDocument_eq_ok.1 hp
    exact Json.not_isDocument_append hv hrest hlays.opening hw

/-- Of a name that stands twice in a section the second value stands. Another
name may stand between the two or behind them. -/
theorem a_repeated_name_has_its_second_value :
    let fog (b : Bool) : String × Json.Value := ("fog", .bool b)
    let rain : String × Json.Value := ("rain", .bool true)
    let text := (Json.Value.object
      [("bool", .object [fog true, rain, fog false]), ("schema_version", .null)]).toText
    let text' := (Json.Value.object
      [("schema_version", .null), ("bool", .object [fog true, fog false, rain])]).toText
    (∃ p, ofDocument text = .ok p ∧ ofDocument text' = .ok p ∧ p.find? .bool "fog" = some false ∧
      ∃ v, Json.IsDocument text v) ∧ ∀ p, ofDocument (text ++ "x") ≠ .ok p := by
  intro fog rain text text'
  have hdocument : Json.IsDocument text _ := Json.isDocument_iff.2 (Json.says_toText rfl)
  have hdocument' : Json.IsDocument text' _ := Json.isDocument_iff.2 (Json.says_toText rfl)
  have hacceptable : Acceptable
      (List.map Part.pair
        [.entries .bool [("fog", true), ("rain", true), ("fog", false)], .version none]) :=
    acceptable_pairs (by decide) (by simp)
  have hnames : SameByName [fog true, rain, fog false] [fog true, fog false, rain] := by
    intro name
    by_cases hrain : "rain" = name
    · subst hrain
      rfl
    · by_cases hfog : "fog" = name <;> simp [fog, rain, hfog, hrain]
  have hrearranged : Rearranged
      [("bool", .object [fog true, rain, fog false]), ("schema_version", .null)]
      [("schema_version", .null), ("bool", .object [fog true, fog false, rain])] := by
    refine .trans (.members (List.Perm.swap ..)) ?_
    exact @Rearranged.entries [("schema_version", .null)] [] "bool" _ _ hnames
  obtain ⟨hobject, hvalid, htrailing⟩ := an_object_is_the_preset_of_its_sections text
  obtain ⟨haccepted, hentries, hsame⟩ := hobject _ hdocument
  obtain ⟨p, hp⟩ := haccepted.2 hacceptable
  refine ⟨⟨p, hp, (hsame text' _ hdocument' hrearranged p).1 hp, ?_, hvalid p hp⟩, ?_⟩
  · exact (hentries p hp .bool "fog" false).2 ⟨_, List.mem_cons_self, rfl⟩
  · exact htrailing _ "x" hdocument ⟨'x', by decide, by decide⟩

end HostBoundary.Preset
