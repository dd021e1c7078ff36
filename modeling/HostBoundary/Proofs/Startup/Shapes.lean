-- The law of shapes. A preset is read from an object of named sections, and
-- from nothing else but a list of their values. A file that is neither ends a
-- strict start.
import HostBoundary.Proofs.Preset.Documents
import HostBoundary.Proofs.Startup.Resolution

namespace HostBoundary

open Preset.Document
open Json (IsDocument)

/-- A file that is no preset ends a strict start. -/
theorem Config.resolve_undecodable {env : Environment} {files : Files} {path : Bytes}
    {text : String} {fault : DocumentError} (hon : env.StrictOn) (hpath : env.path? = some path)
    (hread : files.read path = .ok (Text.toBytes text))
    (h : Preset.ofDocument text = .error fault) :
    (Config.resolve env files).value = .error (.file (.undecodable path fault)) := by
  have hlayers : Config.layered files env.flagsText? (some path) =
      .error (.file (.undecodable path fault)) :=
    Config.layered_of_file (.undecodable hread h)
  rw [Config.resolve, Config.value_ofTexts_on (env.strictOn_iff.1 hon), hpath, hlayers]
  rfl

/-- A file that is a preset is taken by a strict start without entries. -/
theorem Config.resolve_decodable {env : Environment} {files : Files} {path : Bytes}
    {text : String} {p : Preset} (hon : env.StrictOn) (hflags : env.flagsText? = none)
    (hpath : env.path? = some path) (hread : files.read path = .ok (Text.toBytes text))
    (h : Preset.ofDocument text = .ok p) : (Config.resolve env files).value = .ok ⟨p, true⟩ := by
  have hfile : FileGives files (some path) p := .stated hread (says_of_ofDocument h)
  have hlayers : Config.layered files none (some path) = .ok p :=
    Config.layered_eq_ok.2 ⟨p, .empty, hfile, .unset, rfl⟩
  rw [Config.resolve, Config.value_ofTexts_on (env.strictOn_iff.1 hon), hflags, hpath, hlayers]
  rfl

/-! ## The law -/

/-- The text is a preset by named sections, or it is none. -/
structure OnlyNamedSections (text : String) : Prop where
  object : (∃ p, Preset.ofDocument text = .ok p) ↔
    ∃ ms, IsDocument text (.object ms) ∧ Acceptable ms
  /-- A list, a text, a number, true, false and null are refused. -/
  others : ∀ v, IsDocument text v → (∀ ms, v ≠ .object ms) →
    ∃ fault, Preset.ofDocument text = .error fault
  /-- A file of another shape ends a strict start. -/
  strict : ∀ (env : Environment) (files : Files) path, env.StrictOn → env.path? = some path →
    files.read path = .ok (Text.toBytes text) →
    (¬ ∃ ms, IsDocument text (.object ms) ∧ Acceptable ms) →
      ∃ fault, (Config.resolve env files).value = .error (.file (.undecodable path fault))

theorem onlyNamedSections {text : String} (h : ∀ vs, ¬ IsDocument text (.list vs)) :
    OnlyNamedSections text := by
  have hobject : (∃ p, Preset.ofDocument text = .ok p) ↔
      ∃ ms, IsDocument text (.object ms) ∧ Acceptable ms := by
    constructor
    · rintro ⟨p, hp⟩
      obtain ⟨parts, v, hlays, hv, -⟩ := Preset.ofDocument_eq_ok.1 hp
      cases hlays with
      | object => exact ⟨_, hv, (exists_ofDocument_iff hv).1 ⟨p, hp⟩⟩
      | list => exact absurd hv (h _)
    · rintro ⟨ms, hms, hacceptable⟩
      exact (exists_ofDocument_iff hms).2 hacceptable
  refine ⟨hobject, ?_, ?_⟩
  · intro v hv hshape
    cases hp : Preset.ofDocument text with
    | error fault => exact ⟨fault, rfl⟩
    | ok p =>
      obtain ⟨ms, hms, -⟩ := hobject.1 ⟨p, hp⟩
      exact absurd (hv.unique hms) (hshape ms)
  · intro env files path hon hpath hread hshape
    cases hp : Preset.ofDocument text with
    | error fault => exact ⟨fault, Config.resolve_undecodable hon hpath hread hp⟩
    | ok p => exact absurd (hobject.1 ⟨p, hp⟩) hshape

/-- What is no list is a preset by named sections only. A list is a preset
where its items, in their places, are acceptable as members. -/
theorem only_a_list_is_a_preset_without_names (text : String) :
    ((∀ vs, ¬ IsDocument text (.list vs)) → OnlyNamedSections text) ∧
      ∀ vs, IsDocument text (.list vs) → ∀ p, Preset.ofDocument text = .ok p ↔
        vs.length ≤ places.length ∧ IsPresetOf ((places.map Member.name).zip vs) p :=
  ⟨onlyNamedSections, fun _ hvs _ => ofDocument_list hvs⟩

/-- A text in quotes is refused, and ends a strict start. Two items of a list
are the version and the section of true and false. -/
theorem a_quoted_text_is_refused_and_two_items_are_not :
    let quoted := (Json.Value.text "fog").toText
    let listed := (Json.Value.list [.null, .object [("fog", .bool true)]]).toText
    (∃ fault, Preset.ofDocument quoted = .error fault) ∧
      (∃ fault, (Config.resolve ⟨none, some [112], some [49]⟩
        (Directory.files [([112], Text.toBytes quoted)])).value =
          .error (.file (.undecodable [112] fault))) ∧
      ∃ p, Preset.ofDocument listed = .ok p := by
  intro quoted listed
  have hquoted : IsDocument quoted (.text "fog") := Json.isDocument_iff.2 (Json.says_toText rfl)
  have hlisted : IsDocument listed _ := Json.isDocument_iff.2 (Json.says_toText rfl)
  have hno : ∀ vs, ¬ IsDocument quoted (.list vs) := fun vs hvs => by cases hquoted.unique hvs
  have honly := (only_a_list_is_a_preset_without_names quoted).1 hno
  refine ⟨?_, ?_, ?_⟩
  · exact honly.others _ hquoted fun ms hms => by cases hms
  · refine honly.strict _ _ [112] ⟨"1", rfl, by decide⟩ rfl ?_ ?_
    · exact Directory.read_files (by decide) _
    · rintro ⟨ms, hms, -⟩
      cases hquoted.unique hms
  · have hparts : IsPresetOf
        (List.map Part.pair [.version none, .entries .bool [("fog", true)]]) _ :=
      isPresetOf_ofParts (by decide) fun s hs => by cases hs
    exact ⟨_, ((only_a_list_is_a_preset_without_names listed).2 _ hlisted _).2 ⟨by decide, hparts⟩⟩

theorem not_onlyNamedSections {text : String} {vs : List Json.Value} {p : Preset}
    (hvs : IsDocument text (.list vs)) (hp : Preset.ofDocument text = .ok p) :
    ¬ OnlyNamedSections text := by
  intro h
  obtain ⟨ms, hms, -⟩ := h.object.1 ⟨p, hp⟩
  cases hvs.unique hms

/-- An empty list is taken for a preset without entries. A list with a section
in the second place is taken for a preset of true and false, also by a strict start. -/
theorem a_list_is_taken_for_a_preset :
    let listed := (Json.Value.list [.null, .object [("fog", .bool true)]]).toText
    Preset.ofDocument "[]" = .ok .empty ∧ ¬ OnlyNamedSections "[]" ∧
      ¬ OnlyNamedSections listed ∧ ∃ p, p.find? .bool "fog" = some true ∧
        (Config.resolve ⟨none, some [112], some [49]⟩
          (Directory.files [([112], Text.toBytes listed)])).value = .ok ⟨p, true⟩ := by
  intro listed
  have hwritten : "[]" = (Json.Value.list []).toText := rfl
  have hempty : IsDocument "[]" (.list []) := by
    rw [hwritten]
    exact Json.isDocument_iff.2 (Json.says_toText rfl)
  have hlisted : IsDocument listed (.list [.null, .object [("fog", .bool true)]]) :=
    Json.isDocument_iff.2 (Json.says_toText rfl)
  have hnothing : Preset.ofDocument "[]" = .ok .empty :=
    Preset.ofDocument_eq_ok.2 ⟨[], _, .list List.nil_prefix, hempty, rfl, fun s hs => by cases hs⟩
  let parts : List Part := [.version none, .entries .bool [("fog", true)]]
  have hprefix : parts.map Part.member <+: [.version, .bools, .ints] := ⟨[.ints], rfl⟩
  have hpreset : Preset.ofDocument listed = .ok (ofParts parts) :=
    Preset.ofDocument_eq_ok.2 ⟨parts, _, .list hprefix, hlisted, rfl, fun s hs => by cases hs⟩
  refine ⟨hnothing, not_onlyNamedSections hempty hnothing,
    not_onlyNamedSections hlisted hpreset, ofParts parts, rfl, ?_⟩
  exact Config.resolve_decodable ⟨"1", rfl, by decide⟩ rfl rfl
    (Directory.read_files (by decide) _) hpreset

end HostBoundary
