-- The law of a startup from end to end: when it comes up, and with which
-- values. Outside strict checking only the table can keep it from coming
-- up. A flag has the last entry of the variable for it, or else the value
-- of the file, or else the one of its row. If one of the two sources cannot
-- be used, neither counts.
import HostBoundary.Proofs.Flag.Build
import HostBoundary.Proofs.Lifetime.Runs
import HostBoundary.Proofs.Preset.Merging
import HostBoundary.Proofs.Startup.Sources

namespace HostBoundary

/-! ## Launches -/

/-- What a startup finds. The variables are text, but for the path. -/
structure Launch where
  flags : Option String
  path : Option Bytes
  strict : Option String
  files : Files
  table : RawTable

/-- The preset names flags of these rows only. -/
def Preset.NamesOnly (p : Preset) (rows : List Row) : Prop :=
  ∀ s ∈ p.settings, s.row.entry ∈ rows.map Row.entry

instance (p : Preset) (rows : List Row) : Decidable (p.NamesOnly rows) :=
  inferInstanceAs (Decidable (∀ s ∈ p.settings, s.row.entry ∈ rows.map Row.entry))

/-- The value of a row under two presets: the one of `upper` for its flag, or
else the one of `lower`, or else its own. -/
def Row.under (row : Row) (lower upper : Preset) : row.kind.Value :=
  ((Text.ofBytes? row.name).bind fun name =>
    (upper.find? row.kind name).or (lower.find? row.kind name)).getD row.value

namespace Launch

def surroundings (g : Launch) : Surroundings where
  environment := {
    flags := g.flags.map Text.toBytes
    file := g.path
    strict := g.strict.map Text.toBytes }
  files := g.files
  table := g.table

/-- The path of the file. An empty path is none. -/
def path? (g : Launch) : Option Bytes := g.path.filter fun path => path ≠ []

/-- The file and the entries state presets, where they are set. -/
def Usable (g : Launch) : Prop :=
  ∃ lower upper, FileGives g.files g.path? lower ∧ TextGives g.flags upper

/-- The presets that count in a startup, of the file below and of the entries on
top. If one of the two cannot be used, neither counts. -/
inductive Layers (g : Launch) : Preset → Preset → Prop
  | both {lower upper : Preset} : FileGives g.files g.path? lower → TextGives g.flags upper →
      Layers g lower upper
  | neither : ¬ g.Usable → Layers g .empty .empty

/-- What a startup needs to come up. -/
structure ComesUp (g : Launch) : Prop where
  named : ∀ row ∈ g.table.live, row.name ≠ []
  distinct : (g.table.live.map Row.entry).Nodup
  /-- Strict checking needs both sources, and names of the table only. -/
  strict : Switch.IsOn g.strict → ∃ lower upper, FileGives g.files g.path? lower ∧
    TextGives g.flags upper ∧ lower.NamesOnly g.table.live ∧ upper.NamesOnly g.table.live

/-! ## The configuration of a launch -/

theorem exists_layers (g : Launch) : ∃ lower upper, g.Layers lower upper := by
  by_cases h : g.Usable
  · obtain ⟨lower, upper, hfile, htext⟩ := h
    exact ⟨lower, upper, .both hfile htext⟩
  · exact ⟨.empty, .empty, .neither h⟩

theorem resolve_eq (g : Launch) :
    Config.resolve g.surroundings.environment g.files =
      Config.ofTexts g.files g.flags g.path? g.strict := by
  have hflags : g.surroundings.environment.flagsText? = g.flags := by
    unfold Environment.flagsText? surroundings
    cases g.flags <;> simp
  have hstrict : g.surroundings.environment.strictText? = g.strict := by
    unfold Environment.strictText? surroundings
    cases g.strict <;> simp
  have hpath : g.surroundings.environment.path? = g.path? := by
    unfold Environment.path? path? surroundings
    congr 1
    funext path
    cases path <;> rfl
  rw [Config.resolve, hflags, hstrict, hpath]

/-- Strict checking turns down sources that cannot be used, and nothing else is turned down. -/
theorem resolve_eq_ok {g : Launch} {lower upper : Preset} (h : g.Layers lower upper)
    (config : Config) :
    (Config.resolve g.surroundings.environment g.files).value = .ok config ↔
      (Switch.IsOn g.strict → g.Usable) ∧
        config = ⟨lower.merge upper, (Switch.resolve g.strict).value⟩ := by
  rw [resolve_eq, Config.value_ofTexts, ← Switch.value_resolve]
  cases h with
  | both hfile htext =>
    rw [Config.layered_eq_ok.2 ⟨lower, upper, hfile, htext, rfl⟩]
    constructor
    · intro h
      cases h
      exact ⟨fun _ => ⟨lower, upper, hfile, htext⟩, rfl⟩
    · rintro ⟨_, rfl⟩
      rfl
  | neither hno =>
    obtain ⟨e, he⟩ := Config.layered_of_unusable hno
    rw [he]
    cases (Switch.resolve g.strict).value with
    | true =>
      constructor
      · intro h
        cases h
      · rintro ⟨husable, _⟩
        exact absurd (husable rfl) hno
    | false =>
      constructor
      · intro h
        cases h
        exact ⟨nofun, rfl⟩
      · rintro ⟨_, rfl⟩
        rfl

end Launch

/-! ## Building a session -/

theorem Session.build_eq_ok (rows : List Row) (config : Config) (s : Session) :
    (Session.build rows config).value = .ok s ↔
      ∃ r, Registry.ofRows rows = .ok r ∧
        (config.strict = true → Preset.unknownTo r config.preset.settings = []) ∧
        s = ⟨(config.preset.apply r).value.2, config⟩ := by
  unfold build
  cases hrows : Registry.ofRows rows with
  | error e => simp
  | ok r =>
    have hreject : (config.strict && !(config.preset.apply r).value.1.unknown.isEmpty) = true ↔
        ¬ (config.strict = true → Preset.unknownTo r config.preset.settings = []) := by
      rw [config.preset.apply_unknown r]
      simp
    simp only [Logged.value_bind, apply_ite Logged.value, Logged.value_pure]
    by_cases hstrict : config.strict = true → Preset.unknownTo r config.preset.settings = []
    · rw [if_neg fun h => hreject.1 h hstrict]
      constructor
      · intro h
        cases h
        exact ⟨r, rfl, hstrict, rfl⟩
      · rintro ⟨r', hr', _, rfl⟩
        cases hr'
        rfl
    · rw [if_pos (hreject.2 hstrict)]
      constructor
      · intro h
        cases h
      · rintro ⟨r', hr', hstrict', _⟩
        cases hr'
        exact absurd hstrict' hstrict

theorem Session.rows_of_build {rows : List Row} {config : Config} {s : Session}
    (h : (Session.build rows config).value = .ok s) : s.registry.rows = rows := by
  obtain ⟨r, hr, _, rfl⟩ := (Session.build_eq_ok rows config s).1 h
  rw [Preset.apply_rows, Registry.rows_of_ofRows hr]

/-- A failure under another name is still none where there was none. -/
theorem mapError_eq_ok {ε ε' α : Type} {x : Except ε α} {f : ε → ε'} {a : α} :
    x.mapError f = .ok a ↔ x = .ok a := by
  cases x <;> simp [Except.mapError]

/-- A start is a configuration and a build over the rows that count. -/
theorem started_eq_ok (around : Surroundings) (s : Session) :
    (started around).value = .ok s ↔
      ∃ config, (Config.resolve around.environment around.files).value = .ok config ∧
        (Session.build around.table.live config).value = .ok s := by
  unfold started start
  simp only [Logged.value_bind, around.table.value_read]
  cases (Config.resolve around.environment around.files).value with
  | error e => simp
  | ok config =>
    show (Session.build around.table.live config).value.mapError StartError.session = .ok s ↔ _
    simp only [mapError_eq_ok, Except.ok.injEq, exists_eq_left']

namespace Launch

variable {g : Launch} {lower upper : Preset}

/-- A launch applies its presets to the registry of the rows that count. -/
theorem started_eq_ok_iff (h : g.Layers lower upper) (s : Session) :
    (started g.surroundings).value = .ok s ↔
      ∃ r, Registry.ofRows g.table.live = .ok r ∧
        (Switch.IsOn g.strict →
          g.Usable ∧ Preset.unknownTo r (lower.merge upper).settings = []) ∧
        s = ⟨((lower.merge upper).apply r).value.2,
          ⟨lower.merge upper, (Switch.resolve g.strict).value⟩⟩ := by
  rw [started_eq_ok]
  constructor
  · rintro ⟨config, hconfig, hbuild⟩
    obtain ⟨husable, rfl⟩ := (resolve_eq_ok h config).1 hconfig
    obtain ⟨r, hr, hknown, rfl⟩ := (Session.build_eq_ok _ _ s).1 hbuild
    refine ⟨r, hr, ?_, rfl⟩
    intro hstrict
    exact ⟨husable hstrict, hknown ((Switch.value_resolve g.strict).2 hstrict)⟩
  · rintro ⟨r, hr, hstrict, rfl⟩
    refine ⟨_, (resolve_eq_ok h _).2 ⟨fun hon => (hstrict hon).1, rfl⟩, ?_⟩
    apply (Session.build_eq_ok _ _ _).2
    exact ⟨r, hr, fun hon => (hstrict ((Switch.value_resolve g.strict).1 hon)).2, rfl⟩

/-- A registry knows all names of two layers where both have names of its rows only. -/
theorem unknownTo_merge_eq_nil {r : Registry} (hr : r.rows = g.table.live) :
    Preset.unknownTo r (lower.merge upper).settings = [] ↔
      lower.NamesOnly g.table.live ∧ upper.NamesOnly g.table.live := by
  rw [Preset.unknownTo_eq_nil, hr]
  exact Preset.forall_settings_merge lower upper fun k name =>
    ⟨Text.toBytes name, k⟩ ∈ g.table.live.map Row.entry

/-- The startup comes up where it needs to. -/
theorem exists_started_iff (g : Launch) :
    (∃ s, (started g.surroundings).value = .ok s) ↔ g.ComesUp := by
  constructor
  · rintro ⟨s, hs⟩
    obtain ⟨lower, upper, hlayers⟩ := g.exists_layers
    obtain ⟨r, hr, hstrict, _⟩ := (started_eq_ok_iff hlayers s).1 hs
    obtain ⟨hnamed, hdistinct⟩ := (Registry.exists_ofRows_iff _).1 ⟨r, hr⟩
    refine ⟨fun row hrow => (hnamed row hrow).1, hdistinct, ?_⟩
    intro hon
    obtain ⟨husable, hknown⟩ := hstrict hon
    cases hlayers with
    | both hfile htext =>
      exact ⟨lower, upper, hfile, htext,
        (unknownTo_merge_eq_nil (Registry.rows_of_ofRows hr)).1 hknown⟩
    | neither hno => exact absurd husable hno
  · intro h
    have hnamed : ∀ row ∈ g.table.live, row.WellNamed := by
      intro row hrow
      exact ⟨h.named row hrow, RawTable.zero_not_mem_name hrow⟩
    obtain ⟨r, hr⟩ := (Registry.exists_ofRows_iff _).2 ⟨hnamed, h.distinct⟩
    by_cases hon : Switch.IsOn g.strict
    · obtain ⟨lower, upper, hfile, htext, hnames⟩ := h.strict hon
      have hknown := (unknownTo_merge_eq_nil (Registry.rows_of_ofRows hr)).2 hnames
      exact ⟨_, (started_eq_ok_iff (.both hfile htext) _).2
        ⟨r, hr, fun _ => ⟨⟨lower, upper, hfile, htext⟩, hknown⟩, rfl⟩⟩
    · -- Outside strict checking nothing is asked of the layers, so any of them will do.
      obtain ⟨lower, upper, hlayers⟩ := g.exists_layers
      exact ⟨_, (started_eq_ok_iff hlayers _).2 ⟨r, hr, fun h => absurd h hon, rfl⟩⟩

/-- The last row of two layers for a flag, over its default. -/
theorem getD_last?_merge (row : Row) (lower upper : Preset) :
    (Row.last? (lower.merge upper).rows row.kind row.name).getD row.value =
      row.under lower upper := by
  have hfind : (lower.merge upper).find? row.kind = fun name =>
      (upper.find? row.kind name).or (lower.find? row.kind name) :=
    funext (lower.find?_merge upper row.kind)
  rw [Preset.last?_rows, hfind, Row.under]

theorem get_of_started (h : g.Layers lower upper) {s : Session}
    (hs : (started g.surroundings).value = .ok s) {row : Row} (hrow : row ∈ g.table.live) :
    s.registry.get row.kind row.name = some (row.under lower upper) := by
  obtain ⟨r, hr, _, rfl⟩ := (started_eq_ok_iff h s).1 hs
  have hmem : row ∈ r.rows := by rwa [Registry.rows_of_ofRows hr]
  have hdefault : r.get row.kind row.name = some row.value := by
    rw [Registry.get_of_ofRows hr, ← Registry.rows_of_ofRows hr,
      Row.last?_of_mem r.distinct hmem]
  rw [Preset.apply_get, if_pos (Registry.has_of_mem hmem), hdefault, ← getD_last?_merge]
  cases Row.last? (lower.merge upper).rows row.kind row.name <;> rfl

theorem get_of_started_of_none {s : Session} (hs : (started g.surroundings).value = .ok s)
    {k : Kind} {name : Bytes} (hnone : ¬ ∃ row ∈ g.table.live, row.kind = k ∧ row.name = name) :
    s.registry.get k name = none := by
  obtain ⟨lower, upper, hlayers⟩ := g.exists_layers
  obtain ⟨r, hr, _, rfl⟩ := (started_eq_ok_iff hlayers s).1 hs
  rw [Preset.apply_get, if_neg]
  rwa [Registry.has_iff_row, Registry.rows_of_ofRows hr]

end Launch

/-! ## From the first call on -/

theorem Lifetime.value_init (around : Surroundings) (reads : Nat) :
    (Lifetime.step around ⟨.unbuilt, reads⟩ .init).value =
      match (started around).value with
      | .ok s => (.status true, ⟨.ready s, reads + 1⟩)
      | .error _ => (.status false, ⟨.failed, reads + 1⟩) := by
  rw [step_unbuilt (by simp), Logged.value_bind]
  cases (started around).value <;> rfl

/-- What a runtime sees of a launch: the answer of the first call, and of the look-ups then. -/
structure StartsAsGiven (g : Launch) (answer : Reply) (l : Lifetime) : Prop where
  comes_up : ∃ ok, answer = .status ok ∧ (ok = true ↔ g.ComesUp)
  /-- A flag has the value of its last entry, or else the file's, or else the one of its row.
  It is the row's where one of the two sources cannot be used. -/
  found : g.ComesUp → ∀ lower upper, g.Layers lower upper →
    ∀ row ∈ g.table.live, ∀ around name out, name.bytes = row.name →
      (l.step around (.get row.kind name out)).value =
        (.value row.kind true (out.map fun _ => row.under lower upper), l)
  /-- A look-up of no row fails. It leaves the caller's place as it was. -/
  missing : g.ComesUp → ∀ around k name out,
    (¬ ∃ row ∈ g.table.live, row.kind = k ∧ row.name = name.bytes) →
    (l.step around (.get k name out)).value = (.value k false out, l)

/-- A startup comes up where it needs to, with the values that its sources give. -/
theorem startup_has_the_values_of_its_sources (g : Launch) (reads : Nat) :
    StartsAsGiven g (Lifetime.step g.surroundings ⟨.unbuilt, reads⟩ .init).value.1
      (Lifetime.step g.surroundings ⟨.unbuilt, reads⟩ .init).value.2 := by
  rw [Lifetime.value_init]
  have hup := g.exists_started_iff
  cases hstart : (started g.surroundings).value with
  | error e =>
    have hdown : ¬ g.ComesUp := by
      rw [← hup, hstart]
      rintro ⟨s, hs⟩
      cases hs
    exact ⟨⟨false, rfl, by simp [hdown]⟩, fun h => absurd h hdown, fun h => absurd h hdown⟩
  | ok s =>
    have hready : g.ComesUp := hup.1 ⟨s, hstart⟩
    refine ⟨⟨true, rfl, by simp [hready]⟩, ?_, ?_⟩
    · intro _ lower upper hlayers row hrow around name out hname
      rw [Lifetime.value_step_get rfl, hname, Launch.get_of_started hlayers hstart hrow]
    · intro _ around k name out hnone
      rw [Lifetime.value_step_get rfl, Launch.get_of_started_of_none hstart hnone]

/-- Two flags of one name and a third one, with a file in the root directory
and entries on top of it. The file has the last word on the first flag only. -/
theorem startup_takes_the_last_entry_for_a_flag :
    let bools : Json.Value := .object [("a", .bool false), ("b", .bool false)]
    let text := (Json.Value.object [("bool", bools)]).toText
    let path := Text.toBytes "/flags.json"
    let files : Files := ⟨fun p => if p = path then .ok (Text.toBytes text) else .error .notFound⟩
    let raws : List RawRow := [⟨some [97, 0], 0, 9⟩, ⟨none, 1, 4⟩, ⟨some [97, 0], 1, 1⟩,
      ⟨some [98, 0], 2, 3⟩, ⟨some [98, 0], 0, 0⟩]
    let g : Launch := ⟨some "a=5; b=true; a=7", some path, some " yes ", files, ⟨some raws, 5⟩⟩
    let answer := (Lifetime.step g.surroundings ⟨.unbuilt, 0⟩ .init).value.1
    let l := (Lifetime.step g.surroundings ⟨.unbuilt, 0⟩ .init).value.2
    Switch.IsOn g.strict ∧ g.ComesUp ∧ StartsAsGiven g answer l ∧
      (l.step g.surroundings (.get .bool ⟨some [97], 1⟩ (some true))).value =
        (.value .bool true (some false), l) ∧
      (l.step g.surroundings (.get .int ⟨some [97], 1⟩ (some 0))).value =
        (.value .int true (some 7), l) ∧
      (l.step g.surroundings (.get .bool ⟨some [98], 1⟩ (some false))).value =
        (.value .bool true (some true), l) := by
  intro bools text path files raws g answer l
  have hlive : g.table.live = [⟨.bool, [97], true⟩, ⟨.int, [97], 1⟩, ⟨.bool, [98], false⟩] := rfl
  let parts : List Preset.Document.Part := [.entries .bool [("a", false), ("b", false)]]
  let lower : Preset := Preset.Document.ofParts parts
  let upper : Preset :=
    ((Preset.empty.put ⟨.int, "a", 5⟩).put ⟨.bool, "b", true⟩).put ⟨.int, "a", 7⟩
  have hdocument : Json.IsDocument text (.object [("bool", bools)]) :=
    Json.isDocument_iff.2 (Json.says_toText rfl)
  have hpreset : Preset.Document.IsPresetOf (parts.map Preset.Document.Part.pair) lower :=
    Preset.Document.isPresetOf_ofParts (by decide) fun s hs => by cases hs
  have hread : files.read path = .ok (Text.toBytes text) := by simp [files]
  have hpath : g.path? = some path := rfl
  have hfile : FileGives g.files g.path? lower := by
    rw [hpath]
    exact .stated hread (.object hdocument hpreset)
  have htext : TextGives g.flags upper := .stated (Preset.Spec.ofSpec_eq_ok_iff.1 rfl)
  have hup : g.ComesUp := by
    refine ⟨?_, ?_, ?_⟩
    · rw [hlive]
      decide
    · rw [hlive]
      decide
    · intro _
      refine ⟨lower, upper, hfile, htext, ?_, ?_⟩
      · rw [hlive]
        decide
      · rw [hlive]
        decide
  have hlaw : StartsAsGiven g answer l := startup_has_the_values_of_its_sources g 0
  have hfound := hlaw.found hup lower upper (.both hfile htext)
  rw [hlive] at hfound
  have hon : Switch.IsOn g.strict := ⟨" yes ", rfl, by decide⟩
  refine ⟨hon, hup, hlaw, ?_, ?_, ?_⟩
  · exact hfound ⟨.bool, [97], true⟩ (by simp) _ _ _ rfl
  · exact hfound ⟨.int, [97], 1⟩ (by simp) _ _ _ rfl
  · exact hfound ⟨.bool, [98], false⟩ (by simp) _ _ _ rfl

end HostBoundary
