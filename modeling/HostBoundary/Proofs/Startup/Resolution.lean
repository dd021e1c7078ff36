-- The laws of resolving a configuration. Its preset is made of the file and
-- of the entries on top of it, and of both whole or of neither. What is set
-- and cannot be used is an error in strict checking, and has a word in the
-- log else, as long as the variables are text.
import HostBoundary.Proofs.Startup.Sources

namespace HostBoundary

namespace Config

variable {files : Files} {flags? : Option String} {path? : Option Bytes}
  {strict? : Option String}

/-- What the layers fail with is logged where they are dropped. -/
theorem log_ofTexts_off (h : ¬ Switch.IsOn strict?) {e : ConfigError}
    (he : layered files flags? path? = .error e) :
    .presetIgnored e.message ∈ (ofTexts files flags? path? strict?).log := by
  unfold ofTexts
  rw [Logged.log_bind, he, Switch.value_resolve_off h]
  exact List.mem_append_right _ List.mem_cons_self

theorem log_switch_ofTexts {e : Event} (h : e ∈ (Switch.resolve strict?).log) :
    e ∈ (ofTexts files flags? path? strict?).log := by
  unfold ofTexts
  rw [Logged.log_bind]
  exact List.mem_append_left _ h

end Config

/-! ## All or nothing -/

/-- The law of a configuration of three texts, where any may be missing. -/
structure AllOrNothing (files : Files) (flags? : Option String) (path? : Option Bytes)
    (strict? : Option String) : Prop where
  /-- Outside strict checking there always is a configuration. Its preset is the whole overlay,
  or empty where a source cannot be used. -/
  lenient : ¬ Switch.IsOn strict? → ∃ p,
    (Config.ofTexts files flags? path? strict?).value = .ok ⟨p, false⟩ ∧
      (∀ lower upper, FileGives files path? lower → TextGives flags? upper →
        Overlay lower upper p) ∧
      ((¬ ∃ lower, FileGives files path? lower) ∨ (¬ ∃ upper, TextGives flags? upper) →
        p = .empty)
  /-- In strict checking there is a configuration where both sources can be used. -/
  strict : Switch.IsOn strict? →
    ((∃ config, (Config.ofTexts files flags? path? strict?).value = .ok config) ↔
      (∃ lower, FileGives files path? lower) ∧ ∃ upper, TextGives flags? upper)
  whole : Switch.IsOn strict? → ∀ lower upper, FileGives files path? lower →
    TextGives flags? upper → ∃ p,
      (Config.ofTexts files flags? path? strict?).value = .ok ⟨p, true⟩ ∧ Overlay lower upper p
  /-- A path leads to no preset where its file cannot be read, is no text, or is no preset as a
  document. -/
  file_fails : ∀ path, path? = some path →
    ((¬ ∃ lower, FileGives files path? lower) ↔ ∃ fault, FileFails files path fault)
  /-- The error is the file's where the file fails, whatever the text is. -/
  file_first : Switch.IsOn strict? → ∀ path fault, path? = some path →
    FileFails files path fault →
      (Config.ofTexts files flags? path? strict?).value = .error (.file fault)
  /-- A text gives no preset where one of its pieces is at fault. -/
  text_fails : ∀ text, flags? = some text → ((¬ ∃ upper, TextGives flags? upper) ↔
    ∃ fault, Preset.Spec.FirstFault (Preset.Spec.piecesOf text) fault)
  text_next : Switch.IsOn strict? → ∀ lower text fault, FileGives files path? lower →
    flags? = some text → Preset.Spec.FirstFault (Preset.Spec.piecesOf text) fault →
      (Config.ofTexts files flags? path? strict?).value = .error (.flags text fault)

/-- A configuration has all of its sources, or nothing of them. -/
theorem a_configuration_has_all_of_its_sources_or_nothing (files : Files)
    (flags? : Option String) (path? : Option Bytes) (strict? : Option String) :
    AllOrNothing files flags? path? strict? := by
  have hall : ∀ lower upper, FileGives files path? lower → TextGives flags? upper →
      Config.layered files flags? path? = .ok (lower.merge upper) := by
    intro lower upper hfile htext
    exact Config.layered_eq_ok.2 ⟨lower, upper, hfile, htext, rfl⟩
  refine ⟨?_, ?_, ?_, ?_, ?_, ?_, ?_⟩
  · intro hoff
    refine ⟨_, Config.value_ofTexts_off hoff, ?_, ?_⟩
    · intro lower upper hfile htext
      rw [hall lower upper hfile htext]
      exact overlay_merge lower upper
    · intro hmissing
      obtain ⟨e, he⟩ := Config.layered_of_missing hmissing
      rw [he]
      rfl
  · intro hon
    rw [Config.value_ofTexts_on hon]
    constructor
    · rintro ⟨config, hconfig⟩
      obtain ⟨p, hp, _⟩ := Preset.Document.map_eq_ok.1 hconfig
      obtain ⟨lower, upper, hfile, htext, _⟩ := Config.layered_eq_ok.1 hp
      exact ⟨⟨lower, hfile⟩, upper, htext⟩
    · rintro ⟨⟨lower, hfile⟩, upper, htext⟩
      rw [hall lower upper hfile htext]
      exact ⟨_, rfl⟩
  · intro hon lower upper hfile htext
    rw [Config.value_ofTexts_on hon, hall lower upper hfile htext]
    exact ⟨_, rfl, overlay_merge lower upper⟩
  · rintro path rfl
    exact not_fileGives_iff
  · rintro hon path fault rfl hfault
    rw [Config.value_ofTexts_on hon, Config.layered_of_file hfault]
    rfl
  · rintro text rfl
    exact not_textGives_iff
  · rintro hon lower text fault hfile rfl hfault
    rw [Config.value_ofTexts_on hon, Config.layered_of_text hfile hfault]
    rfl

/-! ## Variables of any bytes -/

namespace Environment

/-- The variables that are read as text are text, where they are set. -/
structure IsText (env : Environment) : Prop where
  flags : ∀ bytes, env.flags = some bytes → ∃ s, Text.toBytes s = bytes
  strict : ∀ bytes, env.strict = some bytes → ∃ s, Text.toBytes s = bytes

/-- The environment without the variables that should be text and are not. -/
def legible (env : Environment) : Environment :=
  { env with
    flags := env.flagsText?.map Text.toBytes
    strict := env.strictText?.map Text.toBytes }

/-- The preset that the bytes of the variable give. They must be text. -/
def EntriesGive (env : Environment) (p : Preset) : Prop :=
  ∃ flags?, env.flags = flags?.map Text.toBytes ∧ TextGives flags? p

/-- The variable is set to bytes that turn strict checking on. -/
def StrictOn (env : Environment) : Prop :=
  ∃ s, env.strict = some (Text.toBytes s) ∧ Switch.On s

theorem strictText?_eq_some {env : Environment} {s : String} :
    env.strictText? = some s ↔ env.strict = some (Text.toBytes s) := by
  unfold strictText?
  rw [Option.bind_eq_some_iff]
  constructor
  · rintro ⟨bytes, hbytes, hs⟩
    rw [hbytes, Text.ofBytes?_eq_some.1 hs]
  · intro h
    exact ⟨_, h, Text.ofBytes?_toBytes s⟩

theorem strictOn_iff (env : Environment) : env.StrictOn ↔ Switch.IsOn env.strictText? := by
  unfold StrictOn Switch.IsOn
  simp only [strictText?_eq_some]

theorem IsText.entriesGive {env : Environment} (h : env.IsText) {p : Preset}
    (hp : TextGives env.flagsText? p) : env.EntriesGive p := by
  refine ⟨env.flagsText?, ?_, hp⟩
  unfold flagsText?
  cases hflags : env.flags with
  | none => rfl
  | some bytes =>
    obtain ⟨s, rfl⟩ := h.flags bytes hflags
    simp

end Environment

/-- Nothing that is set is dropped without a word, where this holds. -/
structure NothingDropped (env : Environment) (files : Files) : Prop where
  /-- In strict checking a source that cannot be used is an error. -/
  strict : env.StrictOn →
    (¬ ∃ upper, env.EntriesGive upper) ∨ (¬ ∃ lower, FileGives files env.path? lower) →
      ∃ e, (Config.resolve env files).value = .error e
  /-- Else a preset that is not the overlay of both sources has an error in the log. -/
  lenient : ¬ env.StrictOn → ∀ config, (Config.resolve env files).value = .ok config →
    (¬ ∃ lower upper, FileGives files env.path? lower ∧ env.EntriesGive upper ∧
      Overlay lower upper config.preset) →
    ∃ e ∈ (Config.resolve env files).log, e.level = .error
  /-- A switch that is set, and says neither yes nor no, has an error in the log. -/
  switch : ∀ bytes, env.strict = some bytes →
    (∀ s, Text.toBytes s = bytes → ¬ Switch.Known s) →
      ∃ e ∈ (Config.resolve env files).log, e.level = .error

theorem nothing_dropped {env : Environment} (h : env.IsText) (files : Files) :
    NothingDropped env files := by
  refine ⟨?_, ?_, ?_⟩
  · intro hon hmissing
    obtain ⟨e, he⟩ : ∃ e, Config.layered files env.flagsText? env.path? = .error e := by
      apply Config.layered_of_missing
      rcases hmissing with hno | hno
      · exact Or.inr fun ⟨upper, hupper⟩ => hno ⟨upper, h.entriesGive hupper⟩
      · exact Or.inl hno
    refine ⟨e, ?_⟩
    rw [Config.resolve, Config.value_ofTexts_on (env.strictOn_iff.1 hon), he]
    rfl
  · intro hoff config hconfig hpartial
    rw [env.strictOn_iff] at hoff
    rw [Config.resolve, Config.value_ofTexts_off hoff] at hconfig
    cases hconfig
    cases hlayers : Config.layered files env.flagsText? env.path? with
    | error e => exact ⟨_, Config.log_ofTexts_off hoff hlayers, rfl⟩
    | ok p =>
      obtain ⟨lower, upper, hfile, htext, rfl⟩ := Config.layered_eq_ok.1 hlayers
      refine absurd ⟨lower, upper, hfile, h.entriesGive htext, ?_⟩ hpartial
      rw [hlayers]
      exact overlay_merge lower upper
  · intro bytes hbytes hunknown
    obtain ⟨s, rfl⟩ := h.strict bytes hbytes
    obtain ⟨e, he⟩ := Switch.log_resolve (hunknown s rfl)
    refine ⟨.strictIgnored e.message, ?_, rfl⟩
    apply Config.log_switch_ofTexts
    rw [Environment.strictText?_eq_some.2 hbytes, he]
    exact List.mem_singleton_self _

/-- Where the variables are text, nothing that is set is dropped without a
word. A variable that is no text counts as unset. -/
theorem only_what_is_no_text_is_dropped_silently (env : Environment) (files : Files) :
    (env.IsText → NothingDropped env files) ∧
      Config.resolve env files = Config.resolve env.legible files := by
  have hread : ∀ text? : Option String,
      (text?.map Text.toBytes).bind Text.ofBytes? = text? := by
    intro text?
    cases text? <;> simp
  refine ⟨fun h => nothing_dropped h files, ?_⟩
  unfold Config.resolve Environment.legible
  simp only [Environment.flagsText?, Environment.strictText?, Environment.path?, hread]

/-- A strict start takes bytes that are no text for no entries. A lenient one
says nothing of them, and a switch of such bytes is off without a word. -/
theorem bytes_that_are_no_text_are_dropped_silently :
    ¬ NothingDropped ⟨some [0xFF], none, some [49]⟩ (Directory.files []) ∧
      ¬ NothingDropped ⟨some [0xFF], none, none⟩ (Directory.files []) ∧
      ¬ NothingDropped ⟨none, none, some [0xFF]⟩ (Directory.files []) := by
  have hnone : Text.ofBytes? [0xFF] = none := rfl
  have hbroken : ∀ s, Text.toBytes s ≠ [0xFF] := by
    intro s hs
    rw [← Text.ofBytes?_eq_some, hnone] at hs
    cases hs
  have hgives : ∀ file strict p, ¬ Environment.EntriesGive ⟨some [0xFF], file, strict⟩ p := by
    rintro file strict p ⟨text?, htext, _⟩
    cases text? with
    | none => cases htext
    | some s => exact hbroken s (Option.some.inj htext).symm
  refine ⟨?_, ?_, ?_⟩
  · intro h
    have hon : Environment.StrictOn ⟨some [0xFF], none, some [49]⟩ := ⟨"1", rfl, by decide⟩
    obtain ⟨e, he⟩ := h.strict hon (Or.inl fun ⟨upper, hupper⟩ => hgives _ _ upper hupper)
    cases he
  · intro h
    have hoff : ¬ Environment.StrictOn ⟨some [0xFF], none, none⟩ := by
      rintro ⟨s, hs, _⟩
      cases hs
    obtain ⟨e, he, _⟩ := h.lenient hoff ⟨.empty, false⟩ rfl
      fun ⟨_, upper, _, hupper, _⟩ => hgives _ _ upper hupper
    cases he
  · intro h
    obtain ⟨e, he, _⟩ := h.switch [0xFF] rfl fun s hs => absurd hs (hbroken s)
    cases he

/-- A bad switch and a bad entry are two errors in the log. -/
theorem a_bad_switch_and_a_bad_entry_are_both_logged :
    let env : Environment := ⟨some (Text.toBytes "a=1;b"), none, some (Text.toBytes "maybe")⟩
    let files := Directory.files []
    env.IsText ∧ NothingDropped env files ∧
      (Config.resolve env files).value = .ok ⟨.empty, false⟩ ∧
      (Config.resolve env files).log =
        [.strictIgnored (SwitchError.message ⟨"maybe"⟩),
          .presetIgnored (ConfigError.message (.flags "a=1;b" (.missingValue "b")))] := by
  intro env files
  have htext : env.IsText := by
    refine ⟨?_, ?_⟩
    · intro bytes hbytes
      exact ⟨_, Option.some.inj hbytes⟩
    · intro bytes hbytes
      exact ⟨_, Option.some.inj hbytes⟩
  exact ⟨htext, (only_what_is_no_text_is_dropped_silently env files).1 htext, rfl, rfl⟩

end HostBoundary
