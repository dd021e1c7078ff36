-- Where the values of a startup come from: the rows of the runtime's table
-- that count, the file, and the variables. What each gives is said here
-- apart from the others, of the rows, the bytes and the texts themselves, and
-- what the startup makes of it is proved equal.
import HostBoundary.Lifetime
import HostBoundary.Proofs.Preset.Stated

namespace HostBoundary

/-! ## The table -/

/-- The row that counts for a raw one: it needs a name and the tag of a kind. -/
def RawRow.live? (raw : RawRow) : Option Row :=
  match raw.name, Kind.ofTag? raw.tag with
  | some memory, some k => some ⟨k, Text.untilZero memory, Kind.ofRaw raw.value k⟩
  | _, _ => none

def RawTable.live (t : RawTable) : List Row := t.stated.filterMap RawRow.live?

theorem RawRow.value_read (raw : RawRow) (index : Nat) : (raw.read index).value = raw.live? := by
  unfold read live?
  cases raw.name with
  | none => rfl
  | some memory => cases Kind.ofTag? raw.tag <;> rfl

/-- The table is read as the rows that count, in table order. A reading counts itself. -/
theorem RawTable.value_read (t : RawTable) (n : Nat) : (t.read n).value = (t.live, n + 1) := by
  let readRow (p : RawRow × Nat) : Logged (Option Row) := p.1.read p.2
  have hrow : ∀ p, (readRow p).value = p.1.live? := by
    intro p
    exact p.1.value_read p.2
  have hlive : (t.stated.zipIdx.mapM readRow).value.filterMap id = t.live :=
    calc (t.stated.zipIdx.mapM readRow).value.filterMap id
        = (t.stated.zipIdx.map Prod.fst).filterMap RawRow.live? := by
          rw [Logged.value_mapM, List.filterMap_map, List.filterMap_map]
          simp only [Function.comp_def, hrow, id_eq]
      _ = t.live := by rw [List.zipIdx_map_fst, live]
  rw [← hlive]
  rfl

/-- The name of a row that counts is a C string, so it holds no zero byte. -/
theorem RawTable.zero_not_mem_name {t : RawTable} {row : Row} (h : row ∈ t.live) :
    0 ∉ row.name := by
  obtain ⟨raw, _, hraw⟩ := List.mem_filterMap.1 h
  unfold RawRow.live? at hraw
  split at hraw
  · cases hraw
    exact Text.zero_not_mem_untilZero _
  · cases hraw

/-! ## The strict switch -/

namespace Switch

/-- The text turns strict checking on. -/
def On (s : String) : Prop := String.ofList (Text.trim s.toList) ∈ onWords

instance (s : String) : Decidable (On s) :=
  inferInstanceAs (Decidable (String.ofList (Text.trim s.toList) ∈ onWords))

/-- There is a text, and it turns strict checking on. -/
def IsOn (text? : Option String) : Prop := ∃ s, text? = some s ∧ On s

/-- The text says yes or no. -/
def Known (s : String) : Prop :=
  String.ofList (Text.trim s.toList) ∈ onWords ∨ String.ofList (Text.trim s.toList) ∈ offWords

theorem read_eq (s : String) :
    read s = if String.ofList (Text.trim s.toList) ∈ onWords then .ok true
      else if String.ofList (Text.trim s.toList) ∈ offWords then .ok false
      else .error ⟨String.ofList (Text.trim s.toList)⟩ := rfl

/-- The switch is on for the words that say yes. It is off for any other text. -/
theorem value_resolve (text? : Option String) :
    (resolve text?).value = true ↔ IsOn text? := by
  unfold IsOn
  cases text? with
  | none => simp [resolve]
  | some s =>
    unfold On
    by_cases hyes : String.ofList (Text.trim s.toList) ∈ onWords
    · simp [resolve, read_eq, hyes]
    · by_cases hno : String.ofList (Text.trim s.toList) ∈ offWords
      · simp [resolve, read_eq, hyes, hno]
      · simp [resolve, read_eq, hyes, hno]

theorem value_resolve_off {text? : Option String} (h : ¬ IsOn text?) :
    (resolve text?).value = false := by
  rw [← value_resolve] at h
  exact Bool.eq_false_iff.2 h

/-- A word that says neither yes nor no is logged. -/
theorem log_resolve {s : String} (h : ¬ Known s) :
    ∃ e : SwitchError, (resolve (some s)).log = [.strictIgnored e.message] := by
  unfold Known at h
  rw [not_or] at h
  exact ⟨⟨String.ofList (Text.trim s.toList)⟩, by simp [resolve, read_eq, h.1, h.2]⟩

end Switch

/-! ## The file -/

section

variable {files : Files} {path : Bytes}

theorem Files.readText_of_error {e : FileError} (h : files.read path = .error e) :
    files.readText path = .error e := by
  unfold readText
  rw [h]
  rfl

theorem Files.readText_of_text {s : String} (h : files.read path = .ok (Text.toBytes s)) :
    files.readText path = .ok s := by
  unfold readText
  rw [h]
  simp only [bind, Except.bind, Text.ofBytes?_toBytes]
  rfl

theorem Files.readText_of_no_text {contents : Bytes} (h : files.read path = .ok contents)
    (hno : ∀ s, Text.toBytes s ≠ contents) : files.readText path = .error .notText := by
  have hnone : Text.ofBytes? contents = none := by
    rw [Option.eq_none_iff_forall_ne_some]
    exact fun s hs => hno s (Text.ofBytes?_eq_some.1 hs)
  unfold readText
  rw [h]
  simp only [bind, Except.bind, hnone]

/-- What the file at the path states. Where there is no path it is the empty preset. -/
inductive FileGives (files : Files) : Option Bytes → Preset → Prop
  | unset : FileGives files none .empty
  | stated {path contents : Bytes} {p : Preset} : files.read path = .ok contents →
      Preset.Document.Says contents p → FileGives files (some path) p

/-- Why the file at the path gives no preset. -/
inductive FileFails (files : Files) (path : Bytes) : LoadError → Prop
  | unreadable {e : FileError} : files.read path = .error e →
      FileFails files path (.unreadable path e)
  | noText {contents : Bytes} : files.read path = .ok contents →
      (∀ s, Text.toBytes s ≠ contents) → FileFails files path (.unreadable path .notText)
  | undecodable {text : String} {fault : DocumentError} :
      files.read path = .ok (Text.toBytes text) → Preset.ofDocument text = .error fault →
      FileFails files path (.undecodable path fault)

theorem FileGives.load {p : Preset} (h : FileGives files (some path) p) :
    Preset.load files path = .ok p := by
  cases h with
  | stated hread hstated =>
    obtain ⟨text, rfl, hp⟩ := hstated.exists_text
    unfold Preset.load
    simp only [Files.readText_of_text hread, hp]

theorem FileFails.load {fault : LoadError} (h : FileFails files path fault) :
    Preset.load files path = .error fault := by
  unfold Preset.load
  cases h with
  | unreadable hread => rw [Files.readText_of_error hread]
  | noText hread hno => rw [Files.readText_of_no_text hread hno]
  | undecodable hread hfault => simp only [Files.readText_of_text hread, hfault]

/-- A path leads to a preset, or there is a reason that it does not. -/
theorem gives_or_fails (files : Files) (path : Bytes) :
    (∃ p, FileGives files (some path) p) ∨ ∃ fault, FileFails files path fault := by
  cases hread : files.read path with
  | error e => exact Or.inr ⟨_, .unreadable hread⟩
  | ok contents =>
    by_cases htext : ∃ s, Text.toBytes s = contents
    · obtain ⟨s, rfl⟩ := htext
      cases hp : Preset.ofDocument s with
      | error fault => exact Or.inr ⟨_, .undecodable hread hp⟩
      | ok p => exact Or.inl ⟨p, .stated hread (Preset.Document.says_of_ofDocument hp)⟩
    · exact Or.inr ⟨_, .noText hread (not_exists.1 htext)⟩

/-- It is one or the other. -/
theorem not_fileGives_iff :
    (¬ ∃ p, FileGives files (some path) p) ↔ ∃ fault, FileFails files path fault := by
  constructor
  · exact (gives_or_fails files path).resolve_left
  · rintro ⟨fault, hfault⟩ ⟨p, hp⟩
    cases hp.load.symm.trans hfault.load

end

/-! ## The entries -/

/-- What the entries of the text state. Where there is no text it is the empty preset. -/
inductive TextGives : Option String → Preset → Prop
  | unset : TextGives none .empty
  | stated {text : String} {p : Preset} : Preset.Spec.Says text p → TextGives (some text) p

theorem TextGives.ofSpec {text : String} {p : Preset} (h : TextGives (some text) p) :
    Preset.ofSpec text = .ok p := by
  cases h with
  | stated hstated => exact Preset.Spec.ofSpec_eq_ok_iff.2 hstated

/-- Entries that state no preset have a first fault. -/
theorem not_textGives_iff {text : String} : (¬ ∃ p, TextGives (some text) p) ↔
    ∃ fault, Preset.Spec.FirstFault (Preset.Spec.piecesOf text) fault := by
  simp only [← Preset.Spec.ofSpec_eq_error_iff]
  cases hspec : Preset.ofSpec text with
  | error fault =>
    refine iff_of_true ?_ ⟨fault, rfl⟩
    rintro ⟨p, hp⟩
    cases hspec.symm.trans hp.ofSpec
  | ok p =>
    refine iff_of_false ?_ nofun
    intro hno
    exact hno ⟨p, .stated (Preset.Spec.ofSpec_eq_ok_iff.1 hspec)⟩

/-! ## Layers of a configuration -/

/-- The preset is all of `upper` over all of `lower`: a flag has the value of
the upper one, or else of the lower one, and there is nothing else in it. -/
structure Overlay (lower upper p : Preset) : Prop where
  version : p.version = lower.version
  value : ∀ k name, p.find? k name = (upper.find? k name).or (lower.find? k name)

theorem overlay_merge (lower upper : Preset) : Overlay lower upper (lower.merge upper) :=
  ⟨rfl, lower.find?_merge upper⟩

namespace Config

variable {files : Files} {flags? : Option String} {path? : Option Bytes}

/-- The preset of the file is what the file states. -/
theorem filePreset_eq_ok {p : Preset} :
    filePreset files path? = .ok p ↔ FileGives files path? p := by
  cases path? with
  | none =>
    constructor
    · intro h
      cases h
      exact .unset
    · intro h
      cases h
      rfl
  | some path =>
    have hof : ∀ q, FileGives files (some path) q → filePreset files (some path) = .ok q := by
      intro q hq
      rw [filePreset, hq.load]
      rfl
    refine ⟨?_, hof p⟩
    intro h
    rcases gives_or_fails files path with ⟨q, hq⟩ | ⟨fault, hfault⟩
    · rw [hof q hq] at h
      cases h
      exact hq
    · rw [filePreset, hfault.load] at h
      cases h

/-- The layers are the entries over the file. Both sources must be usable. -/
theorem layered_eq_ok {p : Preset} :
    layered files flags? path? = .ok p ↔ ∃ lower upper, FileGives files path? lower ∧
      TextGives flags? upper ∧ p = lower.merge upper := by
  unfold layered
  constructor
  · intro h
    obtain ⟨lower, hlower, h⟩ := Json.Text.bind_eq_ok.1 h
    have hfile := filePreset_eq_ok.1 hlower
    cases flags? with
    | none =>
      refine ⟨lower, .empty, hfile, .unset, ?_⟩
      cases h
      rfl
    | some text =>
      cases hspec : Preset.ofSpec text with
      | error fault => simp [hspec] at h
      | ok upper =>
        refine ⟨lower, upper, hfile, .stated (Preset.Spec.ofSpec_eq_ok_iff.1 hspec), ?_⟩
        simp only [hspec] at h
        cases h
        rfl
  · rintro ⟨lower, upper, hfile, htext, rfl⟩
    apply Json.Text.bind_eq_ok.2
    refine ⟨lower, filePreset_eq_ok.2 hfile, ?_⟩
    cases flags? with
    | none =>
      cases htext
      rfl
    | some text =>
      simp only [htext.ofSpec]
      rfl

/-- A file that fails is the error, whatever the entries are. -/
theorem layered_of_file {path : Bytes} {fault : LoadError} (h : FileFails files path fault) :
    layered files flags? (some path) = .error (.file fault) := by
  have hfile : filePreset files (some path) = .error (.file fault) := by
    rw [filePreset, h.load]
    rfl
  unfold layered
  rw [hfile]
  rfl

/-- Of entries that fail behind a file that does not, the first fault is the error. -/
theorem layered_of_text {lower : Preset} {text : String} {fault : SpecError}
    (hfile : FileGives files path? lower)
    (h : Preset.Spec.FirstFault (Preset.Spec.piecesOf text) fault) :
    layered files (some text) path? = .error (.flags text fault) := by
  have hlower := filePreset_eq_ok.2 hfile
  unfold layered
  rw [hlower]
  simp only [Preset.Spec.ofSpec_eq_error_iff.2 h]
  rfl

/-- Without both of the sources there are no layers. -/
theorem layered_of_unusable
    (h : ¬ ∃ lower upper, FileGives files path? lower ∧ TextGives flags? upper) :
    ∃ e, layered files flags? path? = .error e := by
  cases hlayers : layered files flags? path? with
  | error e => exact ⟨e, rfl⟩
  | ok p =>
    obtain ⟨lower, upper, hfile, htext, _⟩ := layered_eq_ok.1 hlayers
    exact absurd ⟨lower, upper, hfile, htext⟩ h

theorem layered_of_missing
    (h : (¬ ∃ lower, FileGives files path? lower) ∨ ¬ ∃ upper, TextGives flags? upper) :
    ∃ e, layered files flags? path? = .error e := by
  apply layered_of_unusable
  rintro ⟨lower, upper, hfile, htext⟩
  rcases h with hno | hno
  · exact hno ⟨lower, hfile⟩
  · exact hno ⟨upper, htext⟩

/-! ## The configuration of three texts -/

variable {strict? : Option String}

/-- What three texts come to. Strict checking turns an error of the layers down, and else they
are dropped. -/
theorem value_ofTexts (files : Files) (flags? : Option String) (path? : Option Bytes)
    (strict? : Option String) :
    (ofTexts files flags? path? strict?).value =
      match layered files flags? path? with
      | .ok p => .ok ⟨p, (Switch.resolve strict?).value⟩
      | .error e => if (Switch.resolve strict?).value then .error e else .ok ⟨.empty, false⟩ := by
  unfold ofTexts
  rw [Logged.value_bind]
  cases layered files flags? path? with
  | ok p => rfl
  | error e => cases (Switch.resolve strict?).value <;> rfl

theorem value_ofTexts_on (h : Switch.IsOn strict?) :
    (ofTexts files flags? path? strict?).value =
      (layered files flags? path?).map fun p => ⟨p, true⟩ := by
  rw [value_ofTexts, (Switch.value_resolve strict?).2 h]
  cases layered files flags? path? <;> rfl

theorem value_ofTexts_off (h : ¬ Switch.IsOn strict?) :
    (ofTexts files flags? path? strict?).value =
      .ok ⟨(layered files flags? path?).toOption.getD .empty, false⟩ := by
  rw [value_ofTexts, Switch.value_resolve_off h]
  cases layered files flags? path? <;> rfl

end Config

end HostBoundary
