-- Which texts state a preset, and which preset each of them states. A text is
-- cut at its separators into pieces. A piece that is not blank is a name, an
-- equals sign and a value, and the first piece that is not so is the fault.
import HostBoundary.Preset.Spec
import HostBoundary.Proofs.Decimal.Numeral
import HostBoundary.Proofs.Preset.Applying
import HostBoundary.Proofs.Text.Padding

namespace HostBoundary.Preset.Spec

/-! ## Values -/

/-- The text states the value for a flag of the kind. -/
def StatesValue : (k : Kind) → List Char → k.Value → Prop
  | .bool, cs, b => cs = if b then ['t', 'r', 'u', 'e'] else ['f', 'a', 'l', 's', 'e']
  | .int, cs, i => Decimal.Numeral cs i.toInt

theorem setting?_of_statesValue {k : Kind} {cs : List Char} {v : k.Value}
    (h : StatesValue k cs v) (name : String) : setting? name cs = some ⟨k, name, v⟩ := by
  cases k with
  | bool =>
    cases v
    · rw [show cs = ['f', 'a', 'l', 's', 'e'] from h]
      rfl
    · rw [show cs = ['t', 'r', 'u', 'e'] from h]
      rfl
  | int =>
    have hread : Decimal.readInt32? cs = some v := Decimal.readInt32?_eq_some.2 h
    unfold setting?
    -- The words of the booleans are no numerals.
    split
    · rename_i hword
      rw [hword] at hread
      cases hread
    · split
      · rename_i hword
        rw [hword] at hread
        cases hread
      · rw [hread]
        rfl

theorem statesValue_of_setting? {name : String} {cs : List Char} {s : Setting}
    (h : setting? name cs = some s) : s.name = name ∧ StatesValue s.kind cs s.value := by
  unfold setting? at h
  split at h
  · cases h
    exact ⟨rfl, ‹_›⟩
  · split at h
    · cases h
      exact ⟨rfl, ‹_›⟩
    · obtain ⟨i, hi, rfl⟩ := Option.map_eq_some_iff.1 h
      exact ⟨rfl, Decimal.readInt32?_eq_some.1 hi⟩

theorem setting?_eq_none {name : String} {cs : List Char} :
    setting? name cs = none ↔ ∀ k v, ¬ StatesValue k cs v := by
  constructor
  · intro h k v hv
    rw [setting?_of_statesValue hv] at h
    cases h
  · intro h
    cases hs : setting? name cs with
    | none => rfl
    | some s => exact absurd (statesValue_of_setting? hs).2 (h _ _)

/-! ## Pieces -/

theorem pieces_eq_splitOnP (cs : List Char) : pieces cs = cs.splitOnP isSeparator := by
  induction cs with
  | nil => rfl
  | cons c rest ih =>
    rw [List.splitOnP_cons_eq_if_modifyHead, ← ih, pieces]
    split
    · rfl
    · cases hp : pieces rest with
      | nil => exact absurd hp (pieces_ne_nil rest)
      | cons p ps => rfl

/-- A piece is a name and a value, and the first equals sign is between them. -/
structure Parted (piece before after : List Char) : Prop where
  parts : piece = before ++ '=' :: after
  first : '=' ∉ before

theorem exists_parted {piece : List Char} (h : '=' ∈ piece) :
    ∃ before after, Parted piece before after := by
  obtain ⟨before, after, hparts, hfirst⟩ := List.eq_append_cons_of_mem h
  exact ⟨before, after, hparts, hfirst⟩

/-- The piece states the setting. Blanks around the name and the value do not count. -/
def States (piece : List Char) (s : Setting) : Prop :=
  ∃ before after value, Parted piece before after ∧ ¬ Text.Blank before ∧
    Text.Trims before s.name.toList ∧ Text.Trims after value ∧ StatesValue s.kind value s.value

/-- What is wrong with the piece. Texts are shown without the blanks around them. -/
inductive Faulty : List Char → SpecError → Prop
  | missingValue {piece entry : List Char} : '=' ∉ piece → Text.Trims piece entry →
      Faulty piece (.missingValue (String.ofList entry))
  | emptyName {piece before after entry : List Char} : Parted piece before after →
      Text.Blank before → Text.Trims piece entry → Faulty piece (.emptyName (String.ofList entry))
  | badValue {piece before after name value : List Char} : Parted piece before after →
      ¬ Text.Blank before → Text.Trims before name → Text.Trims after value →
      (∀ k v, ¬ StatesValue k value v) →
      Faulty piece (.badValue (String.ofList name) (String.ofList value))

theorem readEntry_of_not_mem {piece : List Char} (h : '=' ∉ piece) :
    readEntry (Text.trim piece) = .error (.missingValue (String.ofList (Text.trim piece))) := by
  obtain ⟨before, after, hparts, _⟩ := Text.padded_trim piece
  have hno : ∀ c ∈ Text.trim piece, (c != '=') = true := by
    intro c hc
    have hmem : c ∈ piece := by
      rw [hparts]
      simp [hc]
    have hne : c ≠ '=' := by
      rintro rfl
      exact h hmem
    simp [hne]
  have hdrop : (Text.trim piece).dropWhile (· != '=') = [] := by
    rw [← List.append_nil (Text.trim piece), List.dropWhile_append_of_pos hno]
    rfl
  unfold readEntry
  rw [hdrop]

theorem readEntry_of_parted {piece before after : List Char} (h : Parted piece before after) :
    readEntry (Text.trim piece) =
      if Text.trim before = [] then .error (.emptyName (String.ofList (Text.trim piece)))
      else match setting? (String.ofList (Text.trim before)) (Text.trim after) with
        | some s => .ok s
        | none => .error
            (.badValue (String.ofList (Text.trim before)) (String.ofList (Text.trim after))) := by
  have hentry : Text.trim piece = Text.trimStart before ++ '=' :: Text.trimEnd after := by
    rw [h.parts, Text.trim_append_cons (by decide)]
  have hno : ∀ c ∈ Text.trimStart before, (c != '=') = true := by
    intro c hc
    have hmem : c ∈ before := (List.dropWhile_sublist _).subset hc
    have hne : c ≠ '=' := by
      rintro rfl
      exact h.first hmem
    simp [hne]
  have hname : Text.trim (Text.trimStart before) = Text.trim before :=
    (Text.padded_trimStart before).trim_eq.symm
  have hvalue : Text.trim (Text.trimEnd after) = Text.trim after :=
    (Text.padded_trimEnd after).trim_eq.symm
  unfold readEntry
  rw [hentry, List.dropWhile_append_of_pos hno, List.takeWhile_append_of_pos hno]
  by_cases hempty : Text.trim before = []
  · simp [hname, hempty]
  · cases hset : setting? (String.ofList (Text.trim before)) (Text.trim after) with
    | none => simp [hname, hvalue, hempty, hset]
    | some s => simp [hname, hvalue, hempty, hset]

/-- Reading an entry gives the setting that its piece states, and no other. -/
theorem readEntry_eq_ok {piece : List Char} {s : Setting} :
    readEntry (Text.trim piece) = .ok s ↔ States piece s := by
  constructor
  · intro h
    by_cases hmem : '=' ∈ piece
    · obtain ⟨before, after, hparted⟩ := exists_parted hmem
      rw [readEntry_of_parted hparted] at h
      split at h
      · cases h
      · rename_i hname
        split at h
        · rename_i hs
          cases h
          obtain ⟨hn, hv⟩ := statesValue_of_setting? hs
          refine ⟨before, after, _, hparted, ?_, ?_, Text.trims_trim after, hv⟩
          · exact mt Text.trim_eq_nil_iff.2 hname
          · rw [hn, String.toList_ofList]
            exact Text.trims_trim before
        · cases h
    · rw [readEntry_of_not_mem hmem] at h
      cases h
  · rintro ⟨before, after, value, hparted, hname, hn, hv, hvalue⟩
    obtain ⟨k, name, v⟩ := s
    have hsome : Text.trim before ≠ [] := mt Text.trim_eq_nil_iff.1 hname
    rw [readEntry_of_parted hparted, if_neg hsome, Text.trim_eq_iff.2 hn, Text.trim_eq_iff.2 hv,
      String.ofList_toList, setting?_of_statesValue hvalue]

/-- The error of an entry says what is wrong with its piece. -/
theorem readEntry_eq_error {piece : List Char} {e : SpecError} :
    readEntry (Text.trim piece) = .error e ↔ Faulty piece e := by
  constructor
  · intro h
    by_cases hmem : '=' ∈ piece
    · obtain ⟨before, after, hparted⟩ := exists_parted hmem
      rw [readEntry_of_parted hparted] at h
      split at h
      · rename_i hname
        cases h
        exact .emptyName hparted (Text.trim_eq_nil_iff.1 hname) (Text.trims_trim piece)
      · rename_i hname
        split at h
        · cases h
        · rename_i hnone
          cases h
          exact .badValue hparted (mt Text.trim_eq_nil_iff.2 hname) (Text.trims_trim before)
            (Text.trims_trim after) (setting?_eq_none.1 hnone)
    · rw [readEntry_of_not_mem hmem] at h
      cases h
      exact .missingValue hmem (Text.trims_trim piece)
  · rintro (⟨hmem, hentry⟩ | ⟨hparted, hblank, hentry⟩ | ⟨hparted, hname, hn, hv, hnone⟩)
    · rw [readEntry_of_not_mem hmem, Text.trim_eq_iff.2 hentry]
    · rw [readEntry_of_parted hparted, if_pos (Text.trim_eq_nil_iff.2 hblank),
        Text.trim_eq_iff.2 hentry]
    · rw [readEntry_of_parted hparted, if_neg (mt Text.trim_eq_nil_iff.1 hname),
        Text.trim_eq_iff.2 hn, Text.trim_eq_iff.2 hv, setting?_eq_none.2 hnone]

theorem States.unique {piece : List Char} {s s' : Setting} (h : States piece s)
    (h' : States piece s') : s = s' := by
  rw [← readEntry_eq_ok] at h h'
  rw [h] at h'
  cases h'
  rfl

theorem States.not_blank {piece : List Char} {s : Setting} (h : States piece s) :
    ¬ Text.Blank piece := by
  obtain ⟨before, after, value, hparted, _⟩ := h
  intro hblank
  have heq := hblank '=' (by simp [hparted.parts])
  cases heq

/-! ## Pieces in a row -/

/-- The pieces read one after the other into a preset, blank ones left out. -/
def readPieces (p : Preset) (ps : List (List Char)) : Except SpecError Preset :=
  readInto p ((ps.map Text.trim).filter fun e => !e.isEmpty)

theorem ofSpec_eq (s : String) :
    ofSpec s = readPieces .empty (s.toList.splitOnP isSeparator) := by
  rw [← pieces_eq_splitOnP]
  rfl

theorem readPieces_blank {piece : List Char} (h : Text.Blank piece) (p : Preset)
    (ps : List (List Char)) : readPieces p (piece :: ps) = readPieces p ps := by
  unfold readPieces
  rw [List.map_cons, Text.trim_eq_nil_iff.2 h]
  rfl

theorem readPieces_cons {piece : List Char} (h : ¬ Text.Blank piece) (p : Preset)
    (ps : List (List Char)) :
    readPieces p (piece :: ps) =
      match readEntry (Text.trim piece) with
      | .ok s => readPieces (p.put s) ps
      | .error e => .error e := by
  have hsome : Text.trim piece ≠ [] := mt Text.trim_eq_nil_iff.1 h
  unfold readPieces
  rw [List.map_cons, List.filter_cons_of_pos (by simpa using hsome), readInto, List.foldlM_cons]
  cases readEntry (Text.trim piece) <;> rfl

theorem readPieces_states {piece : List Char} {s : Setting} (h : States piece s) (p : Preset)
    (ps : List (List Char)) : readPieces p (piece :: ps) = readPieces (p.put s) ps := by
  rw [readPieces_cons h.not_blank, readEntry_eq_ok.2 h]

theorem readPieces_faulty {piece : List Char} {e : SpecError} (hb : ¬ Text.Blank piece)
    (h : Faulty piece e) (p : Preset) (ps : List (List Char)) :
    readPieces p (piece :: ps) = .error e := by
  rw [readPieces_cons hb, readEntry_eq_error.2 h]

/-- A piece is blank, or it states a setting, or there is something wrong with it. -/
theorem piece_cases (piece : List Char) :
    Text.Blank piece ∨ (∃ s, States piece s) ∨ ¬ Text.Blank piece ∧ ∃ e, Faulty piece e := by
  by_cases hb : Text.Blank piece
  · exact Or.inl hb
  · cases hr : readEntry (Text.trim piece) with
    | ok s => exact Or.inr (Or.inl ⟨s, readEntry_eq_ok.1 hr⟩)
    | error e => exact Or.inr (Or.inr ⟨hb, e, readEntry_eq_error.1 hr⟩)

/-- The piece may stand in a text. -/
def Readable (piece : List Char) : Prop := ¬ Text.Blank piece → ∃ s, States piece s

/-- None of the pieces states a value of the flag. -/
def Unstated (ps : List (List Char)) (k : Kind) (name : String) : Prop :=
  ∀ piece ∈ ps, ∀ v, ¬ States piece ⟨k, name, v⟩

/-- Of the pieces that state a value of the flag, the last one states this value. -/
def LastStated (ps : List (List Char)) (k : Kind) (name : String) (v : k.Value) : Prop :=
  ∃ before piece after, ps = before ++ piece :: after ∧ States piece ⟨k, name, v⟩ ∧
    Unstated after k name

/-- The first of the pieces that may not stand in a text is wrong in this way. -/
def FirstFault (ps : List (List Char)) (e : SpecError) : Prop :=
  ∃ before piece after, ps = before ++ piece :: after ∧ (∀ q ∈ before, Readable q) ∧
    ¬ Text.Blank piece ∧ Faulty piece e

theorem unstated_cons {piece : List Char} {ps : List (List Char)} {k : Kind} {name : String} :
    Unstated (piece :: ps) k name ↔ (∀ v, ¬ States piece ⟨k, name, v⟩) ∧ Unstated ps k name := by
  simp [Unstated]

theorem lastStated_cons {piece : List Char} {ps : List (List Char)} {k : Kind} {name : String}
    {v : k.Value} :
    LastStated (piece :: ps) k name v ↔
      LastStated ps k name v ∨ States piece ⟨k, name, v⟩ ∧ Unstated ps k name := by
  constructor
  · rintro ⟨before, q, after, hps, hq, hafter⟩
    cases before with
    | nil =>
      cases hps
      exact Or.inr ⟨hq, hafter⟩
    | cons b before =>
      cases hps
      exact Or.inl ⟨before, q, after, rfl, hq, hafter⟩
  · rintro (⟨before, q, after, rfl, hq, hafter⟩ | ⟨hpiece, hrest⟩)
    · exact ⟨piece :: before, q, after, rfl, hq, hafter⟩
    · exact ⟨[], piece, ps, rfl, hpiece, hrest⟩

theorem firstFault_cons {piece : List Char} {ps : List (List Char)} {e : SpecError} :
    FirstFault (piece :: ps) e ↔
      ¬ Text.Blank piece ∧ Faulty piece e ∨ Readable piece ∧ FirstFault ps e := by
  constructor
  · rintro ⟨before, q, after, hps, hbefore, hblank, hq⟩
    cases before with
    | nil =>
      cases hps
      exact Or.inl ⟨hblank, hq⟩
    | cons b before =>
      cases hps
      obtain ⟨hb, hrest⟩ := List.forall_mem_cons.1 hbefore
      exact Or.inr ⟨hb, before, q, after, rfl, hrest, hblank, hq⟩
  · rintro (⟨hblank, hpiece⟩ | ⟨hpiece, before, q, after, rfl, hbefore, hblank, hq⟩)
    · exact ⟨[], piece, ps, rfl, by simp, hblank, hpiece⟩
    · exact ⟨piece :: before, q, after, rfl, List.forall_mem_cons.2 ⟨hpiece, hbefore⟩, hblank, hq⟩

/-- A piece states a setting or is faulty, never both. -/
theorem States.not_faulty {piece : List Char} {s : Setting} (h : States piece s) (e : SpecError) :
    ¬ Faulty piece e := by
  rw [← readEntry_eq_ok] at h
  rw [← readEntry_eq_error, h]
  exact fun he => nomatch he

theorem readPieces_eq_error {ps : List (List Char)} {p : Preset} {e : SpecError} :
    readPieces p ps = .error e ↔ FirstFault ps e := by
  induction ps generalizing p with
  | nil => simp [readPieces, readInto, FirstFault, pure, Except.pure]
  | cons piece ps ih =>
    rw [firstFault_cons]
    rcases piece_cases piece with hblank | ⟨s, hs⟩ | ⟨hblank, f, hf⟩
    · rw [readPieces_blank hblank, ih]
      simp [Readable, hblank]
    · rw [readPieces_states hs, ih]
      have hno := hs.not_faulty e
      have hreadable : Readable piece := fun _ => ⟨s, hs⟩
      simp [hno, hreadable]
    · rw [readPieces_faulty hblank hf]
      have hunreadable : ¬ Readable piece := by
        intro h
        obtain ⟨s, hs⟩ := h hblank
        exact hs.not_faulty f hf
      rw [← readEntry_eq_error] at hf
      simp [hblank, hunreadable, ← readEntry_eq_error, hf]

theorem exists_readPieces_iff {ps : List (List Char)} {p : Preset} :
    (∃ q, readPieces p ps = .ok q) ↔ ∀ piece ∈ ps, Readable piece := by
  induction ps generalizing p with
  | nil => simp [readPieces, readInto, pure, Except.pure]
  | cons piece ps ih =>
    rw [List.forall_mem_cons]
    rcases piece_cases piece with hblank | ⟨s, hs⟩ | ⟨hblank, f, hf⟩
    · rw [readPieces_blank hblank, ih]
      simp [Readable, hblank]
    · rw [readPieces_states hs, ih]
      have hreadable : Readable piece := fun _ => ⟨s, hs⟩
      simp [hreadable]
    · rw [readPieces_faulty hblank hf]
      constructor
      · rintro ⟨q, hq⟩
        cases hq
      · rintro ⟨h, _⟩
        obtain ⟨s, hs⟩ := h hblank
        exact absurd hf (hs.not_faulty f)

theorem version_readPieces {ps : List (List Char)} {p q : Preset} (h : readPieces p ps = .ok q) :
    q.version = p.version := by
  induction ps generalizing p with
  | nil =>
    cases h
    rfl
  | cons piece ps ih =>
    rcases piece_cases piece with hblank | ⟨s, hs⟩ | ⟨hblank, f, hf⟩
    · rw [readPieces_blank hblank] at h
      exact ih h
    · rw [readPieces_states hs] at h
      rw [ih h]
      rfl
    · rw [readPieces_faulty hblank hf] at h
      cases h

/-- A flag has the value that is stated last, or else the one it had before. -/
theorem find?_readPieces {ps : List (List Char)} {p q : Preset} (h : readPieces p ps = .ok q)
    (k : Kind) (name : String) (v : k.Value) :
    q.find? k name = some v ↔
      LastStated ps k name v ∨ Unstated ps k name ∧ p.find? k name = some v := by
  induction ps generalizing p with
  | nil =>
    cases h
    simp [LastStated, Unstated]
  | cons piece ps ih =>
    rw [lastStated_cons, unstated_cons]
    rcases piece_cases piece with hblank | ⟨s, hs⟩ | ⟨hblank, f, hf⟩
    · rw [readPieces_blank hblank] at h
      have hnone : ∀ w, ¬ States piece ⟨k, name, w⟩ := fun w hw => hw.not_blank hblank
      rw [ih h]
      simp [hnone]
    · rw [readPieces_states hs] at h
      rw [ih h, find?_put]
      by_cases hflag : ∃ w, s = ⟨k, name, w⟩
      · obtain ⟨w, rfl⟩ := hflag
        have hw : ∀ w', States piece ⟨k, name, w'⟩ ↔ w' = w := by
          intro w'
          constructor
          · intro hw'
            cases hs.unique hw'
            rfl
          · rintro rfl
            exact hs
        simp [hw, Setting.row, and_comm, eq_comm]
      · have hnone : ∀ w, ¬ States piece ⟨k, name, w⟩ := by
          intro w hw
          exact hflag ⟨w, hs.unique hw⟩
        have hrow : s.row.valueFor? k (Text.toBytes name) = none := by
          apply Row.valueFor?_of_ne
          intro he
          obtain ⟨k', name', w⟩ := s
          cases congrArg Entry.kind he
          cases Text.toBytes_inj (congrArg Entry.name he)
          exact hflag ⟨w, rfl⟩
        simp [hnone, hrow]
    · rw [readPieces_faulty hblank hf] at h
      cases h

/-- What reading a text gives, in words of its pieces. -/
structure ReadByPieces (s : String) (ps : List (List Char)) : Prop where
  accepted : (∃ p, ofSpec s = .ok p) ↔ ∀ piece ∈ ps, Readable piece
  version : ∀ p, ofSpec s = .ok p → p.version = none
  value : ∀ p, ofSpec s = .ok p → ∀ k name v,
    p.find? k name = some v ↔ LastStated ps k name v
  refused : ∀ e, ofSpec s = .error e ↔ FirstFault ps e

/-- A text is a preset where each of its pieces is blank or states a setting.
The last setting of a flag stands, and the first fault is the error. -/
theorem a_text_says_what_its_pieces_say (s : String) :
    ReadByPieces s (s.toList.splitOnP fun c => c = ';' || c = ',') := by
  have hread : ofSpec s = readPieces .empty (s.toList.splitOnP fun c => c = ';' || c = ',') :=
    ofSpec_eq s
  refine ⟨?_, ?_, ?_, ?_⟩
  · rw [hread]
    exact exists_readPieces_iff
  · intro p hp
    rw [hread] at hp
    exact version_readPieces hp
  · intro p hp k name v
    rw [hread] at hp
    rw [find?_readPieces hp, find?_empty]
    simp
  · intro e
    rw [hread]
    exact readPieces_eq_error

end HostBoundary.Preset.Spec
