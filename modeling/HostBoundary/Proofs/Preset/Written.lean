-- The laws of presets as texts. A separator between two texts puts the second
-- on top of the first. A preset that is written down, entry by entry in any
-- order and with any blanks, is read back, and what is read can be written.
import HostBoundary.Proofs.Preset.Grammar

namespace HostBoundary.Preset

/-! ## Settings in a row -/

theorem version_foldl_put (ss : List Setting) (p : Preset) :
    (ss.foldl put p).version = p.version := by
  induction ss generalizing p with
  | nil => rfl
  | cons s ss ih => rw [List.foldl_cons, ih, put]

/-- Settings over a preset are the preset of the settings on top of it. -/
theorem foldl_put_eq_merge (ss : List Setting) (p : Preset) :
    ss.foldl put p = p.merge (ss.foldl put .empty) := by
  apply eq_of_find?
  · rw [version_foldl_put, merge]
  · intro k name
    rw [find?_foldl_put, find?_merge, find?_foldl_put, find?_empty, Option.or_none]

/-- Entries can be read where each of them can, and are their settings in a row. -/
theorem Spec.readInto_eq (es : List (List Char)) (p : Preset) :
    readInto p es = (es.mapM readEntry).map fun ss => ss.foldl put p := by
  induction es generalizing p with
  | nil => rfl
  | cons e es ih =>
    rw [readInto, List.foldlM_cons, List.mapM_cons]
    cases readEntry e with
    | error fault => rfl
    | ok s =>
      show readInto (p.put s) es = _
      rw [ih]
      cases es.mapM readEntry <;> rfl

/-- A preset is its settings in any order. -/
theorem foldl_put_perm {p : Preset} {ss : List Setting} (hv : p.version = none)
    (hss : ss.Perm p.settings) : ss.foldl put .empty = p := by
  have hrows : (ss.map Setting.row).Perm p.rows := hss.map Setting.row
  have hnodup : ((ss.map Setting.row).map Row.entry).Nodup :=
    (hrows.map Row.entry).nodup_iff.2 p.rows_distinct
  apply eq_of_find?
  · rw [version_foldl_put, hv, empty]
  · intro k name
    rw [find?_foldl_put, find?_empty, Option.or_none, Row.last?_perm hrows hnodup, last?_rows,
      Text.ofBytes?_toBytes]
    rfl

namespace Spec

theorem entries_append (cs cs' : List Char) {c : Char} (hc : isSeparator c = true) :
    entries (cs ++ c :: cs') = entries cs ++ entries cs' := by
  unfold entries
  rw [pieces_append cs cs' hc, List.map_append, List.filter_append]

theorem readInto_append (p : Preset) (es es' : List (List Char)) :
    readInto p (es ++ es') = do
      let lower ← readInto p es
      let upper ← readInto .empty es'
      return lower.merge upper := by
  have hrest : ∀ q, readInto q es' = (readInto .empty es').map q.merge := by
    intro q
    rw [readInto_eq, readInto_eq]
    cases es'.mapM readEntry with
    | error e => rfl
    | ok ss => exact congrArg Except.ok (foldl_put_eq_merge ss q)
  rw [readInto, List.foldlM_append, ← readInto]
  cases readInto p es with
  | error e => rfl
  | ok q =>
    show readInto q es' = _
    rw [hrest]
    cases readInto .empty es' <;> rfl

end Spec

/-- A separator between two texts puts the second preset on top of the first.
What is wrong with the first text comes before what is wrong with the second. -/
theorem a_separator_puts_the_second_text_on_top (lower upper : String) :
    let both : Except SpecError Preset := do
      let p ← ofSpec lower
      let q ← ofSpec upper
      return p.merge q
    ofSpec (lower ++ ";" ++ upper) = both ∧ ofSpec (lower ++ "," ++ upper) = both := by
  have hboth : ∀ c, Spec.isSeparator c = true →
      Spec.readInto .empty (Spec.entries (lower.toList ++ c :: upper.toList)) = do
        let p ← ofSpec lower
        let q ← ofSpec upper
        return p.merge q := by
    intro c hc
    rw [Spec.entries_append _ _ hc, Spec.readInto_append]
    rfl
  refine ⟨?_, ?_⟩
  · rw [← hboth ';' rfl]
    simp [ofSpec]
  · rw [← hboth ',' rfl]
    simp [ofSpec]

/-! ## Writing a preset -/

/-- A name that can stand before an equals sign. -/
structure IsName (name : String) : Prop where
  some : name ≠ ""
  bare : Text.Bare name.toList
  plain : ∀ c ∈ name.toList, c ≠ ';' ∧ c ≠ ',' ∧ c ≠ '='

/-- A preset that a text can state. -/
structure Expressible (p : Preset) : Prop where
  version : p.version = none
  names : ∀ s ∈ p.settings, IsName s.name

/-- The setting is written as `name=value`, with any blanks around both. -/
def Writes (s : Setting) (cs : List Char) : Prop :=
  ∃ name value, cs = name ++ '=' :: value ∧ Text.Padded s.name.toList name ∧
    Text.Padded (s.kind.valueText s.value).toList value

/-- What may stand between two settings: separators and blanks, and at least one separator. -/
structure Between (gap : List Char) : Prop where
  only : ∀ c ∈ gap, Spec.isSeparator c = true ∨ Text.isBlank c = true
  some : ∃ c ∈ gap, Spec.isSeparator c = true

/-- The settings are written one after the other. -/
inductive WritesAll : List Setting → List Char → Prop
  | nil : WritesAll [] []
  | last {s : Setting} {cs : List Char} : Writes s cs → WritesAll [s] cs
  | next {s : Setting} {ss : List Setting} {cs gap rest : List Char} :
      Writes s cs → Between gap → WritesAll ss rest → WritesAll (s :: ss) (cs ++ gap ++ rest)

namespace Spec

theorem not_isSeparator_of_isBlank {c : Char} (h : Text.isBlank c = true) :
    isSeparator c = false := by
  rw [← Bool.not_eq_true]
  intro hc
  rcases Bool.or_eq_true_iff.1 hc with hc | hc
  · rw [of_decide_eq_true hc] at h
    cases h
  · rw [of_decide_eq_true hc] at h
    cases h

theorem isBlank_of_isDigit {c : Char} (h : c.isDigit = true) : Text.isBlank c = false := by
  rw [← Bool.not_eq_true]
  intro hb
  have hdigit : '0' ≤ c ∧ c ≤ '9' := by simpa [Char.isDigit, Char.le_def] using h
  have hlow : ¬ c ≤ '\x0D' := fun hc => absurd (Char.le_trans hdigit.1 hc) (by decide)
  have hhigh : ¬ '\u2000' ≤ c := fun hc => absurd (Char.le_trans hc hdigit.2) (by decide)
  simp [Text.isBlank, hlow, hhigh, or_assoc] at hb
  rcases hb with rfl | rfl | rfl | rfl | rfl | rfl | rfl | rfl | rfl <;> exact absurd h (by decide)

/-- A value has no blanks and no separators in it. -/
theorem plain_of_statesValue {k : Kind} {cs : List Char} {v : k.Value} (h : StatesValue k cs v) :
    ∀ c ∈ cs, Text.isBlank c = false ∧ isSeparator c = false := by
  cases k with
  | bool =>
    have hplain : cs.all (fun c => !Text.isBlank c && !isSeparator c) = true := by
      rw [show cs = _ from h]
      cases v <;> rfl
    simpa using hplain
  | int =>
    intro c hc
    rcases Decimal.Numeral.isDigit_or_sign h c hc with hdigit | rfl | rfl
    · refine ⟨isBlank_of_isDigit hdigit, ?_⟩
      rw [← Bool.not_eq_true]
      intro hsep
      rcases Bool.or_eq_true_iff.1 hsep with hsep | hsep
      · rw [of_decide_eq_true hsep] at hdigit
        cases hdigit
      · rw [of_decide_eq_true hsep] at hdigit
        cases hdigit
    · decide
    · decide

/-- The text of a value states it. -/
theorem statesValue_valueText (k : Kind) (v : k.Value) :
    StatesValue k (k.valueText v).toList v := by
  cases k with
  | bool => cases v <;> rfl
  | int =>
    show Decimal.Numeral (String.ofList (Decimal.ofInt v.toInt)).toList v.toInt
    rw [String.toList_ofList]
    exact Decimal.numeral_ofInt v.toInt

/-! ## Reading what is written -/

theorem pieces_of_plain {cs : List Char} (h : ∀ c ∈ cs, isSeparator c = false) :
    pieces cs = [cs] := by
  induction cs with
  | nil => rfl
  | cons c rest ih =>
    obtain ⟨hc, hrest⟩ := List.forall_mem_cons.1 h
    simp [pieces, hc, ih hrest]

theorem entries_of_plain {cs : List Char} (h : ∀ c ∈ cs, isSeparator c = false)
    (hb : ¬ Text.Blank cs) : entries cs = [Text.trim cs] := by
  have hsome : Text.trim cs ≠ [] := mt Text.trim_eq_nil_iff.1 hb
  simp [entries, pieces_of_plain h, hsome]

theorem entries_blank_cons {c : Char} (h : Text.isBlank c = true) (cs : List Char) :
    entries (c :: cs) = entries cs := by
  have htrim : ∀ piece, Text.trim (c :: piece) = Text.trim piece := by
    intro piece
    have hpadded : Text.Padded piece (c :: piece) :=
      ⟨[c], [], by simp, by simp [Text.Blank, h], Text.blank_nil⟩
    exact hpadded.trim_eq
  cases hp : pieces cs with
  | nil => exact absurd hp (pieces_ne_nil cs)
  | cons p ps => simp [entries, pieces, hp, htrim, not_isSeparator_of_isBlank h]

/-- Separators and blanks in front of a text are no entries. -/
theorem entries_gap {gap : List Char}
    (h : ∀ c ∈ gap, isSeparator c = true ∨ Text.isBlank c = true) (cs : List Char) :
    entries (gap ++ cs) = entries cs := by
  induction gap with
  | nil => rfl
  | cons c gap ih =>
    obtain ⟨hc, hgap⟩ := List.forall_mem_cons.1 h
    rw [List.cons_append, ← ih hgap]
    rcases hc with hsep | hblank
    · exact entries_append [] (gap ++ cs) hsep
    · exact entries_blank_cons hblank _

/-- Before the first separator of a gap there are blanks only. -/
theorem exists_separator {gap : List Char} (h : Between gap) :
    ∃ before c after, gap = before ++ c :: after ∧ Text.Blank before ∧ isSeparator c = true := by
  obtain ⟨x, hx, hsep⟩ := h.some
  have hblank : Text.Blank (gap.takeWhile Text.isBlank) := List.all_eq_true.1 List.all_takeWhile
  have hgap := List.takeWhile_append_dropWhile (p := Text.isBlank) (l := gap)
  cases hrest : gap.dropWhile Text.isBlank with
  | nil =>
    rw [hrest, List.append_nil] at hgap
    rw [← hgap] at hx
    rw [not_isSeparator_of_isBlank (hblank x hx)] at hsep
    cases hsep
  | cons c after =>
    have hhead : c ∈ (gap.dropWhile Text.isBlank).head? := by simp [hrest]
    have hstop := Text.not_isBlank_of_dropWhile hhead
    rw [hrest] at hgap
    refine ⟨_, c, after, hgap.symm, hblank, ?_⟩
    rcases h.only c (by rw [← hgap]; simp) with hc | hc
    · exact hc
    · rw [hstop] at hc
      cases hc

theorem states_of_writes {s : Setting} {cs : List Char} (hn : IsName s.name) (h : Writes s cs) :
    States cs s := by
  obtain ⟨name, value, rfl, hname, hvalue⟩ := h
  have hstates := statesValue_valueText s.kind s.value
  have hbare : Text.Bare (s.kind.valueText s.value).toList :=
    Text.bare_of_no_blank fun c hc => (plain_of_statesValue hstates c hc).1
  have htrims : Text.Trims name s.name.toList := ⟨hname, hn.bare⟩
  have hfirst : '=' ∉ name := by
    intro hmem
    rcases hname.mem hmem with hblank | hcore
    · cases hblank
    · exact (hn.plain _ hcore).2.2 rfl
  have hblank : ¬ Text.Blank name := by
    intro hblank
    rw [← Text.trim_eq_nil_iff, Text.trim_eq_iff.2 htrims] at hblank
    exact hn.some (String.toList_eq_nil_iff.1 hblank)
  exact ⟨name, value, _, ⟨rfl, hfirst⟩, hblank, htrims, ⟨hvalue, hbare⟩, hstates⟩

theorem plain_of_writes {s : Setting} {cs : List Char} (hn : IsName s.name) (h : Writes s cs) :
    ∀ c ∈ cs, isSeparator c = false := by
  obtain ⟨name, value, rfl, hname, hvalue⟩ := h
  intro c hc
  rcases List.mem_append.1 hc with hc | hc
  · rcases hname.mem hc with hblank | hcore
    · exact not_isSeparator_of_isBlank hblank
    · obtain ⟨hsemicolon, hcomma, _⟩ := hn.plain c hcore
      simp [isSeparator, hsemicolon, hcomma]
  · rcases List.mem_cons.1 hc with rfl | hc
    · rfl
    · rcases hvalue.mem hc with hblank | hcore
      · exact not_isSeparator_of_isBlank hblank
      · exact (plain_of_statesValue (statesValue_valueText s.kind s.value) c hcore).2

theorem entries_of_writes {s : Setting} {cs : List Char} (hn : IsName s.name) (h : Writes s cs) :
    (entries cs).mapM readEntry = .ok [s] := by
  have hs := states_of_writes hn h
  rw [entries_of_plain (plain_of_writes hn h) hs.not_blank, List.mapM_cons, readEntry_eq_ok.2 hs]
  rfl

theorem entries_of_writesAll {ss : List Setting} {cs : List Char} (h : WritesAll ss cs)
    (hn : ∀ s ∈ ss, IsName s.name) : (entries cs).mapM readEntry = .ok ss := by
  induction h with
  | nil => rfl
  | last hs => exact entries_of_writes (hn _ List.mem_cons_self) hs
  | @next s ss cs gap rest hs hgap _ ih =>
    obtain ⟨hname, hnames⟩ := List.forall_mem_cons.1 hn
    obtain ⟨before, c, after, rfl, hbefore, hc⟩ := exists_separator hgap
    have hwritten : Writes s (cs ++ before) := by
      obtain ⟨name, value, rfl, hpadded, hvalue⟩ := hs
      exact ⟨name, value ++ before, by simp, hpadded, hvalue.append hbefore⟩
    have hafter : ∀ x ∈ after, isSeparator x = true ∨ Text.isBlank x = true :=
      fun x hx => hgap.only x (by simp [hx])
    have hentries : entries (cs ++ (before ++ c :: after) ++ rest) =
        entries (cs ++ before) ++ entries rest := by
      rw [← entries_gap hafter rest, ← entries_append _ _ hc]
      simp
    rw [hentries, List.mapM_append, entries_of_writes hname hwritten, ih hnames]
    rfl

/-! ## What is read can be written -/

theorem plain_of_mem_pieces {cs piece : List Char} (h : piece ∈ pieces cs) :
    ∀ c ∈ piece, isSeparator c = false := by
  induction cs generalizing piece with
  | nil => simp_all [pieces]
  | cons x rest ih =>
    simp only [pieces] at h
    split at h
    · rcases List.mem_cons.1 h with rfl | h
      · simp
      · exact ih h
    · rename_i hx
      cases hp : pieces rest with
      | nil => exact absurd hp (pieces_ne_nil rest)
      | cons p ps =>
        rw [hp] at h ih
        rcases List.mem_cons.1 h with rfl | h
        · simpa [hx] using ih List.mem_cons_self
        · exact ih (List.mem_cons_of_mem _ h)

theorem isName_of_states {piece : List Char} {s : Setting} (h : States piece s)
    (hplain : ∀ c ∈ piece, isSeparator c = false) : IsName s.name := by
  obtain ⟨before, after, value, ⟨rfl, hfirst⟩, hblank, ⟨hpadded, hbare⟩, _⟩ := h
  have hmem : ∀ c ∈ s.name.toList, c ∈ before := by
    obtain ⟨gap, gap', rfl, _, _⟩ := hpadded
    intro c hc
    simp [hc]
  refine ⟨?_, hbare, ?_⟩
  · intro hempty
    rw [hempty] at hpadded
    exact hblank (Text.padded_nil_iff.1 hpadded)
  · intro c hc
    have hsep := hplain c (List.mem_append_left _ (hmem c hc))
    have heq : c ≠ '=' := by
      rintro rfl
      exact hfirst (hmem _ hc)
    simp only [isSeparator, Bool.or_eq_false_iff, decide_eq_false_iff_not] at hsep
    exact ⟨hsep.1, hsep.2, heq⟩

theorem expressible_of_ofSpec {s : String} {p : Preset} (h : ofSpec s = .ok p) :
    Expressible p := by
  rw [ofSpec_eq] at h
  refine ⟨version_readPieces h, ?_⟩
  rintro ⟨k, name, v⟩ hmem
  rw [mem_settings, find?_readPieces h, find?_empty] at hmem
  obtain ⟨before, piece, after, hps, hstates, _⟩ : LastStated _ k name v := by simpa using hmem
  apply isName_of_states hstates
  apply plain_of_mem_pieces
  rw [pieces_eq_splitOnP, hps]
  simp

end Spec

/-- A preset that a text can state is read back from its settings in any order, whatever blanks
and separators are between them, and every preset that is read is one of these. -/
theorem a_preset_is_read_back_from_its_settings :
    (∀ p, Expressible p → ∀ (ss : List Setting) (text : String), ss.Perm p.settings →
      WritesAll ss text.toList → ofSpec text = .ok p) ∧
    ∀ text p, ofSpec text = .ok p → Expressible p := by
  refine ⟨?_, fun text p => Spec.expressible_of_ofSpec⟩
  intro p hp ss text hss hwrites
  have hnames : ∀ s ∈ ss, IsName s.name := fun s hs => hp.names s (hss.mem_iff.1 hs)
  have hread := Spec.entries_of_writesAll hwrites hnames
  rw [ofSpec, Spec.readInto_eq, hread]
  exact congrArg Except.ok (foldl_put_perm hp.version hss)

/-- Two flags that share a name are written the other way round, with a wide blank in front. -/
theorem the_least_integer_is_read_back :
    let p := (empty.put ⟨.bool, "a b", false⟩).put ⟨.int, "a b", -2147483648⟩
    let ss : List Setting := [⟨.int, "a b", -2147483648⟩, ⟨.bool, "a b", false⟩]
    let text := "\u3000a b =-2147483648 " ++ ",;\n" ++ "a b=\tfalse"
    Expressible p ∧ ss.Perm p.settings ∧ WritesAll ss text.toList ∧ ofSpec text = .ok p := by
  intro p ss text
  have hsettings : p.settings = [⟨.bool, "a b", false⟩, ⟨.int, "a b", -2147483648⟩] := rfl
  have hname : IsName "a b" := by
    refine ⟨by decide, ⟨?_, ?_⟩, by simp⟩
    · simp
      rfl
    · simp
      rfl
  have hp : Expressible p := by
    refine ⟨rfl, ?_⟩
    rw [hsettings]
    simp [hname]
  have hss : ss.Perm p.settings := by
    rw [hsettings]
    exact List.Perm.swap ..
  have hblank : ∀ c, Text.isBlank c = true → Text.Blank [c] := by simp [Text.Blank]
  have hint : Writes ⟨.int, "a b", -2147483648⟩ "\u3000a b =-2147483648 ".toList :=
    ⟨"\u3000a b ".toList, "-2147483648 ".toList, rfl,
      ⟨['\u3000'], [' '], rfl, hblank _ rfl, hblank _ rfl⟩,
      ⟨[], [' '], rfl, Text.blank_nil, hblank _ rfl⟩⟩
  have hbool : Writes ⟨.bool, "a b", false⟩ "a b=\tfalse".toList :=
    ⟨"a b".toList, "\tfalse".toList, rfl, Text.Padded.refl _,
      ⟨['\t'], [], rfl, hblank _ rfl, Text.blank_nil⟩⟩
  have hgap : Between ",;\n".toList := by
    refine ⟨?_, ',', by simp, rfl⟩
    simp [Spec.isSeparator]
    rfl
  have hwrites : WritesAll ss text.toList := by
    rw [String.toList_append, String.toList_append]
    exact .next hint hgap (.last hbool)
  exact ⟨hp, hss, hwrites, a_preset_is_read_back_from_its_settings.1 p hp ss text hss hwrites⟩

end HostBoundary.Preset
