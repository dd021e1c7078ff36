-- The law of the report. There is one for every session, and it has no zero
-- byte. As JSON it says the version and the flags that the enumeration of
-- the session gives, in the same order. Where all names are text, the report
-- tells all that the enumeration tells.
import Mathlib.Data.List.Forall2
import HostBoundary.Proofs.Json.ReadBack
import HostBoundary.Proofs.Lifetime.Enumeration

namespace HostBoundary

/-! ## The bytes of a text -/

namespace Text

theorem toBytes_eq (s : String) : toBytes s = s.toList.flatMap String.utf8EncodeChar := by
  unfold toBytes
  rw [← String.utf8Encode_toList]
  simp [List.utf8Encode]

theorem ofNat_ne_zero {n : Nat} (hpos : 0 < n) (hlt : n < 256) : UInt8.ofNat n ≠ 0 := by
  intro h
  have hn := congrArg UInt8.toNat h
  rw [UInt8.toNat_ofNat_of_lt' hlt] at hn
  exact Nat.ne_of_gt hpos hn

/-- A character of two to four bytes has a mark in each of them. -/
theorem utf8EncodeChar_ne_zero {c : Char} (hc : c ≠ '\x00') :
    ∀ b ∈ String.utf8EncodeChar c, b ≠ 0 := by
  have hpos : 0 < c.val.toNat := by
    apply Nat.pos_of_ne_zero
    intro hzero
    exact hc (Char.ext (UInt32.toNat_inj.1 hzero))
  unfold String.utf8EncodeChar
  dsimp only
  split_ifs
  all_goals simp only [List.forall_mem_cons]
  · exact ⟨ofNat_ne_zero hpos (by omega), List.forall_mem_nil _⟩
  · exact ⟨ofNat_ne_zero (by omega) (by omega), ofNat_ne_zero (by omega) (by omega),
      List.forall_mem_nil _⟩
  · exact ⟨ofNat_ne_zero (by omega) (by omega), ofNat_ne_zero (by omega) (by omega),
      ofNat_ne_zero (by omega) (by omega), List.forall_mem_nil _⟩
  · exact ⟨ofNat_ne_zero (by omega) (by omega), ofNat_ne_zero (by omega) (by omega),
      ofNat_ne_zero (by omega) (by omega), ofNat_ne_zero (by omega) (by omega),
      List.forall_mem_nil _⟩

theorem zero_not_mem_toBytes {s : String} (h : '\x00' ∉ s.toList) : 0 ∉ toBytes s := by
  rw [toBytes_eq, List.mem_flatMap]
  rintro ⟨c, hc, hzero⟩
  exact utf8EncodeChar_ne_zero (fun he => h (he ▸ hc)) 0 hzero rfl

end Text

/-! ## The report of a snapshot -/

theorem Kind.text_inj {k k' : Kind} (h : k.text = k'.text) : k = k' := by
  cases k <;> cases k'
  · rfl
  · exact absurd h (by decide)
  · exact absurd h (by decide)
  · rfl

namespace Snapshot

theorem itemsNumberFree_entries (es : List Entry) :
    Json.itemsNumberFree (es.map entryReport) = true := by
  induction es with
  | nil => rfl
  | cons e es ih => exact ih

theorem isNumberFree_report (s : Snapshot) : s.report.isNumberFree = true := by
  simp [report, Json.Value.isNumberFree, Json.membersNumberFree, itemsNumberFree_entries]

theorem zero_not_mem_report (s : Snapshot) : '\x00' ∉ s.report.toText.toList := by
  unfold Json.Value.toText
  rw [String.toList_ofList]
  intro h
  exact absurd (Json.Value.blank_le_render s.isNumberFree_report _ h) (by decide)

/-- Every report goes out. -/
theorem reportText?_eq (s : Snapshot) : s.reportText? = some s.report.toText := by
  simp [reportText?, s.zero_not_mem_report]

theorem says_report_iff (s : Snapshot) (v : Json.Value) :
    Json.Says s.report.toText v ↔ v = s.report := by
  have hread := Json.says_toText s.isNumberFree_report
  constructor
  · intro h
    exact h.unique hread
  · rintro rfl
    exact hread

theorem entryReport_inj {e e' : Entry} (h : ∃ s, e.name = Text.toBytes s)
    (h' : ∃ s, e'.name = Text.toBytes s) (heq : entryReport e = entryReport e') : e = e' := by
  obtain ⟨name, k⟩ := e
  obtain ⟨name', k'⟩ := e'
  obtain ⟨s, rfl⟩ := h
  obtain ⟨s', rfl⟩ := h'
  simp only [entryReport, Text.lossy_toBytes, Json.Value.object.injEq, List.cons.injEq,
    Prod.mk.injEq, Json.Value.text.injEq, true_and, and_true] at heq
  obtain ⟨hkind, rfl⟩ := heq
  rw [Kind.text_inj hkind]

theorem entries_eq {es es' : List Entry} (h : ∀ e ∈ es, ∃ s, e.name = Text.toBytes s)
    (h' : ∀ e ∈ es', ∃ s, e.name = Text.toBytes s)
    (heq : es.map entryReport = es'.map entryReport) : es = es' := by
  induction es generalizing es' with
  | nil => exact (List.map_eq_nil_iff.1 heq.symm).symm
  | cons e es ih =>
    cases es' with
    | nil => cases heq
    | cons e' es' =>
      rw [List.forall_mem_cons] at h h'
      rw [List.map_cons, List.map_cons, List.cons.injEq] at heq
      rw [entryReport_inj h.1 h'.1 heq.1, ih h.2 h'.2 heq.2]

end Snapshot

/-- Every name in the table is a text. -/
def Registry.AllText (r : Registry) : Prop := ∀ row ∈ r.rows, ∃ s, row.name = Text.toBytes s

theorem Registry.AllText.snapshot {r : Registry} (h : r.AllText) :
    ∀ e ∈ r.snapshot.entries, ∃ s, e.name = Text.toBytes s := by
  intro e he
  obtain ⟨row, hrow, rfl⟩ := List.mem_map.1 ((r.mem_snapshot e).1 he)
  exact h row hrow

/-- Where all names are text, a report tells what the snapshot is. -/
theorem Snapshot.eq_of_reportText {r r' : Registry} (h : r.AllText) (h' : r'.AllText)
    (heq : r.snapshot.reportText? = r'.snapshot.reportText?) : r.snapshot = r'.snapshot := by
  rw [reportText?_eq, reportText?_eq, Option.some.injEq] at heq
  have hreport := Json.toText_inj r.snapshot.isNumberFree_report r'.snapshot.isNumberFree_report heq
  simp only [report, Json.Value.object.injEq, List.cons.injEq, Prod.mk.injEq,
    Json.Value.list.injEq, true_and, and_true] at hreport
  have hentries := entries_eq h.snapshot h'.snapshot hreport
  generalize r.snapshot = s at hentries
  generalize r'.snapshot = s' at hentries
  cases s
  cases s'
  exact congrArg _ hentries

namespace Lifetime

/-! ## A call for the report -/

/-- The session, where there is one. -/
def session? (l : Lifetime) : Option Session :=
  match l.slot with
  | .ready s => some s
  | .unbuilt | .failed => none

theorem slot_ensure (l : Lifetime) (around : Surroundings) :
    (l.ensure around).value.slot = .failed ∨ ∃ s, (l.ensure around).value.slot = .ready s := by
  obtain ⟨slot, n⟩ := l
  cases slot with
  | failed => exact Or.inl rfl
  | ready s => exact Or.inr ⟨s, rfl⟩
  | unbuilt =>
    rw [ensure_unbuilt, Logged.value_bind]
    cases (started around).value with
    | error e => exact Or.inl rfl
    | ok s => exact Or.inr ⟨s, rfl⟩

theorem value_step_report (l : Lifetime) (around : Surroundings) :
    (l.step around .report).value =
      (.report ((l.ensure around).value.session?.bind fun s => s.registry.snapshot.reportText?),
        (l.ensure around).value) := by
  rw [step, read_eq_write, write, Logged.value_bind, Logged.value_bind]
  generalize (l.ensure around).value = built
  obtain ⟨slot, n⟩ := built
  cases slot with
  | unbuilt => rfl
  | failed => rfl
  | ready s => rfl

/-- The build since the last shutdown failed. -/
def BuildFailed (os : List Occasion) : Prop :=
  ∃ before first later, os = before ++ first :: later ∧ Stretch before (first :: later) ∧
    ∃ e, (started first.around).value = .error e

theorem slot_eq_failed_iff (os : List Occasion) : (after os).slot = .failed ↔ BuildFailed os := by
  constructor
  · intro h
    have hbuilt : (after os).slot ≠ .unbuilt := by
      rw [h]
      exact nofun
    obtain ⟨before, first, later, rfl, hstretch⟩ := exists_first hbuilt
    refine ⟨before, first, later, rfl, hstretch, ?_⟩
    rw [slot_after_stretch hstretch] at h
    cases hstart : (started first.around).value with
    | error e => exact ⟨e, rfl⟩
    | ok s =>
      rw [hstart] at h
      cases h
  · rintro ⟨before, first, later, rfl, hstretch, e, he⟩
    rw [slot_after_stretch hstretch, he]

end Lifetime

/-! ## The law -/

/-- What a report has for a flag as the enumeration shows it. -/
def Describes (item : Json.Value) (flag : Bytes × Int32) : Prop :=
  ∃ k, Kind.ofTag? flag.2 = some k ∧
    item = .object [("kind", .text k.text), ("name", .text (Text.lossy flag.1))]

/-- The text of a report, beside an enumeration. -/
structure Reports (text : String) (g : Group) : Prop where
  no_zero : 0 ∉ Text.toBytes text
  /-- Read as JSON, the text says this and nothing else. -/
  reads : ∃ items, (∀ v, Json.Says text v ↔
      v = .object [("flags", .list items), ("schema_version", .text Snapshot.reportVersion)]) ∧
    List.Forall₂ Describes items g.seen

theorem reports_snapshot (r : Registry) :
    Reports r.snapshot.report.toText (.ofSnapshot r.snapshot) := by
  have hseen := (enumerates_snapshot r).seen
  refine ⟨Text.zero_not_mem_toBytes r.snapshot.zero_not_mem_report, _,
    r.snapshot.says_report_iff, ?_⟩
  rw [hseen, List.forall₂_map_left_iff, List.forall₂_map_right_iff, List.forall₂_same]
  intro e _
  exact ⟨e.kind, Kind.ofTag?_tag e.kind, rfl⟩

/-- The report is there whenever there is a session, and it says what the
enumeration says. Where all names are text it says nothing less. -/
theorem a_report_says_what_the_enumeration_says :
    (∀ (os : List Occasion) (around : Surroundings),
      let reported := Lifetime.after (os ++ [⟨around, .report⟩])
      ∃ text?, ((Lifetime.after os).step around .report).value = (.report text?, reported) ∧
        (text? = none ↔ Lifetime.BuildFailed (os ++ [⟨around, .report⟩])) ∧
        ∀ text, text? = some text → ∀ around', ∃ g,
          (reported.step around' .flags).value = (.group g, reported) ∧ Reports text g) ∧
    ∀ r r' : Registry, r.AllText → r'.AllText →
      (r.snapshot.reportText? = r'.snapshot.reportText? ↔ r.snapshot = r'.snapshot) := by
  constructor
  · intro os around reported
    have hstep := (Lifetime.after os).value_step_report around
    have hreported : reported = ((Lifetime.after os).ensure around).value := by
      show Lifetime.after (os ++ [⟨around, .report⟩]) = _
      rw [Lifetime.after_append]
      exact congrArg Prod.snd hstep
    have hslot := (Lifetime.after os).slot_ensure around
    rw [← hreported] at hstep hslot
    -- The call itself builds where nothing was built, so these are all cases.
    rcases hslot with hs | ⟨s, hs⟩
    · have hfailed := (Lifetime.slot_eq_failed_iff _).1 hs
      rw [Lifetime.session?, hs] at hstep
      refine ⟨none, hstep, iff_of_true rfl hfailed, ?_⟩
      intro text htext
      cases htext
    · have hbuilt : ¬ Lifetime.BuildFailed (os ++ [⟨around, .report⟩]) := by
        intro hfailed
        have hfailed := (Lifetime.slot_eq_failed_iff _).2 hfailed
        cases hs.symm.trans hfailed
      rw [Lifetime.session?, hs, Option.bind_some, Snapshot.reportText?_eq] at hstep
      refine ⟨_, hstep, iff_of_false (Option.some_ne_none _) hbuilt, ?_⟩
      rintro _ ⟨rfl⟩ around'
      exact ⟨_, Lifetime.value_step_flags hs around', reports_snapshot s.registry⟩
  · intro r r' h h'
    constructor
    · exact Snapshot.eq_of_reportText h h'
    · intro heq
      rw [heq]

/-- A name of a quote, a control character and a byte that is no text goes
out and is read back. A table that has a flag twice has no report. Two
registries that differ in a value alone have one report. -/
theorem a_name_that_is_no_text_is_reported :
    let raws : List RawRow := [⟨some [34, 31, 255, 0], 0, 1⟩, ⟨some [97, 0], 1, 7⟩]
    let good : Surroundings := ⟨.empty, Directory.files [], ⟨some raws, 2⟩⟩
    let bad : Surroundings := ⟨.empty, Directory.files [], ⟨some (raws ++ raws), 4⟩⟩
    (∃ text, (Lifetime.initial.step good .report).value.1 = .report (some text) ∧
      0 ∉ Text.toBytes text ∧ Json.Says text (.object [
        ("flags", .list [
          .object [("kind", .text "bool"), ("name", .text "\"\x1F\uFFFD")],
          .object [("kind", .text "int"), ("name", .text "a")]]),
        ("schema_version", .text "vmbridge.flags.report@0.1.0")])) ∧
    (Lifetime.initial.step bad .report).value.1 = .report none ∧
    ∃ r r' : Registry, r.get .bool [97] = some true ∧ r'.get .bool [97] = some false ∧
      r.AllText ∧ r'.AllText ∧ r.snapshot.reportText? = r'.snapshot.reportText? := by
  intro raws good bad
  obtain ⟨hlaw, hsame⟩ := a_report_says_what_the_enumeration_says
  refine ⟨?_, ?_, ?_⟩
  · obtain ⟨text?, hreply, hnone, hsome⟩ := hlaw [] good
    cases text? with
    | none =>
      have hfailed := (Lifetime.slot_eq_failed_iff _).2 (hnone.1 rfl)
      cases hfailed
    | some text =>
      obtain ⟨g, hflags, hzero, items, hread, hitems⟩ := hsome text rfl good
      refine ⟨text, congrArg Prod.fst hreply, hzero, (hread _).2 ?_⟩
      have hgroup : Reply.group g = .group ⟨[⟨[34, 31, 255], .bool⟩, ⟨[97], .int⟩]⟩ :=
        (congrArg Prod.fst hflags).symm.trans rfl
      cases hgroup
      have hseen : Group.seen ⟨[⟨[34, 31, 255], .bool⟩, ⟨[97], .int⟩]⟩ =
          [([34, 31, 255], 0), ([97], 1)] := rfl
      rw [hseen] at hitems
      rcases hitems with _ | ⟨⟨k, hk, rfl⟩, _ | ⟨⟨k', hk', rfl⟩, ⟨⟩⟩⟩
      cases hk
      cases hk'
      have hlossy : Text.lossy [34, 31, 255] = "\"\x1F\uFFFD" := rfl
      have hwhole : Text.lossy [97] = "a" := rfl
      rw [hlossy, hwhole, Kind.text, Kind.text, Snapshot.reportVersion]
  · obtain ⟨text?, hreply, hnone, _⟩ := hlaw [] bad
    have hfailed : Lifetime.BuildFailed [⟨bad, .report⟩] :=
      ⟨[], _, [], rfl, ⟨Or.inl rfl, by simp⟩, _, rfl⟩
    rw [hnone.2 hfailed] at hreply
    exact congrArg Prod.fst hreply
  · have hbuilt : ∀ b, ∃ r : Registry, Registry.ofRows [⟨.bool, [97], b⟩] = .ok r ∧
        r.get .bool [97] = some b ∧ r.snapshot = ⟨[⟨[97], .bool⟩]⟩ := fun b => ⟨_, rfl, rfl, rfl⟩
    have htext : ∀ {b} {r : Registry}, Registry.ofRows [⟨.bool, [97], b⟩] = .ok r → r.AllText := by
      intro b r hr row hrow
      rw [Registry.rows_of_ofRows hr, List.mem_singleton] at hrow
      exact ⟨"a", by rw [hrow]; rfl⟩
    obtain ⟨r, hr, hget, hsnapshot⟩ := hbuilt true
    obtain ⟨r', hr', hget', hsnapshot'⟩ := hbuilt false
    have hequal := (hsame r r' (htext hr) (htext hr')).2 (hsnapshot.trans hsnapshot'.symm)
    exact ⟨r, r', hget, hget', htext hr, htext hr', hequal⟩

end HostBoundary
