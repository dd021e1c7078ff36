-- The law of strict checking: it changes what comes of a fault, and nothing
-- else. Where a lenient start has nothing to report, a strict one gives the
-- same session. Where it has, the strict start fails with what is reported.
import HostBoundary.Proofs.Startup.Logging
import HostBoundary.Proofs.Startup.Values

namespace HostBoundary

/-! ## What is compared -/

namespace Session

/-- Resolves a configuration of three texts, and builds a session of the rows with it. -/
def resolveAndBuild (rows : List Row) (files : Files) (flags? : Option String)
    (path? : Option Bytes) (strict? : Option String) : Logged (Except StartError Session) := do
  match ← Config.ofTexts files flags? path? strict? with
  | .error e => return .error (.config e)
  | .ok config => return (← build rows config).mapError .session

/-- What a build comes to in a start. -/
def buildIn (rows : List Row) (config : Config) : Logged (Except StartError Session) :=
  return (← build rows config).mapError .session

theorem log_buildIn (rows : List Row) (config : Config) :
    (buildIn rows config).log = (build rows config).log := List.append_nil _

theorem buildIn_eq_ok (rows : List Row) (config : Config) (s : Session) :
    (buildIn rows config).value = .ok s ↔ (build rows config).value = .ok s := mapError_eq_ok

end Session

/-- A start reads the table, and resolves and builds with what it finds. -/
theorem start_eq (around : Surroundings) (n : Nat) :
    start around n = around.table.read n >>= fun found =>
      Session.resolveAndBuild found.1 around.files around.environment.flagsText?
        around.environment.path? around.environment.strictText? >>= fun outcome =>
          pure (outcome, found.2) := by
  unfold start Session.resolveAndBuild Config.resolve
  simp only [bind_assoc]
  congr 1
  funext found
  congr 1
  funext outcome
  cases outcome <;> simp

/-- There is no text, or it turns strict checking off. -/
def Switch.Off (text? : Option String) : Prop :=
  ∀ s, text? = some s → String.ofList (Text.trim s.toList) ∈ offWords

theorem Switch.resolve_on {s : String} (h : On s) : resolve (some s) = pure true := by
  have hread : read s = .ok true := by
    unfold read
    exact if_pos h
  rw [resolve, Option.map_some, hread]

theorem Switch.resolve_off {text? : Option String} (h : Off text?) :
    resolve text? = pure false := by
  cases text? with
  | none => rfl
  | some s =>
    have hoff : String.ofList (Text.trim s.toList) ∈ offWords := h s rfl
    have hapart : ∀ word ∈ offWords, word ∉ onWords := by decide
    have hread : read s = .ok false := by
      unfold read
      exact (if_neg (hapart _ hoff)).trans (if_pos hoff)
    rw [resolve, Option.map_some, hread]

namespace Session

variable (rows : List Row) (files : Files) (flags? : Option String) (path? : Option Bytes)

/-- In strict checking a preset that cannot be used ends the start. -/
theorem resolveAndBuild_on {on : String} (h : Switch.On on) :
    resolveAndBuild rows files flags? path? (some on) =
      match Config.layered files flags? path? with
      | .ok p => buildIn rows ⟨p, true⟩
      | .error e => pure (.error (.config e)) := by
  unfold resolveAndBuild Config.ofTexts
  rw [Switch.resolve_on h, pure_bind]
  cases Config.layered files flags? path? with
  | ok p => rfl
  | error e => rfl

/-- Outside strict checking there is a word in the log, and no preset. -/
theorem resolveAndBuild_off {off? : Option String} (h : Switch.Off off?) :
    resolveAndBuild rows files flags? path? off? =
      match Config.layered files flags? path? with
      | .ok p => buildIn rows ⟨p, false⟩
      | .error e =>
        Logged.record (.presetIgnored e.message) >>= fun _ => buildIn rows ⟨.empty, false⟩ := by
  unfold resolveAndBuild Config.ofTexts
  rw [Switch.resolve_off h, pure_bind]
  cases Config.layered files flags? path? with
  | ok p => rfl
  | error e => rfl

end Session

/-! ## What a build logs -/

/-- The flag that a warning is about. -/
def Event.unknown? : Event → Option (Kind × String)
  | .unknownFlag k name => some (k, name)
  | _ => none

/-- The flags that a log warns about, in order. -/
def warned (log : List Event) : List (Kind × String) := log.filterMap Event.unknown?

/-- Nothing in the log is a warning or an error. -/
def Quiet (log : List Event) : Prop := ∀ e ∈ log, e.level ≠ .warn ∧ e.level ≠ .error

/-- The event is of no note, or warns about a name. -/
def Event.Mild (e : Event) : Prop := e.level = .debug ∨ ∃ k name, e = .unknownFlag k name

theorem Event.mild_of_isFlagSet (e : Event) (h : e.isFlagSet = true) : e.Mild := by
  cases e <;> first | exact Or.inl rfl | cases h

theorem Event.Mild.level_ne_error {e : Event} (h : e.Mild) : e.level ≠ .error := by
  rcases h with hdebug | ⟨k, name, rfl⟩
  · rw [hdebug]
    decide
  · exact nofun

theorem Event.Mild.of_warn {e : Event} (h : e.Mild) (hwarn : e.level = .warn) :
    ∃ k name, e = .unknownFlag k name := by
  refine h.resolve_left ?_
  rw [hwarn]
  decide

theorem warned_append (log log' : List Event) : warned (log ++ log') = warned log ++ warned log' :=
  List.filterMap_append

/-- A log of mild events is quiet where it warns about no name. -/
theorem quiet_iff {log : List Event} (h : ∀ e ∈ log, e.Mild) : Quiet log ↔ warned log = [] := by
  rw [warned, List.filterMap_eq_nil_iff]
  constructor
  · intro hquiet e he
    rcases h e he with hdebug | ⟨k, name, rfl⟩
    · cases e <;> first | rfl | cases hdebug
    · exact absurd rfl (hquiet _ he).1
  · intro hnone e he
    refine ⟨?_, (h e he).level_ne_error⟩
    intro hwarn
    obtain ⟨k, name, rfl⟩ := (h e he).of_warn hwarn
    cases hnone _ he

namespace Session

theorem build_of_refused {rows : List Row} {fault : RowError}
    (h : Registry.ofRows rows = .error fault) (config : Config) :
    build rows config = pure (.error (.table fault)) := by
  rw [build, h]

theorem exists_build_lenient_iff (rows : List Row) (p : Preset) :
    (∃ s, (build rows ⟨p, false⟩).value = .ok s) ↔
      (∀ row ∈ rows, row.WellNamed) ∧ (rows.map Row.entry).Nodup := by
  simp only [build_eq_ok, ← Registry.exists_ofRows_iff]
  constructor
  · rintro ⟨s, r, hr, _⟩
    exact ⟨r, hr⟩
  · rintro ⟨r, hr⟩
    exact ⟨_, r, hr, nofun, rfl⟩

section

variable {rows : List Row} {r : Registry} (hr : Registry.ofRows rows = .ok r) (p : Preset)

include hr

/-- A lenient build gives a session. It logs what it writes, and warns about
the names that the registry does not have. -/
theorem build_lenient :
    build rows ⟨p, false⟩ = ⟨.ok ⟨(p.apply r).value.2, ⟨p, false⟩⟩,
      (p.apply r).log ++ ((Preset.unknownTo r p.settings).map (fun flag =>
        .unknownFlag flag.1 flag.2) ++ [.sessionReady (p.apply r).value.2.size])⟩ := by
  rw [← p.apply_unknown r, build, hr]
  rfl

theorem value_build_strict :
    (build rows ⟨p, true⟩).value =
      if Preset.unknownTo r p.settings = [] then .ok ⟨(p.apply r).value.2, ⟨p, true⟩⟩
      else .error (.unknownFlags (Preset.unknownTo r p.settings)) := by
  rw [← p.apply_unknown r, build, hr]
  cases h : (p.apply r).value.1.unknown with
  | nil =>
    simp [h]
    rfl
  | cons flag rest => simp [h]

theorem warned_build :
    warned (build rows ⟨p, false⟩).log = Preset.unknownTo r p.settings := by
  have hwrites : warned (p.apply r).log = [] := by
    rw [warned, List.filterMap_eq_nil_iff]
    intro e he
    have hset := p.only_apply r e he
    cases e <;> first | rfl | cases hset
  have hwarnings : ∀ flags : List (Kind × String),
      warned (flags.map fun flag => .unknownFlag flag.1 flag.2) = flags := by
    intro flags
    simp [warned, List.filterMap_map, Function.comp_def, Event.unknown?]
  rw [build_lenient hr p, warned_append, warned_append, hwrites, hwarnings]
  exact List.append_nil _

end

theorem mild_build (rows : List Row) (p : Preset) :
    ∀ e ∈ (build rows ⟨p, false⟩).log, e.Mild := by
  cases hr : Registry.ofRows rows with
  | error fault =>
    rw [build_of_refused hr]
    exact nofun
  | ok r =>
    rw [build_lenient hr p]
    intro e he
    simp only [List.mem_append, List.mem_map, List.mem_singleton] at he
    rcases he with he | ⟨flag, _, rfl⟩ | rfl
    · exact e.mild_of_isFlagSet (p.only_apply r e he)
    · exact Or.inr ⟨_, _, rfl⟩
    · exact Or.inl rfl

end Session

/-! ## The law -/

/-- A strict and a lenient start of one session differ in what they report. -/
structure DifferInReport (rows : List Row) (strict lenient : Logged (Except StartError Session)) :
    Prop where
  succeeds : (∃ s, strict.value = .ok s) ↔ (∃ s, lenient.value = .ok s) ∧ Quiet lenient.log
  alike : ∀ s s', strict.value = .ok s → lenient.value = .ok s' →
    s.config.preset = s'.config.preset ∧ s.registry = s'.registry
  /-- There are warnings only about names, and these are in order. -/
  warns : ∀ e ∈ lenient.log, e.level = .warn → ∃ k name, e = .unknownFlag k name
  in_order : (warned lenient.log).Pairwise InOrder
  /-- The strict start lists the names that the lenient one warns about. -/
  unknown : warned lenient.log ≠ [] →
    strict.value = .error (.session (.unknownFlags (warned lenient.log)))
  /-- There is an error only about the preset. The strict start fails with it, and the lenient
  one has the defaults. -/
  dropped : ∀ e ∈ lenient.log, e.level = .error → ∃ fault : ConfigError,
    e = .presetIgnored fault.message ∧ strict.value = .error (.config fault) ∧
      ∀ s, lenient.value = .ok s → ∀ row ∈ rows, s.registry.get row.kind row.name = some row.value
  /-- Only the table can keep the lenient start from coming up. -/
  comes_up : (∃ s, lenient.value = .ok s) ↔
    (∀ row ∈ rows, row.WellNamed) ∧ (rows.map Row.entry).Nodup

/-! ## The three ways that a start can go -/

section

variable {rows : List Row}

/-- A preset that cannot be used. The lenient start builds with an empty one. -/
theorem differ_of_dropped (fault : ConfigError) :
    DifferInReport rows (pure (.error (.config fault)))
      (Logged.record (.presetIgnored fault.message) >>= fun _ =>
        Session.buildIn rows ⟨.empty, false⟩) := by
  have hlog : (Logged.record (.presetIgnored fault.message) >>= fun _ =>
      Session.buildIn rows ⟨.empty, false⟩).log =
        .presetIgnored fault.message :: (Session.build rows ⟨.empty, false⟩).log := by
    rw [Logged.log_bind, Session.log_buildIn]
    rfl
  have hmild := Session.mild_build rows .empty
  have hnone : warned (.presetIgnored fault.message ::
      (Session.build rows ⟨.empty, false⟩).log) = [] := by
    cases hr : Registry.ofRows rows with
    | error e => rw [Session.build_of_refused hr]; rfl
    | ok r => exact Session.warned_build hr .empty
  refine ⟨?_, nofun, ?_, ?_, ?_, ?_, ?_⟩
  · constructor
    · rintro ⟨s, hs⟩
      cases hs
    · rintro ⟨_, hquiet⟩
      rw [hlog] at hquiet
      exact absurd rfl (hquiet _ List.mem_cons_self).2
  · rw [hlog, List.forall_mem_cons]
    exact ⟨nofun, fun e he => (hmild e he).of_warn⟩
  · rw [hlog, hnone]
    exact List.Pairwise.nil
  · rw [hlog, hnone]
    exact fun h => absurd rfl h
  · rw [hlog, List.forall_mem_cons]
    refine ⟨fun _ => ⟨fault, rfl, rfl, ?_⟩, fun e he h => absurd h (hmild e he).level_ne_error⟩
    intro s hs row hrow
    obtain ⟨r, hr, _, rfl⟩ := (Session.build_eq_ok _ _ _).1 ((Session.buildIn_eq_ok _ _ _).1 hs)
    have hmem : row ∈ r.rows := by rwa [Registry.rows_of_ofRows hr]
    show r.get row.kind row.name = _
    rw [Registry.get_of_ofRows hr, ← Registry.rows_of_ofRows hr, Row.last?_of_mem r.distinct hmem]
  · show (∃ s, (Session.buildIn rows ⟨.empty, false⟩).value = .ok s) ↔ _
    simp only [Session.buildIn_eq_ok]
    exact Session.exists_build_lenient_iff rows .empty

/-- A table that no registry is built from. Both starts fail with it. -/
theorem differ_of_refused {fault : RowError} (hr : Registry.ofRows rows = .error fault)
    (p : Preset) :
    DifferInReport rows (Session.buildIn rows ⟨p, true⟩) (Session.buildIn rows ⟨p, false⟩) := by
  have hbuild : ∀ strict, Session.buildIn rows ⟨p, strict⟩ =
      pure (.error (.session (.table fault))) := by
    intro strict
    rw [Session.buildIn, Session.build_of_refused hr]
    rfl
  have hup := Session.exists_build_lenient_iff rows p
  simp only [← Session.buildIn_eq_ok, hbuild] at hup
  rw [hbuild, hbuild]
  refine ⟨?_, nofun, nofun, List.Pairwise.nil, fun h => absurd rfl h, nofun, hup⟩
  constructor
  · rintro ⟨s, hs⟩
    cases hs
  · rintro ⟨⟨s, hs⟩, _⟩
    cases hs

/-- A preset over a registry. The strict start fails where there are unknown names. -/
theorem differ_of_built {r : Registry} (hr : Registry.ofRows rows = .ok r) (p : Preset) :
    DifferInReport rows (Session.buildIn rows ⟨p, true⟩) (Session.buildIn rows ⟨p, false⟩) := by
  have hmild := Session.mild_build rows p
  have hwarned := Session.warned_build hr p
  have hstrict : (Session.buildIn rows ⟨p, true⟩).value =
      if Preset.unknownTo r p.settings = [] then .ok ⟨(p.apply r).value.2, ⟨p, true⟩⟩
      else .error (.session (.unknownFlags (Preset.unknownTo r p.settings))) := by
    show (Session.build rows ⟨p, true⟩).value.mapError StartError.session = _
    rw [Session.value_build_strict hr p]
    split <;> rfl
  have hlenient : (Session.buildIn rows ⟨p, false⟩).value =
      .ok ⟨(p.apply r).value.2, ⟨p, false⟩⟩ := by
    rw [Session.buildIn_eq_ok, Session.build_lenient hr p]
  refine ⟨?_, ?_, ?_, ?_, ?_, ?_, ?_⟩
  · rw [Session.log_buildIn, quiet_iff hmild, hwarned, hstrict, hlenient]
    by_cases hnone : Preset.unknownTo r p.settings = []
    · simp [hnone]
    · simp [hnone]
  · intro s s' hs hs'
    rw [hlenient] at hs'
    rw [hstrict] at hs
    cases hs'
    split at hs
    · cases hs
      exact ⟨rfl, rfl⟩
    · cases hs
  · rw [Session.log_buildIn]
    exact fun e he => (hmild e he).of_warn
  · rw [Session.log_buildIn, hwarned]
    exact p.unknownTo_in_order r
  · rw [Session.log_buildIn, hwarned, hstrict]
    exact fun h => if_neg h
  · rw [Session.log_buildIn]
    exact fun e he h => absurd h (hmild e he).level_ne_error
  · simp only [Session.buildIn_eq_ok]
    exact Session.exists_build_lenient_iff rows p

/-- Whatever the table and the texts are, strict checking turns what a lenient
start only reports into a failure, and changes nothing else. -/
theorem strict_checking_differs_in_what_it_reports (rows : List Row) (files : Files)
    (flags? : Option String) (path? : Option Bytes) {on : String} {off? : Option String}
    (hon : Switch.On on) (hoff : Switch.Off off?) :
    DifferInReport rows (Session.resolveAndBuild rows files flags? path? (some on))
      (Session.resolveAndBuild rows files flags? path? off?) := by
  rw [Session.resolveAndBuild_on rows files flags? path? hon,
    Session.resolveAndBuild_off rows files flags? path? hoff]
  cases Config.layered files flags? path? with
  | error fault => exact differ_of_dropped fault
  | ok p =>
    cases hr : Registry.ofRows rows with
    | error fault => exact differ_of_refused hr p
    | ok r => exact differ_of_built hr p

end

/-- Two of the three names are no flags of the table. The strict start lists
them, and where they are left out it has the session of the lenient one. -/
theorem a_strict_start_lists_what_a_lenient_one_warns_about :
    let rows : List Row := [⟨.bool, [97], true⟩]
    let files := Directory.files []
    let text := "b=5; a=false; c=true"
    let names : List (Kind × String) := [(.bool, "c"), (.int, "b")]
    let strict := Session.resolveAndBuild rows files (some text) none (some " yes ")
    let lenient := Session.resolveAndBuild rows files (some text) none (some "no")
    Switch.On " yes " ∧ Switch.Off (some "no") ∧ DifferInReport rows strict lenient ∧
      warned lenient.log = names ∧ strict.value = .error (.session (.unknownFlags names)) := by
  intro rows files text names strict lenient
  have hon : String.ofList (Text.trim " yes ".toList) ∈ Switch.onWords := by decide
  have hoff : Switch.Off (some "no") := by
    intro s hs
    cases hs
    decide
  have hlaw : DifferInReport rows strict lenient :=
    strict_checking_differs_in_what_it_reports rows files (some text) none hon hoff
  have hwarned : warned lenient.log = names := by decide +kernel
  refine ⟨hon, hoff, hlaw, hwarned, ?_⟩
  rw [← hwarned]
  exact hlaw.unknown (by rw [hwarned]; exact nofun)

end HostBoundary
