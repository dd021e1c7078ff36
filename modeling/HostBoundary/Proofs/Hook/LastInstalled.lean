-- The law of the assertion hook over whole runs: every report is seen by the
-- handler that was installed last, once, and by no other. A handler that
-- panics takes its dispatch with it, but nothing of the hook, and the
-- engine's callback makes a trap of it.
import HostBoundary.Hook

namespace HostBoundary.Hook

variable {σ : Type}

/-! ## Runs of calls -/

/-- What can be done with the hook. -/
inductive Call (σ : Type) where
  | install (h : Handler σ)
  | installStandard
  | register
  | dispatch (r : AssertionReport)
  /-- The engine calls its callback. -/
  | callback (raw : RawReport)

inductive Answer where
  | done
  | verdict (v : Verdict)
  /-- The number that the callback answered, if the engine has it. -/
  | code (n : Option Int32)

/-- Makes a call: the answer, the hook and what handlers left of the scene. -/
def perform (hook : Hook σ) (s : Scene σ) : Call σ → Answer × Hook σ × Scene σ
  | .install h => (.done, hook.install h, s)
  | .installStandard => (.done, hook.install standard, s)
  | .register => (.done, hook.register, s)
  | .dispatch r =>
    let done := hook.dispatch r s
    (.verdict done.1, hook, done.2)
  | .callback raw =>
    let done := hook.callback raw s
    (.code done.1, hook, done.2)

/-- Makes calls in a row, whatever panics in them. -/
def run (hook : Hook σ) (s : Scene σ) : List (Call σ) → List Answer × Hook σ × Scene σ
  | [] => ([], hook, s)
  | c :: cs =>
    let (answer, hook, s) := hook.perform s c
    let (answers, hook, s) := hook.run s cs
    (answer :: answers, hook, s)

/-- Makes calls in a row, each on the same hook. -/
def serve (hook : Hook σ) (s : Scene σ) : List (Call σ) → List Answer × Scene σ
  | [] => ([], s)
  | c :: cs =>
    let (answer, _, s) := hook.perform s c
    let (answers, s) := hook.serve s cs
    (answer :: answers, s)

/-- The hook after calls that were made since the program started. -/
def after (s : Scene σ) (calls : List (Call σ)) : Hook σ := (empty.run s calls).2.1

theorem run_append (hook : Hook σ) (s : Scene σ) (cs cs' : List (Call σ)) :
    hook.run s (cs ++ cs') =
      let (answers, hook, s) := hook.run s cs
      let (answers', hook, s) := hook.run s cs'
      (answers ++ answers', hook, s) := by
  induction cs generalizing hook s with
  | nil => rfl
  | cons c cs ih => simp only [List.cons_append, run, ih]

/-! ## What calls leave installed -/

namespace Call

/-- The handler that a call installs. -/
def installs? : Call σ → Option (Handler σ)
  | .install h => some h
  | .installStandard | .register => some standard
  | .dispatch _ | .callback _ => none

def IsReport : Call σ → Prop
  | .dispatch _ | .callback _ => True
  | .install _ | .installStandard | .register => False

def isRegister : Call σ → Bool
  | .register => true
  | _ => false

/-- The handler that was installed last. -/
def lastInstalled (cs : List (Call σ)) : Option (Handler σ) := cs.reverse.findSome? installs?

/-- Whether the engine was given the callback. -/
def registered (cs : List (Call σ)) : Bool := cs.any isRegister

theorem registered_iff {cs : List (Call σ)} : registered cs = true ↔ .register ∈ cs := by
  rw [registered, List.any_eq_true]
  constructor
  · rintro ⟨c, hc, hreg⟩
    cases c with
    | register => exact hc
    | _ => cases hreg
  · exact fun h => ⟨_, h, rfl⟩

end Call

/-- Handlers leave the hook alone, so what a call leaves of it hangs on the call only. -/
theorem perform_eq (hook : Hook σ) (s : Scene σ) (c : Call σ) :
    (hook.perform s c).2.1 = ⟨c.installs?.or hook.handler, c.isRegister || hook.registered⟩ := by
  cases c <;> rfl

theorem run_eq (hook : Hook σ) (s : Scene σ) (cs : List (Call σ)) :
    (hook.run s cs).2.1 =
      ⟨(Call.lastInstalled cs).or hook.handler, Call.registered cs || hook.registered⟩ := by
  induction cs generalizing hook s with
  | nil => rfl
  | cons c cs ih =>
    rw [run, ih, perform_eq, Call.lastInstalled, Call.lastInstalled, Call.registered,
      Call.registered, List.reverse_cons, List.findSome?_append, List.any_cons]
    simp [Option.or_assoc, Bool.or_left_comm, Bool.or_comm]

/-- After every run the hook has the handler that was installed last. -/
theorem after_eq (s : Scene σ) (cs : List (Call σ)) :
    after s cs = ⟨Call.lastInstalled cs, Call.registered cs⟩ := by
  rw [after, run_eq]
  simp [empty]

theorem handler_after (s : Scene σ) (cs : List (Call σ)) :
    (after s cs).handler = Call.lastInstalled cs := by
  rw [after_eq]

theorem registered_after (s : Scene σ) (cs : List (Call σ)) :
    (after s cs).registered = true ↔ .register ∈ cs := by
  rw [after_eq]
  exact Call.registered_iff

/-! ## Reports -/

theorem dispatch_after {s : Scene σ} {cs : List (Call σ)} {h : Handler σ}
    (hlast : Call.lastInstalled cs = some h) : (after s cs).dispatch = h := by
  funext r t
  rw [dispatch, handler_after, hlast]

theorem callback_after {s : Scene σ} {cs : List (Call σ)} (hreg : .register ∈ cs)
    (raw : RawReport) (t : Scene σ) :
    (after s cs).callback raw t =
      let done := (after s cs).dispatch raw.read t
      (some done.1.code, done.2) := by
  rw [callback, if_pos ((registered_after s cs).2 hreg)]

/-- Reports in a row are all made on the hook that the first of them finds. -/
theorem run_reports (hook : Hook σ) (s : Scene σ) {cs : List (Call σ)}
    (h : ∀ c ∈ cs, c.IsReport) :
    hook.run s cs =
      let (answers, s) := hook.serve s cs
      (answers, hook, s) := by
  induction cs generalizing s with
  | nil => rfl
  | cons c cs ih =>
    rw [List.forall_mem_cons] at h
    have hkept : (hook.perform s c).2.1 = hook := by
      cases c with
      | dispatch r => rfl
      | callback raw => rfl
      | install h' => exact absurd h.1 id
      | installStandard => exact absurd h.1 id
      | register => exact absurd h.1 id
    simp only [run, serve, hkept, ih _ h.2]

theorem lastInstalled_registers (cs : List (Call σ)) (n : Nat) :
    Call.lastInstalled (cs ++ List.replicate (n + 1) .register) = some standard := by
  rw [Call.lastInstalled, List.reverse_append, List.reverse_replicate, List.replicate_succ]
  rfl

theorem registered_registers (cs : List (Call σ)) (n : Nat) :
    Call.registered (cs ++ List.replicate (n + 1) .register) = true := by
  simp [Call.registered, List.replicate_succ, Call.isRegister]

theorem Verdict.code_eq_zero {v : Verdict} : v.code = 0 ↔ v = .proceed := by
  cases v <;> simp [code]

theorem Verdict.code_eq_one {v : Verdict} : v.code = 1 ↔ v = .trap ∨ ∃ p, v = .panic p := by
  cases v <;> simp [code]

/-- The text that stands for a C string: a stand-in where there is none, and
else what its bytes up to the zero byte say. -/
structure ShownAs (missing : String) (memory : Option Bytes) (text : String) : Prop where
  absent : memory = none → text = missing
  ended : ∀ bs rest, 0 ∉ bs → memory = some (bs ++ 0 :: rest) → text = Text.lossy bs

theorem shownAs_textOr (missing : String) (memory : Option Bytes) :
    ShownAs missing memory (textOr missing memory) where
  absent := by
    rintro rfl
    rfl
  ended bs rest h := by
    rintro rfl
    rw [textOr, Text.untilZero_append h]

/-- What the handler gets of a report of the engine. -/
structure ReadAs (raw : RawReport) (r : AssertionReport) : Prop where
  line : r.line = raw.line
  expression : ShownAs "?" raw.expression r.expression
  file : ShownAs "?" raw.file r.file
  function : ShownAs "" raw.function r.function

/-! ## The law -/

/-- How reports are answered after calls in a row that began on the scene `s`. -/
structure OneSees (s : Scene σ) (calls : List (Call σ)) : Prop where
  /-- In a run a call answers what it answers after the calls before it, on what they left. -/
  answer : ∀ c, empty.run s (calls ++ [c]) =
    let (answers, hook, t) := empty.run s calls
    let (answer, hook, t) := hook.perform t c
    (answers ++ [answer], hook, t)
  /-- With nothing installed nobody sees a report. -/
  nobody : Call.lastInstalled calls = none → ∀ r t, (after s calls).dispatch r t = (.trap, t)
  /-- A dispatch is one call of the handler that was installed last. What it answers is the
  answer, also where it panics, and what it leaves of the scene is all that is left. -/
  handled : ∀ h, Call.lastInstalled calls = some h → ∀ r t, (after s calls).dispatch r t = h r t
  /-- The standard handler writes a report, once. -/
  standard : Call.lastInstalled calls = some standard → ∀ r t,
    (after s calls).dispatch r t = (.trap, ⟨t.own, t.written ++ (r.text ++ "\n")⟩)
  /-- Once the engine has the callback, that is one call of the same handler too. -/
  callback : .register ∈ calls → ∀ h, Call.lastInstalled calls = some h → ∀ raw t,
    ∃ n, (after s calls).callback raw t = (some n, (h raw.read t).2) ∧
      (n = 0 ↔ (h raw.read t).1 = .proceed) ∧
      (n = 1 ↔ (h raw.read t).1 = .trap ∨ ∃ p, (h raw.read t).1 = .panic p)
  /-- Whoever has the callback has a handler. -/
  somebody : .register ∈ calls → ∃ h, Call.lastInstalled calls = some h
  unregistered : .register ∉ calls → ∀ raw t, (after s calls).callback raw t = (none, t)
  /-- Reports leave the hook as it is, whoever panics: each of them in a row is
  answered as if it were the first one. -/
  reports : ∀ cs, (∀ c ∈ cs, c.IsReport) → ∀ t, (after s calls).run t cs =
    let (answers, t) := (after s calls).serve t cs
    (answers, after s calls, t)
  /-- However often the callback is registered, the standard handler is the only one. -/
  registers : ∀ n,
    after s (calls ++ List.replicate (n + 1) .register) = ⟨some Hook.standard, true⟩
  read : ∀ raw : RawReport, ReadAs raw raw.read

theorem exists_lastInstalled {cs : List (Call σ)} (h : .register ∈ cs) :
    ∃ h, Call.lastInstalled cs = some h := by
  apply Option.isSome_iff_exists.1
  rw [Call.lastInstalled, List.findSome?_isSome_iff]
  exact ⟨.register, List.mem_reverse.2 h, rfl⟩

/-- After every run of calls, one handler sees a report, the one that was installed last. -/
theorem the_handler_installed_last_sees_every_report (s : Scene σ) (calls : List (Call σ)) :
    OneSees s calls where
  answer c := by
    rw [run_append]
    rfl
  nobody h r t := by
    rw [dispatch, handler_after, h]
  handled h hlast r t := by
    rw [dispatch_after hlast]
  standard hlast r t := by
    rw [dispatch_after hlast]
    rfl
  callback hreg h hlast raw t := by
    refine ⟨_, ?_, Verdict.code_eq_zero, Verdict.code_eq_one⟩
    rw [callback_after hreg, dispatch_after hlast]
  somebody := exists_lastInstalled
  unregistered h raw t := by
    rw [Hook.callback, if_neg fun hreg => h ((registered_after s calls).1 hreg)]
  reports cs h t := run_reports _ t h
  registers n := by
    rw [after_eq, lastInstalled_registers, registered_registers]
  read raw := ⟨rfl, shownAs_textOr "?" raw.expression, shownAs_textOr "?" raw.file,
    shownAs_textOr "" raw.function⟩

/-- A handler that panics is asked again, through the engine's callback, and
is not asked any more once another one is installed. Each call is in the list
of the handlers once. -/
example (p : Payload) (r : AssertionReport) (raw : RawReport) :
    let listing (id : Nat) (v : Verdict) : Handler (List (Nat × AssertionReport)) := fun r s =>
      (v, { s with own := s.own ++ [(id, r)] })
    let done := empty.run ⟨[], ""⟩ [.register, .install (listing 0 (.panic p)), .dispatch r,
      .callback raw, .install (listing 1 .proceed), .callback raw]
    done.1 = [.done, .done, .verdict (.panic p), .code (some 1), .done, .code (some 0)] ∧
      done.2.2 = ⟨[(0, r), (0, raw.read), (1, raw.read)], ""⟩ := ⟨rfl, rfl⟩

end HostBoundary.Hook
