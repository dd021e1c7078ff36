-- What a startup logs. Skipped rows, a switch or a preset that is ignored,
-- flags that were set and names that are unknown all have events of their
-- own, and none of them says that the session could not be built.
import HostBoundary.Proofs.Lifetime.Runs

namespace HostBoundary

namespace Logged

variable {α β : Type} {P Q : Event → Prop}

/-- Every event that is logged is of this sort. -/
def Only (P : Event → Prop) (x : Logged α) : Prop := ∀ e ∈ x.log, P e

theorem Only.imp {x : Logged α} (hx : x.Only P) (h : ∀ e, P e → Q e) : x.Only Q :=
  fun e he => h e (hx e he)

theorem only_pure (a : α) : (pure a : Logged α).Only P := nofun

theorem only_record {e : Event} (h : P e) : (record e).Only P := by
  intro e' he
  rw [log_record, List.mem_singleton] at he
  exact he ▸ h

theorem only_recordAll {es : List Event} (h : ∀ e ∈ es, P e) : (recordAll es).Only P := h

theorem only_bind {x : Logged α} {f : α → Logged β} (hx : x.Only P) (hf : (f x.value).Only P) :
    (x >>= f).Only P := by
  intro e he
  rw [log_bind, List.mem_append] at he
  exact he.elim (hx e) (hf e)

theorem only_mapM {f : α → Logged β} (h : ∀ a, (f a).Only P) (l : List α) :
    (l.mapM f).Only P := by
  induction l with
  | nil => exact only_pure _
  | cons a l ih =>
    rw [List.mapM_cons]
    exact only_bind (h a) (only_bind ih (only_pure _))

theorem only_foldlM {f : β → α → Logged β} (h : ∀ b a, (f b a).Only P) (l : List α) (b : β) :
    (l.foldlM f b).Only P := by
  induction l generalizing b with
  | nil => exact only_pure b
  | cons a l ih =>
    rw [List.foldlM_cons]
    exact only_bind (h b a) (ih _)

end Logged

namespace Event

def isFlagSet : Event → Bool
  | .flagSet .. => true
  | _ => false

def isStartFailed : Event → Bool
  | .startFailed _ => true
  | _ => false

theorem not_isStartFailed_of_isFlagSet (e : Event) (h : e.isFlagSet = true) :
    e.isStartFailed = false := by
  cases e <;> first | rfl | cases h

end Event

open Logged

/-! ## Writing flags -/

theorem Registry.only_set (r : Registry) (k : Kind) (name : Bytes) (v : k.Value) :
    (r.set k name v).Only fun e => e.isFlagSet = true := by
  unfold set
  split
  · exact only_record rfl
  · exact only_pure _

theorem Preset.only_apply (p : Preset) (r : Registry) :
    (p.apply r).Only fun e => e.isFlagSet = true := by
  apply only_foldlM
  intro d s
  apply only_bind (d.2.only_set s.kind (Text.toBytes s.name) s.value)
  split
  split <;> exact only_pure _

/-! ## Starting -/

theorem RawTable.only_read (t : RawTable) (n : Nat) :
    (t.read n).Only fun e => e.isStartFailed = false := by
  refine only_bind (only_mapM ?_ _) (only_pure _)
  rintro ⟨raw, index⟩
  unfold RawRow.read
  split
  · exact only_record rfl
  · split
    · exact only_record rfl
    · exact only_pure _

theorem Config.only_resolve (env : Environment) (files : Files) :
    (Config.resolve env files).Only fun e => e.isStartFailed = false := by
  unfold resolve ofTexts
  apply only_bind
  · unfold Switch.resolve
    split
    · exact only_pure _
    · exact only_pure _
    · exact only_record rfl
  · split
    · exact only_pure _
    · split
      · exact only_pure _
      · exact only_bind (only_record rfl) (only_pure _)

theorem Session.only_build (rows : List Row) (config : Config) :
    (Session.build rows config).Only fun e => e.isStartFailed = false := by
  unfold build
  split
  · exact only_pure _
  · rename_i r _
    apply only_bind ((config.preset.only_apply r).imp Event.not_isStartFailed_of_isFlagSet)
    split
    split
    · exact only_pure _
    · refine only_bind (only_recordAll ?_) (only_bind (only_record rfl) (only_pure _))
      intro e he
      obtain ⟨flag, _, rfl⟩ := List.mem_map.1 he
      rfl

/-- A start never logs by itself that no session could be built. -/
theorem only_started (around : Surroundings) :
    (started around).Only fun e => e.isStartFailed = false := by
  refine only_bind ?_ (only_pure _)
  apply only_bind (around.table.only_read 0)
  apply only_bind (Config.only_resolve _ _)
  split
  · exact only_pure _
  · exact only_bind (Session.only_build _ _) (only_pure _)

end HostBoundary
