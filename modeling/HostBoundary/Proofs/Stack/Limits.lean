-- The law of raised limits. A request for a limit is the top and the slots
-- above it, as exact integers, cut down to what the other side can take. It
-- never wraps, so it never falls below the top, and an engine that keeps the
-- largest limit it was asked for never lowers it.
import HostBoundary.Proofs.Stack.Watched

namespace HostBoundary.Stack

variable {η ω ω' : Type}

/-! ## One request -/

/-- The limit that a stack is asked for: 64 bits without a sign. -/
theorem View.expandLimit_eq (v : View ω) (n : Int32) (s : ω) :
    ∃ l, v.watched.expandLimit n (s, []) = (v.raiseLimit l s, [.limit l]) ∧
      v.expandLimit n s = v.raiseLimit l s ∧
      (l.toNat : Int) = min ((v.top s).toNat + max n.toInt 0) 0xFFFFFFFFFFFFFFFF := by
  refine ⟨Word.addSaturating (v.top s) ((Word.unsigned? n).getD 0), rfl, rfl, ?_⟩
  have hslots := Word.toNat_getD_unsigned? n
  rw [Word.toNat_addSaturating]
  omega

/-- The limit that an engine is asked for, as an exact integer: the top and
the slots, where a negative number counts as zero, or the largest number of
32 bits. -/
def exactLimit (top n : Int32) : Int := min (max top.toInt 0 + max n.toInt 0) 0x7FFFFFFF

theorem exactLimit_nonneg (top n : Int32) : 0 ≤ exactLimit top n := by
  unfold exactLimit
  omega

theorem top_le_exactLimit (top n : Int32) : top.toInt ≤ exactLimit top n := by
  have hlt := Int32.toInt_lt top
  unfold exactLimit
  omega

theorem Engine.expand_eq (e : Engine η ω) (h : η) (n : Int32) (s : ω) :
    ∃ l, e.watched.expand (some h) n (s, []) = (e.expandLimit h l s, [.expandLimit h l]) ∧
      e.expand (some h) n s = e.expandLimit h l s ∧ l.toInt = exactLimit (e.stackTop h s) n := by
  let top := (Word.unsigned? (e.stackTop h s)).getD 0
  let slots := (Word.unsigned? n).getD 0
  refine ⟨Word.clampInt32 (Word.addSaturating top slots).toNat, rfl, rfl, ?_⟩
  have htop : (top.toNat : Int) = max (e.stackTop h s).toInt 0 := Word.toNat_getD_unsigned? _
  have hslots : (slots.toNat : Int) = max n.toInt 0 := Word.toNat_getD_unsigned? n
  have hlttop := Int32.toInt_lt (e.stackTop h s)
  have hltslots := Int32.toInt_lt n
  rw [Word.toInt_clampInt32, Word.toNat_addSaturating, exactLimit, ← htop, ← hslots]
  omega

/-! ## Many requests -/

/-- The engine keeps the largest limit that it was asked for on one state. -/
def KeepsLargest (e : Engine η ω) (h : η) (limit : ω → Int32) : Prop :=
  ∀ l s, (limit (e.expandLimit h l s)).toInt = max (limit s).toInt l.toInt

/-- Calls on one state, each with the top that it meets. Between the calls the
engine may do anything that leaves its limit, so the tops are any tops. -/
inductive Expands (e : Engine η ω) (h : η) (limit : ω → Int32) :
    ω → List (Int32 × Int32) → ω → Prop
  | nil {s} : Expands e h limit s [] s
  | cons {s s₁ top n calls s'} : limit s₁ = limit s → e.stackTop h s₁ = top →
      Expands e h limit (e.expand (some h) n s₁) calls s' →
      Expands e h limit s ((top, n) :: calls) s'

section

variable {e : Engine η ω} {h : η} {limit : ω → Int32} {s s' : ω} {calls : List (Int32 × Int32)}

/-- The limit after the calls goes through the requests one by one. -/
theorem Expands.limit_eq (hrun : Expands e h limit s calls s') (hkeeps : KeepsLargest e h limit) :
    (limit s').toInt =
      (calls.map fun call => exactLimit call.1 call.2).foldl max (limit s).toInt := by
  induction hrun with
  | nil => rfl
  | @cons s s₁ top n calls s' hlimit htop _ ih =>
    obtain ⟨l, _, hexpand, hl⟩ := e.expand_eq h n s₁
    rw [ih, hexpand, hkeeps, hl, hlimit, htop, List.map_cons, List.foldl_cons]

theorem Expands.max?_eq (hrun : Expands e h limit s calls s') (hkeeps : KeepsLargest e h limit) :
    ((limit s).toInt :: calls.map fun call => exactLimit call.1 call.2).max? =
      some (limit s').toInt := by
  rw [List.max?_cons', hrun.limit_eq hkeeps]

theorem Expands.le (hrun : Expands e h limit s calls s') (hkeeps : KeepsLargest e h limit) :
    (limit s).toInt ≤ (limit s').toInt := by
  have hmax := hrun.max?_eq hkeeps
  rw [List.max?_eq_some_iff] at hmax
  exact hmax.2 _ (List.mem_cons_self ..)

end

/-! ## The law -/

/-- What a stack and an engine are asked for when the limit is to be raised. -/
structure LimitLaw (v : View ω) (e : Engine η ω') : Prop where
  /-- A stack gets one request, for the exact sum or the largest number of 64 bits. -/
  view : ∀ n s, ∃ l, v.watched.expandLimit n (s, []) = (v.raiseLimit l s, [.limit l]) ∧
    v.expandLimit n s = v.raiseLimit l s ∧
    (l.toNat : Int) = min ((v.top s).toNat + max n.toInt 0) 0xFFFFFFFFFFFFFFFF
  /-- An engine gets one request. It is not negative and not below the top. -/
  engine : ∀ h n s, ∃ l,
    e.watched.expand (some h) n (s, []) = (e.expandLimit h l s, [.expandLimit h l]) ∧
    e.expand (some h) n s = e.expandLimit h l s ∧
    l.toInt = min (max (e.stackTop h s).toInt 0 + max n.toInt 0) 0x7FFFFFFF ∧
    0 ≤ l.toInt ∧ (e.stackTop h s).toInt ≤ l.toInt
  no_state : ∀ n s, e.watched.expand none n (s, []) = (s, [])
  never_lower : ∀ h limit, KeepsLargest e h limit → ∀ s calls s',
    Expands e h limit s calls s' → (limit s).toInt ≤ (limit s').toInt
  /-- The limit ends as the largest of the first one and all exact requests. -/
  largest : ∀ h limit, KeepsLargest e h limit → ∀ s calls s', Expands e h limit s calls s' →
    ((limit s).toInt :: calls.map fun call =>
      min (max call.1.toInt 0 + max call.2.toInt 0) 0x7FFFFFFF).max? = some (limit s').toInt

/-- A request for a limit is an exact sum that is cut down, and never wraps. -/
theorem a_limit_request_never_wraps (v : View ω) (e : Engine η ω') : LimitLaw v e where
  view := v.expandLimit_eq
  engine h n s := by
    obtain ⟨l, hwatched, hexpand, hl⟩ := e.expand_eq h n s
    refine ⟨l, hwatched, hexpand, hl, ?_, ?_⟩
    · rw [hl]
      exact exactLimit_nonneg _ n
    · rw [hl]
      exact top_le_exactLimit _ n
  no_state _ _ := rfl
  never_lower _ _ hkeeps _ _ _ hrun := hrun.le hkeeps
  largest _ _ hkeeps _ _ _ hrun := hrun.max?_eq hkeeps

/-- An engine with a ceiling keeps the largest limit. -/
theorem BoundedEngine.keepsLargest : KeepsLargest engine () limit :=
  fun l s => Word.toInt_max s.limit l

/-- It can be called with any tops. -/
theorem BoundedEngine.exists_expands (calls : List (Int32 × Int32)) (s : BoundedEngine) :
    ∃ s', Expands engine () limit s calls s' := by
  induction calls generalizing s with
  | nil => exact ⟨s, .nil⟩
  | cons call calls ih =>
    let moved : BoundedEngine := { s with top := call.1 }
    obtain ⟨s', hrun⟩ := ih (engine.expand (some ()) call.2 moved)
    refine ⟨s', .cons ?_ ?_ hrun⟩
    · rfl
    · rfl

/-- A top below zero counts as zero, and a sum that does not fit is the largest number. -/
theorem limits_at_the_ends_of_the_range :
    let start : BoundedEngine := ⟨0, 0, 3, 1000, [], none, []⟩
    let low : List (Int32 × Int32) := [(-2147483648, 7), (10, -2147483648)]
    let high : List (Int32 × Int32) := low ++ [(2147483647, 1), (5, 5)]
    (∃ s', Expands BoundedEngine.engine () BoundedEngine.limit start low s' ∧ s'.limit = 10) ∧
      ∃ s', Expands BoundedEngine.engine () BoundedEngine.limit start high s' ∧
        s'.limit = 2147483647 := by
  intro start low high
  have hlaw := a_limit_request_never_wraps Bounded.view BoundedEngine.engine
  have hlargest := hlaw.largest () BoundedEngine.limit BoundedEngine.keepsLargest start
  constructor
  · obtain ⟨s', hrun⟩ := BoundedEngine.exists_expands low start
    refine ⟨s', hrun, Int32.toInt_inj.1 (Option.some.inj ?_)⟩
    rw [← hlargest low s' hrun]
    decide
  · obtain ⟨s', hrun⟩ := BoundedEngine.exists_expands high start
    refine ⟨s', hrun, Int32.toInt_inj.1 (Option.some.inj ?_)⟩
    rw [← hlargest high s' hrun]
    decide

end HostBoundary.Stack
