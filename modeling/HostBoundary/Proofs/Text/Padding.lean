-- The laws of trimming: what is left of a text has no blank at either end,
-- and blanks that are put around a text change nothing of what is left.
import HostBoundary.Text.Blank

namespace HostBoundary.Text

/-- Nothing but blanks. -/
def Blank (cs : List Char) : Prop := ∀ c ∈ cs, isBlank c = true

/-- There is no blank at either end. -/
structure Bare (cs : List Char) : Prop where
  first : ∀ c ∈ cs.head?, isBlank c = false
  last : ∀ c ∈ cs.getLast?, isBlank c = false

/-- The text `cs` is `core` with blanks around it. -/
def Padded (core cs : List Char) : Prop :=
  ∃ before after, cs = before ++ core ++ after ∧ Blank before ∧ Blank after

theorem blank_nil : Blank [] := by simp [Blank]

theorem blank_append {cs cs' : List Char} : Blank (cs ++ cs') ↔ Blank cs ∧ Blank cs' := by
  simp [Blank, or_imp, forall_and]

theorem Padded.refl (cs : List Char) : Padded cs cs := ⟨[], [], by simp, blank_nil, blank_nil⟩

theorem Padded.trans {a b c : List Char} (h : Padded a b) (h' : Padded b c) : Padded a c := by
  obtain ⟨before, after, rfl, hb, ha⟩ := h
  obtain ⟨before', after', rfl, hb', ha'⟩ := h'
  refine ⟨before' ++ before, after ++ after', by simp, ?_, ?_⟩
  · exact blank_append.2 ⟨hb', hb⟩
  · exact blank_append.2 ⟨ha, ha'⟩

theorem Padded.append {core cs gap : List Char} (h : Padded core cs) (hgap : Blank gap) :
    Padded core (cs ++ gap) :=
  h.trans ⟨[], gap, by simp, blank_nil, hgap⟩

theorem padded_nil_iff {cs : List Char} : Padded [] cs ↔ Blank cs := by
  constructor
  · rintro ⟨before, after, rfl, hb, ha⟩
    rw [List.append_nil]
    exact blank_append.2 ⟨hb, ha⟩
  · intro h
    exact ⟨cs, [], by simp, h, blank_nil⟩

theorem Padded.mem {core cs : List Char} (h : Padded core cs) {c : Char} (hc : c ∈ cs) :
    isBlank c = true ∨ c ∈ core := by
  obtain ⟨before, after, rfl, hb, ha⟩ := h
  rcases List.mem_append.1 hc with hc | hc
  · rcases List.mem_append.1 hc with hc | hc
    · exact Or.inl (hb c hc)
    · exact Or.inr hc
  · exact Or.inl (ha c hc)

theorem bare_of_no_blank {cs : List Char} (h : ∀ c ∈ cs, isBlank c = false) : Bare cs :=
  ⟨fun c hc => h c (List.mem_of_mem_head? hc), fun c hc => h c (List.mem_of_mem_getLast? hc)⟩

/-! ## Trimming at one end -/

theorem trimStart_append {gap : List Char} (h : Blank gap) (cs : List Char) :
    trimStart (gap ++ cs) = trimStart cs := List.dropWhile_append_of_pos h

theorem trimStart_cons {c : Char} (h : isBlank c = false) (cs : List Char) :
    trimStart (c :: cs) = c :: cs := List.dropWhile_cons_of_neg (by simp [h])

theorem trimEnd_append {gap : List Char} (h : Blank gap) (cs : List Char) :
    trimEnd (cs ++ gap) = trimEnd cs := by
  unfold trimEnd
  rw [List.reverse_append, List.dropWhile_append_of_pos]
  intro c hc
  exact h c (List.mem_reverse.1 hc)

theorem trimEnd_concat {c : Char} (h : isBlank c = false) (cs : List Char) :
    trimEnd (cs ++ [c]) = cs ++ [c] := by
  unfold trimEnd
  rw [List.reverse_append, List.reverse_singleton, List.singleton_append,
    List.dropWhile_cons_of_neg (by simp [h]), List.reverse_cons, List.reverse_reverse]

/-- A character that is no blank holds what stands before it. -/
theorem trimEnd_append_cons {c : Char} (h : isBlank c = false) (xs ys : List Char) :
    trimEnd (xs ++ c :: ys) = xs ++ c :: trimEnd ys := by
  unfold trimEnd
  rw [List.reverse_append, List.reverse_cons, List.dropWhile_append, List.dropWhile_append]
  cases hrest : ys.reverse.dropWhile isBlank with
  | nil => simp [h]
  | cons d ds => simp

theorem trimStart_append_cons {c : Char} (h : isBlank c = false) (xs ys : List Char) :
    trimStart (xs ++ c :: ys) = trimStart xs ++ c :: ys := by
  unfold trimStart
  rw [List.dropWhile_append]
  cases hrest : xs.dropWhile isBlank with
  | nil => simp [h]
  | cons d ds => simp

/-! ## Trimming -/

theorem trim_append_cons {c : Char} (h : isBlank c = false) (xs ys : List Char) :
    trim (xs ++ c :: ys) = trimStart xs ++ c :: trimEnd ys := by
  rw [trim, trimStart_append_cons h, trimEnd_append_cons h]

/-- Blanks around a text do not matter to what is left of it. -/
theorem Padded.trim_eq {core cs : List Char} (h : Padded core cs) : trim cs = trim core := by
  obtain ⟨before, after, rfl, hb, ha⟩ := h
  by_cases hcore : Blank core
  · have hall : Blank (before ++ core ++ after) :=
      blank_append.2 ⟨blank_append.2 ⟨hb, hcore⟩, ha⟩
    have hnil : ∀ {cs : List Char}, Blank cs → trim cs = [] := by
      intro cs hcs
      have hstart := trimStart_append hcs []
      rw [List.append_nil] at hstart
      rw [trim, hstart]
      rfl
    rw [hnil hall, hnil hcore]
  · obtain ⟨c, hc, hblank⟩ : ∃ c ∈ core, isBlank c = false := by simpa [Blank] using hcore
    obtain ⟨xs, ys, rfl⟩ := List.append_of_mem hc
    rw [trim_append_cons hblank, List.append_assoc, List.append_assoc, List.cons_append,
      ← List.append_assoc, trim_append_cons hblank, trimStart_append hb, trimEnd_append ha]

theorem padded_trim (cs : List Char) : Padded (trim cs) cs := eq_append_trim cs

theorem padded_trimStart (cs : List Char) : Padded (trimStart cs) cs := by
  refine ⟨cs.takeWhile isBlank, [], ?_, ?_, blank_nil⟩
  · rw [List.append_nil]
    exact (List.takeWhile_append_dropWhile ..).symm
  · exact List.all_eq_true.1 List.all_takeWhile

theorem exists_trimEnd_append (cs : List Char) : ∃ gap, cs = trimEnd cs ++ gap ∧ Blank gap := by
  refine ⟨(cs.reverse.takeWhile isBlank).reverse, ?_, ?_⟩
  · unfold trimEnd
    rw [← List.reverse_append, List.takeWhile_append_dropWhile, List.reverse_reverse]
  · intro c hc
    exact List.all_eq_true.1 List.all_takeWhile c (List.mem_reverse.1 hc)

theorem padded_trimEnd (cs : List Char) : Padded (trimEnd cs) cs := by
  obtain ⟨gap, hcs, hgap⟩ := exists_trimEnd_append cs
  exact ⟨[], gap, hcs, blank_nil, hgap⟩

theorem trim_eq_nil_iff {cs : List Char} : trim cs = [] ↔ Blank cs := by
  constructor
  · intro h
    rw [← padded_nil_iff, ← h]
    exact padded_trim cs
  · intro h
    exact (padded_nil_iff.2 h).trim_eq

theorem trim_of_bare {cs : List Char} (h : Bare cs) : trim cs = cs := by
  have hstart : trimStart cs = cs := by
    cases cs with
    | nil => rfl
    | cons c rest => exact trimStart_cons (h.first c (by simp)) rest
  rw [trim, hstart]
  rcases List.eq_nil_or_concat cs with rfl | ⟨front, c, rfl⟩
  · rfl
  · rw [List.concat_eq_append]
    exact trimEnd_concat (h.last c (by simp)) front

/-- Where dropping blanks stops, there is none. -/
theorem not_isBlank_of_dropWhile {cs : List Char} {c : Char}
    (h : c ∈ (cs.dropWhile isBlank).head?) : isBlank c = false := by
  have hstop := List.head?_dropWhile_not isBlank cs
  rw [Option.mem_def.1 h] at hstop
  exact hstop

theorem bare_trim (cs : List Char) : Bare (trim cs) := by
  refine ⟨?_, ?_⟩
  · intro c hc
    obtain ⟨gap, hgap, _⟩ := exists_trimEnd_append (trimStart cs)
    apply not_isBlank_of_dropWhile
    show c ∈ (trimStart cs).head?
    rw [hgap, List.head?_append, ← trim, Option.mem_def.1 hc]
    rfl
  · intro c hc
    unfold trim trimEnd at hc
    rw [List.getLast?_reverse] at hc
    exact not_isBlank_of_dropWhile hc

/-- `core` is what stands between the blanks at the ends of `cs`. -/
def Trims (cs core : List Char) : Prop := Padded core cs ∧ Bare core

theorem trim_eq_iff {cs core : List Char} : trim cs = core ↔ Trims cs core := by
  constructor
  · rintro rfl
    exact ⟨padded_trim cs, bare_trim cs⟩
  · rintro ⟨hpadded, hbare⟩
    rw [hpadded.trim_eq, trim_of_bare hbare]

theorem trims_trim (cs : List Char) : Trims cs (trim cs) := trim_eq_iff.1 rfl

end HostBoundary.Text
