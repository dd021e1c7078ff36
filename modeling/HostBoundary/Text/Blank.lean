-- Blanks are the characters with the Unicode property White_Space. The
-- set has 25 members. U+200B, U+FEFF and the separators U+001C to U+001F
-- are not in it.

namespace HostBoundary.Text

def isBlank (c : Char) : Bool :=
  c = ' ' || ('\x09' ≤ c && c ≤ '\x0D') || c = '\x85' || c = '\xA0' || c = '\u1680'
    || ('\u2000' ≤ c && c ≤ '\u200A') || c = '\u2028' || c = '\u2029' || c = '\u202F'
    || c = '\u205F' || c = '\u3000'

def trimStart (cs : List Char) : List Char := cs.dropWhile isBlank

def trimEnd (cs : List Char) : List Char := (cs.reverse.dropWhile isBlank).reverse

/-- The text without the blanks at either end. -/
def trim (cs : List Char) : List Char := trimEnd (trimStart cs)

/-- Every blank of the standard library is a blank. -/
theorem isBlank_of_isWhitespace {c : Char} (h : c.isWhitespace = true) : isBlank c = true := by
  simp only [Char.isWhitespace, Bool.or_eq_true, decide_eq_true_eq] at h
  rcases h with ((rfl | rfl) | rfl) | rfl <;> decide

/-- What a trim takes away is blank. -/
theorem eq_append_trim (cs : List Char) :
    ∃ before after, cs = before ++ trim cs ++ after ∧
      (∀ c ∈ before, isBlank c = true) ∧ (∀ c ∈ after, isBlank c = true) := by
  refine ⟨cs.takeWhile isBlank, ((trimStart cs).reverse.takeWhile isBlank).reverse, ?_, ?_, ?_⟩
  · have h : trimStart cs =
        trim cs ++ ((trimStart cs).reverse.takeWhile isBlank).reverse := by
      unfold trim trimEnd
      rw [← List.reverse_append, List.takeWhile_append_dropWhile, List.reverse_reverse]
    rw [List.append_assoc, ← h]
    exact (List.takeWhile_append_dropWhile ..).symm
  · intro c hc
    exact List.all_eq_true.1 (List.all_takeWhile ..) c hc
  · intro c hc
    exact List.all_eq_true.1 (List.all_takeWhile ..) c (List.mem_reverse.1 hc)

end HostBoundary.Text
