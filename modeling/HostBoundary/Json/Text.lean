-- Texts in a JSON document, from the opening quote on. An escape of four
-- hexadecimal digits is a UTF-16 unit, and only units that pair up to a
-- character are read.
import HostBoundary.Json.Fault

namespace HostBoundary.Json.Text

/-- The value of a hexadecimal digit of either case. -/
def hexValue? (c : Char) : Option Nat :=
  if '0' ≤ c ∧ c ≤ '9' then some (c.toNat - 48)
  else if 'a' ≤ c ∧ c ≤ 'f' then some (c.toNat - 87)
  else if 'A' ≤ c ∧ c ≤ 'F' then some (c.toNat - 55)
  else none

def unit? (a b c d : Char) : Option Nat := do
  return (((← hexValue? a) * 16 + (← hexValue? b)) * 16 + (← hexValue? c)) * 16 + (← hexValue? d)

/-- Four bytes that are no hexadecimal digits, or less than four bytes. -/
def unitFault (cs : List Char) : Fault GrammarError :=
  if byteCount cs < 4 then .atEnd .endInText else ⟨.invalidEscape, byteCount cs - 4⟩

def readUnit : List Char → Except (Fault GrammarError) (Nat × List Char)
  | a :: b :: c :: d :: rest =>
    match unit? a b c d with
    | some n => .ok (n, rest)
    | none => .error (unitFault (a :: b :: c :: d :: rest))
  | cs => .error (unitFault cs)

/-- The given character must come next. -/
def expect (x : Char) : List Char → Except (Fault GrammarError) (List Char)
  | [] => .error (.atEnd .endInText)
  | c :: rest => if c = x then .ok rest else .error (.at .endOfHexEscape (c :: rest))

def IsLowUnit (n : Nat) : Prop := 0xDC00 ≤ n ∧ n ≤ 0xDFFF

instance (n : Nat) : Decidable (IsLowUnit n) :=
  inferInstanceAs (Decidable (0xDC00 ≤ n ∧ n ≤ 0xDFFF))

def IsHighUnit (n : Nat) : Prop := 0xD800 ≤ n ∧ n ≤ 0xDBFF

instance (n : Nat) : Decidable (IsHighUnit n) :=
  inferInstanceAs (Decidable (0xD800 ≤ n ∧ n ≤ 0xDBFF))

/-- A character by its UTF-16 units, after the backslash and the letter. -/
def readUnits (cs : List Char) : Except (Fault GrammarError) (Char × List Char) := do
  let (n, cs) ← readUnit cs
  if IsLowUnit n then .error (.before .loneSurrogate cs)
  else if IsHighUnit n then
    let cs ← expect '\\' cs
    let cs ← expect 'u' cs
    let (m, cs) ← readUnit cs
    if IsLowUnit m then
      .ok (Char.ofNat (0x10000 + (n - 0xD800) * 0x400 + (m - 0xDC00)), cs)
    else .error (.before .loneSurrogate cs)
  else .ok (Char.ofNat n, cs)

/-- What one letter after a backslash stands for. -/
def shortEscape? : Char → Option Char
  | '"' => some '"'
  | '\\' => some '\\'
  | '/' => some '/'
  | 'b' => some '\x08'
  | 'f' => some '\x0C'
  | 'n' => some '\n'
  | 'r' => some '\r'
  | 't' => some '\t'
  | _ => none

/-- What follows a backslash. -/
def readEscape : List Char → Except (Fault GrammarError) (Char × List Char)
  | [] => .error (.atEnd .endInText)
  | c :: rest =>
    match shortEscape? c with
    | some x => .ok (x, rest)
    | none => if c = 'u' then readUnits rest else .error (.at .invalidEscape (c :: rest))

/-! ## An escape takes from the front of the text -/

theorem length_readUnit {cs rest : List Char} {n : Nat} (h : readUnit cs = .ok (n, rest)) :
    rest.length < cs.length := by
  unfold readUnit at h
  split at h
  · split at h
    · cases h
      simp only [List.length_cons]
      omega
    · cases h
  · cases h

theorem length_expect {x : Char} {cs rest : List Char} (h : expect x cs = .ok rest) :
    rest.length < cs.length := by
  unfold expect at h
  split at h
  · cases h
  · split at h
    · cases h
      exact Nat.lt_succ_self _
    · cases h

theorem bind_eq_ok {ε α β : Type} {x : Except ε α} {f : α → Except ε β} {b : β} :
    (x >>= f) = .ok b ↔ ∃ a, x = .ok a ∧ f a = .ok b := by
  cases x with
  | error e => simp [bind, Except.bind]
  | ok a => simp [bind, Except.bind]

theorem length_readUnits {cs rest : List Char} {x : Char} (h : readUnits cs = .ok (x, rest)) :
    rest.length < cs.length := by
  unfold readUnits at h
  obtain ⟨⟨n, cs1⟩, h1, h⟩ := bind_eq_ok.1 h
  have l1 := length_readUnit h1
  dsimp only at h
  split at h
  · cases h
  · split at h
    · obtain ⟨cs2, h2, h⟩ := bind_eq_ok.1 h
      obtain ⟨cs3, h3, h⟩ := bind_eq_ok.1 h
      obtain ⟨⟨m, cs4⟩, h4, h⟩ := bind_eq_ok.1 h
      have l2 := length_expect h2
      have l3 := length_expect h3
      have l4 := length_readUnit h4
      dsimp only at h
      split at h
      · simp only [Except.ok.injEq, Prod.mk.injEq] at h
        obtain ⟨_, rfl⟩ := h
        omega
      · cases h
    · simp only [Except.ok.injEq, Prod.mk.injEq] at h
      obtain ⟨_, rfl⟩ := h
      exact l1

theorem length_readEscape {cs rest : List Char} {x : Char} (h : readEscape cs = .ok (x, rest)) :
    rest.length < cs.length := by
  unfold readEscape at h
  split at h
  · cases h
  · split at h
    · cases h
      exact Nat.lt_succ_self _
    · split at h
      · exact Nat.lt_succ_of_lt (length_readUnits h)
      · cases h

/-! ## The whole text -/

/-- What follows an opening quote: the characters of the text, and what is
left after its closing quote. -/
def read (cs : List Char) : Except (Fault GrammarError) (List Char × List Char) :=
  match cs with
  | [] => .error (.atEnd .endInText)
  | c :: rest =>
    if c = '"' then .ok ([], rest)
    else if c = '\\' then
      match h : readEscape rest with
      | .error f => .error f
      | .ok (x, more) =>
        have : more.length < rest.length := length_readEscape h
        (read more).map fun p => (x :: p.1, p.2)
    else if c < ' ' then .error (.before .controlCharacter rest)
    else (read rest).map fun p => (c :: p.1, p.2)
termination_by cs.length

theorem length_read {cs rest text : List Char} (h : read cs = .ok (text, rest)) :
    rest.length < cs.length := by
  fun_induction read cs generalizing text with
  | case1 => cases h
  | case2 tail =>
    cases h
    exact Nat.lt_succ_self _
  | case3 => cases h
  | case4 tail x more hx hlt _ ih =>
    cases hr : read more with
    | error f => simp [hr, Except.map] at h
    | ok p =>
      simp only [hr, Except.map, Except.ok.injEq, Prod.mk.injEq] at h
      obtain ⟨_, rfl⟩ := h
      have := ih hr
      simp only [List.length_cons]
      omega
  | case5 => cases h
  | case6 c tail _ _ _ ih =>
    cases hr : read tail with
    | error f => simp [hr, Except.map] at h
    | ok p =>
      simp only [hr, Except.map, Except.ok.injEq, Prod.mk.injEq] at h
      obtain ⟨_, rfl⟩ := h
      have := ih hr
      simp only [List.length_cons]
      omega

end HostBoundary.Json.Text
