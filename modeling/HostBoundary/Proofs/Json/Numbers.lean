-- The numbers of a document. What is read as a number is a literal of the
-- grammar, and an integer is kept whole where it fits in 64 bits. A number
-- ends where no character goes on with it, whatever stands behind.
import HostBoundary.Json.Number
import HostBoundary.Proofs.Decimal.Numeral

namespace HostBoundary.Json.Number

/-! ## The grammar -/

/-- The digits before a point. A zero in front stands alone. -/
structure IsWholePart (ds : List Char) : Prop where
  digits : Decimal.IsDigits ds
  zero : ds.head? = some '0' → ds = ['0']

inductive IsFraction : List Char → Prop
  | none : IsFraction []
  | some {ds : List Char} : Decimal.IsDigits ds → IsFraction ('.' :: ds)

/-- What follows the letter of an exponent. -/
inductive IsPower : List Char → Prop
  | plain {ds : List Char} : Decimal.IsDigits ds → IsPower ds
  | plus {ds : List Char} : Decimal.IsDigits ds → IsPower ('+' :: ds)
  | minus {ds : List Char} : Decimal.IsDigits ds → IsPower ('-' :: ds)

inductive IsExponent : List Char → Prop
  | none : IsExponent []
  | small {cs : List Char} : IsPower cs → IsExponent ('e' :: cs)
  | capital {cs : List Char} : IsPower cs → IsExponent ('E' :: cs)

/-- The texts of numbers without a sign. -/
inductive IsUnsigned : List Char → Prop
  | parts {ds fr ex : List Char} : IsWholePart ds → IsFraction fr → IsExponent ex →
      IsUnsigned (ds ++ (fr ++ ex))

/-- The texts of numbers. -/
inductive IsLiteral : List Char → Prop
  | plain {cs : List Char} : IsUnsigned cs → IsLiteral cs
  | minus {cs : List Char} : IsUnsigned cs → IsLiteral ('-' :: cs)

/-- The text is the integer, without fraction and exponent. The integer fits
in 64 bits, and minus zero is none. -/
inductive IsInteger : List Char → Int → Prop
  | plain {ds : List Char} : IsWholePart ds → Nat.ofDigitChars 10 ds 0 < 0x10000000000000000 →
      IsInteger ds (Nat.ofDigitChars 10 ds 0)
  | minus {ds : List Char} : IsWholePart ds → 0 < Nat.ofDigitChars 10 ds 0 →
      Nat.ofDigitChars 10 ds 0 ≤ 0x8000000000000000 →
      IsInteger ('-' :: ds) (-(Nat.ofDigitChars 10 ds 0 : Int))

/-- The text says the number. A literal that is no integer of 64 bits says
the double that is found for it, if one is. -/
inductive Spells : List Char → Number → Prop
  | whole {cs : List Char} {i : Int} : IsInteger cs i → Spells cs (.whole i)
  | real {c : Char} {cs : List Char} {x : Float} : IsLiteral (c :: cs) →
      read c cs = .ok (.real x, []) → Spells (c :: cs) (.real x)

/-- The text begins with a character that goes on with a number. -/
def Continues : List Char → Prop
  | [] => False
  | c :: _ => c.isDigit = true ∨ c = '.' ∨ c = 'e' ∨ c = 'E'

theorem startsWithDigit_of_not_continues {cs : List Char} (h : ¬ Continues cs) :
    startsWithDigit cs = false := by
  cases cs with
  | nil => rfl
  | cons c cs => exact Bool.eq_false_iff.2 fun hc => h (Or.inl hc)

/-! ## Digits -/

theorem startsWithDigit_append {ds : List Char} (h : Decimal.IsDigits ds) (cs : List Char) :
    startsWithDigit (ds ++ cs) = true := by
  cases ds with
  | nil => exact absurd rfl h.some
  | cons c ds => exact h.head

/-- The digits in front of a text, where it has some. -/
theorem isDigits_of_append {ds cs : List Char} (h : startsWithDigit (ds ++ cs) = true)
    (hds : ∀ c ∈ ds, c.isDigit = true) (hcs : startsWithDigit cs = false) :
    Decimal.IsDigits ds := by
  refine ⟨?_, hds⟩
  rintro rfl
  rw [List.nil_append, hcs] at h
  cases h

theorem takeWhile_append {ds cs : List Char} (h : ∀ c ∈ ds, c.isDigit = true)
    (hcs : startsWithDigit cs = false) : (ds ++ cs).takeWhile Char.isDigit = ds := by
  rw [List.takeWhile_append_of_pos h]
  cases cs with
  | nil => simp
  | cons c cs =>
    have hc : ¬ c.isDigit = true := ne_true_of_eq_false hcs
    rw [List.takeWhile_cons_of_neg hc, List.append_nil]

theorem dropWhile_append {ds cs : List Char} (h : ∀ c ∈ ds, c.isDigit = true)
    (hcs : startsWithDigit cs = false) : (ds ++ cs).dropWhile Char.isDigit = cs := by
  rw [List.dropWhile_append_of_pos h]
  cases cs with
  | nil => rfl
  | cons c cs => exact List.dropWhile_cons_of_neg (ne_true_of_eq_false hcs)

theorem exists_digits (cs : List Char) : ∃ ds rest, cs = ds ++ rest ∧
    (∀ c ∈ ds, c.isDigit = true) ∧ startsWithDigit rest = false := by
  refine ⟨cs.takeWhile Char.isDigit, cs.dropWhile Char.isDigit,
    List.takeWhile_append_dropWhile.symm, List.all_eq_true.1 List.all_takeWhile, ?_⟩
  have hstop := List.head?_dropWhile_not Char.isDigit cs
  cases h : cs.dropWhile Char.isDigit with
  | nil => rfl
  | cons c rest => simpa [h, startsWithDigit] using hstop

theorem absorb_stop {limit v taken : Nat} {cs : List Char} (h : startsWithDigit cs = false) :
    absorb limit v taken cs = (v, taken, cs) := by
  cases cs with
  | nil => rfl
  | cons c cs => simp [absorb, show c.isDigit = false from h]

/-- Of the digits `ds ++ es` behind the value `v` the first ones fit below the
limit and are taken, whatever stands behind the digits. -/
structure Absorbs (limit v : Nat) (ds es : List Char) : Prop where
  taken : ∀ c ∈ ds, c.isDigit = true
  left : ∀ c ∈ es, c.isDigit = true
  small : v < limit → Nat.ofDigitChars 10 ds v < limit
  absorb_eq : ∀ k more, startsWithDigit more = false → absorb limit v k (ds ++ (es ++ more)) =
    (Nat.ofDigitChars 10 ds v, k + ds.length, es ++ more)

theorem Absorbs.digits {limit v : Nat} {ds es : List Char} (h : Absorbs limit v ds es) :
    ∀ c ∈ ds ++ es, c.isDigit = true :=
  List.forall_mem_append.2 ⟨h.taken, h.left⟩

theorem absorbs_nil {limit v : Nat} {c : Char} {es : List Char}
    (hc : ¬ (c.isDigit = true ∧ 10 * v + (c.toNat - 48) < limit))
    (h : ∀ x ∈ c :: es, x.isDigit = true) : Absorbs limit v [] (c :: es) := by
  refine ⟨by simp, h, id, ?_⟩
  intro k more _
  rw [List.nil_append, List.cons_append, absorb, if_neg hc]
  rfl

theorem absorbs_none (limit v : Nat) : Absorbs limit v [] [] :=
  ⟨by simp, by simp, id, fun _ _ => absorb_stop⟩

theorem Absorbs.cons {limit v : Nat} {c : Char} {ds es : List Char}
    (hc : c.isDigit = true ∧ 10 * v + (c.toNat - 48) < limit)
    (h : Absorbs limit (10 * v + (c.toNat - 48)) ds es) : Absorbs limit v (c :: ds) es := by
  refine ⟨List.forall_mem_cons.2 ⟨hc.1, h.taken⟩, h.left, fun _ => h.small hc.2, ?_⟩
  intro k more hmore
  rw [List.cons_append, absorb, if_pos hc, h.absorb_eq _ more hmore, Nat.ofDigitChars_cons,
    List.length_cons, Nat.add_right_comm, Nat.add_assoc]
  rfl

/-- The digits in front of a text, the ones that are taken apart from the others. -/
theorem exists_absorbs (limit v : Nat) (cs : List Char) :
    ∃ ds es rest, cs = ds ++ (es ++ rest) ∧ Absorbs limit v ds es ∧
      startsWithDigit rest = false := by
  induction cs generalizing v with
  | nil => exact ⟨[], [], [], rfl, absorbs_none limit v, rfl⟩
  | cons c cs ih =>
    by_cases hc : c.isDigit = true ∧ 10 * v + (c.toNat - 48) < limit
    · obtain ⟨ds, es, rest, rfl, habsorbs, hrest⟩ := ih (10 * v + (c.toNat - 48))
      exact ⟨c :: ds, es, rest, rfl, habsorbs.cons hc, hrest⟩
    · obtain ⟨es, rest, hcs, hes, hrest⟩ := exists_digits (c :: cs)
      refine ⟨[], es, rest, hcs, ?_, hrest⟩
      cases es with
      | nil => exact absorbs_none limit v
      | cons x es =>
        obtain ⟨rfl, -⟩ := List.cons.inj hcs
        exact absorbs_nil hc hes

/-! ## What is read is a literal -/

def IsReal (n : Number) : Prop := ∃ x, n = .real x

/-- The reader takes a part of this shape from the front of `cs` as the
number, and takes it so whatever stands behind that does not go on with it. -/
def Takes (f : List Char → Read) (Part : List Char → Prop) (cs rest : List Char) (n : Number) :
    Prop :=
  ∃ part, cs = part ++ rest ∧ Part part ∧ startsWithDigit rest = false ∧
    ∀ more, ¬ Continues more → f (part ++ more) = .ok (n, more)

theorem ofParts_sound {negative : Bool} {v : Nat} {e : Int} {cs rest : List Char} {n : Number}
    (h : ofParts negative v e cs = .ok (n, rest)) :
    IsReal n ∧ cs = rest ∧ ∀ more, ofParts negative v e more = .ok (n, more) := by
  unfold ofParts at h ⊢
  dsimp only at h ⊢
  split at h
  · cases h
    exact ⟨⟨_, rfl⟩, rfl, fun _ => rfl⟩
  · cases h

/-- The digits of an exponent. -/
def readPower (negative : Bool) (v : Nat) (e : Int) (down : Bool) (digits : List Char) : Read :=
  match digits with
  | [] => .error (.atEnd .endInValue)
  | c :: _ =>
    if c.isDigit then
      let (x, _, rest) := absorb (0x80000000) 0 0 digits
      if startsWithDigit rest then
        if v ≠ 0 ∧ down = false then .error (.before .numberOutOfRange (rest.drop 1))
        else .ok (.real (signed negative 0), rest.dropWhile Char.isDigit)
      else ofParts negative v (if down then e - x else e + x) rest
    else .error (.at .invalidNumber digits)

theorem readExponent_plain {negative : Bool} {v : Nat} {e : Int} {cs : List Char}
    (hplus : cs.head? ≠ some '+') (hminus : cs.head? ≠ some '-') :
    readExponent negative v e cs = readPower negative v e false cs := by
  unfold readExponent
  split
  rename_i hm
  split at hm
  · exact absurd rfl hplus
  · exact absurd rfl hminus
  · cases hm
    rfl

theorem readPower_digits {negative down : Bool} {v : Nat} {e : Int} {cs : List Char}
    (h : startsWithDigit cs = true) :
    readPower negative v e down cs =
      let (x, _, rest) := absorb (0x80000000) 0 0 cs
      if startsWithDigit rest then
        if v ≠ 0 ∧ down = false then .error (.before .numberOutOfRange (rest.drop 1))
        else .ok (.real (signed negative 0), rest.dropWhile Char.isDigit)
      else ofParts negative v (if down then e - x else e + x) rest := by
  cases cs with
  | nil => cases h
  | cons c cs => exact if_pos h

theorem startsWithDigit_of_readPower {negative down : Bool} {v : Nat} {e : Int}
    {cs rest : List Char} {n : Number} (h : readPower negative v e down cs = .ok (n, rest)) :
    startsWithDigit cs = true := by
  unfold readPower at h
  split at h
  · cases h
  · split at h
    · rename_i hc
      exact hc
    · cases h

/-- What is read of an exponent depends on its digits only. -/
theorem readPower_append {negative down : Bool} {v : Nat} {e : Int} {ds es more : List Char}
    (h : Absorbs 0x80000000 0 ds es) (hsome : Decimal.IsDigits (ds ++ es))
    (hmore : startsWithDigit more = false) :
    readPower negative v e down (ds ++ es ++ more) =
      if startsWithDigit es then
        if v ≠ 0 ∧ down = false then .error (.before .numberOutOfRange ((es ++ more).drop 1))
        else .ok (.real (signed negative 0), more)
      else ofParts negative v
        (if down then e - Nat.ofDigitChars 10 ds 0 else e + Nat.ofDigitChars 10 ds 0) more := by
  rw [readPower_digits (startsWithDigit_append hsome more), List.append_assoc,
    h.absorb_eq 0 more hmore]
  cases es with
  | nil =>
    dsimp only
    rw [List.nil_append, hmore]
    rfl
  | cons c es =>
    have hc : c.isDigit = true := h.left c List.mem_cons_self
    dsimp only
    rw [dropWhile_append h.left hmore,
      if_pos (show startsWithDigit (c :: es ++ more) = true from hc),
      if_pos (show startsWithDigit (c :: es) = true from hc)]

theorem readPower_sound {negative down : Bool} {v : Nat} {e : Int} {cs rest : List Char}
    {n : Number} (h : readPower negative v e down cs = .ok (n, rest)) :
    IsReal n ∧ Takes (readPower negative v e down) Decimal.IsDigits cs rest n := by
  have hdigit := startsWithDigit_of_readPower h
  obtain ⟨ds, es, left, rfl, habsorbs, hleft⟩ := exists_absorbs 0x80000000 0 cs
  rw [← List.append_assoc] at h hdigit ⊢
  have hpart := isDigits_of_append hdigit habsorbs.digits hleft
  rw [readPower_append habsorbs hpart hleft] at h
  split at h
  · split at h
    · cases h
    · rename_i hstart hzero
      cases h
      refine ⟨⟨_, rfl⟩, ds ++ es, rfl, hpart, hleft, ?_⟩
      intro more hmore
      rw [readPower_append habsorbs hpart (startsWithDigit_of_not_continues hmore), if_pos hstart,
        if_neg hzero]
  · rename_i hstart
    obtain ⟨hreal, rfl, hparts⟩ := ofParts_sound h
    refine ⟨hreal, ds ++ es, rfl, hpart, hleft, ?_⟩
    intro more hmore
    rw [readPower_append habsorbs hpart (startsWithDigit_of_not_continues hmore), if_neg hstart,
      hparts more]

theorem readExponent_sound {negative : Bool} {v : Nat} {e : Int} {cs rest : List Char}
    {n : Number} (h : readExponent negative v e cs = .ok (n, rest)) :
    IsReal n ∧ Takes (readExponent negative v e) IsPower cs rest n := by
  have hplain : ∀ {ds : List Char}, Decimal.IsDigits ds → ∀ more,
      readExponent negative v e (ds ++ more) = readPower negative v e false (ds ++ more) := by
    intro ds hds more
    cases ds with
    | nil => exact absurd rfl hds.some
    | cons c ds =>
      refine readExponent_plain ?_ ?_
      · rintro ⟨⟩
        cases hds.head
      · rintro ⟨⟩
        cases hds.head
  by_cases hplus : cs.head? = some '+'
  · obtain ⟨cs, rfl⟩ := List.head?_eq_some_iff.1 hplus
    obtain ⟨hreal, ds, rfl, hds, hrest, hmore⟩ := readPower_sound h
    exact ⟨hreal, '+' :: ds, rfl, .plus hds, hrest, hmore⟩
  by_cases hminus : cs.head? = some '-'
  · obtain ⟨cs, rfl⟩ := List.head?_eq_some_iff.1 hminus
    obtain ⟨hreal, ds, rfl, hds, hrest, hmore⟩ := readPower_sound h
    exact ⟨hreal, '-' :: ds, rfl, .minus hds, hrest, hmore⟩
  rw [readExponent_plain hplus hminus] at h
  obtain ⟨hreal, ds, rfl, hds, hrest, hmore⟩ := readPower_sound h
  refine ⟨hreal, ds, rfl, .plain hds, hrest, ?_⟩
  intro more hstop
  rw [hplain hds, hmore more hstop]

/-- What is behind the digits of a number. -/
theorem readTail_sound {negative : Bool} {v : Nat} {e : Int} {cs rest : List Char} {n : Number}
    (h : readTail negative v e cs = .ok (n, rest)) (hcs : startsWithDigit cs = false) :
    IsReal n ∧ Takes (readTail negative v e) IsExponent cs rest n := by
  unfold readTail at h
  split at h
  · obtain ⟨hreal, part, rfl, hpart, hrest, hmore⟩ := readExponent_sound h
    exact ⟨hreal, _, rfl, .small hpart, hrest, hmore⟩
  · obtain ⟨hreal, part, rfl, hpart, hrest, hmore⟩ := readExponent_sound h
    exact ⟨hreal, _, rfl, .capital hpart, hrest, hmore⟩
  · obtain ⟨hreal, rfl, hparts⟩ := ofParts_sound h
    refine ⟨hreal, [], rfl, .none, hcs, ?_⟩
    intro more hmore
    rw [List.nil_append, ← hparts more]
    unfold readTail
    split
    · exact absurd (Or.inr (Or.inr (Or.inl rfl))) hmore
    · exact absurd (Or.inr (Or.inr (Or.inr rfl))) hmore
    · rfl

theorem startsWithDigit_exponent {ex more : List Char} (h : IsExponent ex)
    (hmore : ¬ Continues more) : startsWithDigit (ex ++ more) = false := by
  cases h with
  | none => exact startsWithDigit_of_not_continues hmore
  | small => rfl
  | capital => rfl

/-- The digits behind the point and the exponent. -/
def IsDecimals (part : List Char) : Prop :=
  ∃ ds ex, part = ds ++ ex ∧ Decimal.IsDigits ds ∧ IsExponent ex

/-- What is behind the digits of a fraction is its tail. -/
theorem readFraction_append {negative : Bool} {v : Nat} {e : Int} {ds es more : List Char}
    (h : Absorbs 0x10000000000000000 v ds es) (hmore : startsWithDigit more = false) :
    readFraction negative v e (ds ++ es ++ more) =
      if ds ++ es = [] then
        match more with
        | [] => .error (.atEnd .endInValue)
        | _ => .error (.at .invalidNumber more)
      else readTail negative (Nat.ofDigitChars 10 ds v) (e - ds.length) more := by
  unfold readFraction
  rw [List.append_assoc, h.absorb_eq 0 more hmore]
  cases es with
  | nil =>
    dsimp only
    rw [List.nil_append, hmore, if_neg Bool.false_ne_true, List.append_nil, Nat.zero_add]
    cases more <;> simp only [List.length_eq_zero_iff]
  | cons c es =>
    have hc : c.isDigit = true := h.left c List.mem_cons_self
    dsimp only
    rw [dropWhile_append h.left hmore,
      if_pos (show startsWithDigit (c :: es ++ more) = true from hc), if_neg (by simp),
      Nat.zero_add]

theorem readFraction_sound {negative : Bool} {v : Nat} {e : Int} {cs rest : List Char}
    {n : Number} (h : readFraction negative v e cs = .ok (n, rest)) :
    IsReal n ∧ Takes (readFraction negative v e) IsDecimals cs rest n := by
  obtain ⟨ds, es, left, rfl, habsorbs, hleft⟩ := exists_absorbs 0x10000000000000000 v cs
  rw [← List.append_assoc, readFraction_append habsorbs hleft] at h
  split at h
  · split at h <;> cases h
  · rename_i hsome
    obtain ⟨hreal, ex, rfl, hex, hrest, hmore⟩ := readTail_sound h hleft
    refine ⟨hreal, ds ++ es ++ ex, ?_, ⟨_, _, rfl, ⟨hsome, habsorbs.digits⟩, hex⟩, hrest, ?_⟩
    · simp only [List.append_assoc]
    · intro more hstop
      rw [← hmore more hstop, List.append_assoc,
        readFraction_append habsorbs (startsWithDigit_exponent hex hstop), if_neg hsome]

/-- The point and the digits behind it, and the exponent. -/
def IsTail (part : List Char) : Prop := ∃ fr ex, part = fr ++ ex ∧ IsFraction fr ∧ IsExponent ex

theorem startsWithDigit_tail {part more : List Char} (h : IsTail part) (hmore : ¬ Continues more) :
    startsWithDigit (part ++ more) = false := by
  obtain ⟨fr, ex, rfl, hfr, hex⟩ := h
  cases hfr with
  | none => exact startsWithDigit_exponent hex hmore
  | some => rfl

theorem readRest_stop {negative : Bool} {v : Nat} {cs : List Char} (h : ¬ Continues cs) :
    readRest negative v cs = .ok (ofDigits negative v, cs) := by
  unfold readRest
  rw [startsWithDigit_of_not_continues h, if_neg Bool.false_ne_true]
  split
  · exact absurd (Or.inr (Or.inl rfl)) h
  · exact absurd (Or.inr (Or.inr (Or.inl rfl))) h
  · exact absurd (Or.inr (Or.inr (Or.inr rfl))) h
  · rfl

theorem readRest_point {negative : Bool} {v : Nat} {es : List Char}
    (h : ∀ c ∈ es, c.isDigit = true) (cs : List Char) :
    readRest negative v (es ++ '.' :: cs) = readFraction negative v es.length cs := by
  cases es with
  | nil => rfl
  | cons c es =>
    unfold readRest
    rw [if_pos (show startsWithDigit (c :: es ++ '.' :: cs) = true from h c List.mem_cons_self),
      takeWhile_append h rfl, dropWhile_append h rfl]
    rfl

theorem readRest_tail {negative : Bool} {v : Nat} {es cs : List Char} (h : Decimal.IsDigits es)
    (hcs : startsWithDigit cs = false) (hpoint : cs.head? ≠ some '.') :
    readRest negative v (es ++ cs) = readTail negative v es.length cs := by
  unfold readRest
  rw [startsWithDigit_append h cs, if_pos rfl, takeWhile_append h.digit hcs,
    dropWhile_append h.digit hcs]
  dsimp only
  split
  · exact absurd rfl hpoint
  · rfl

/-- Digits that do not fit, and what is behind all digits. -/
theorem readRest_sound {negative : Bool} {v : Nat} {es cs rest : List Char} {n : Number}
    (h : readRest negative v (es ++ cs) = .ok (n, rest)) (hes : ∀ c ∈ es, c.isDigit = true)
    (hcs : startsWithDigit cs = false) :
    (es = [] ∧ cs = rest ∧ n = ofDigits negative v) ∨
      IsReal n ∧ Takes (fun cs => readRest negative v (es ++ cs)) IsTail cs rest n := by
  by_cases hpoint : cs.head? = some '.'
  · obtain ⟨cs, rfl⟩ := List.head?_eq_some_iff.1 hpoint
    rw [readRest_point hes] at h
    obtain ⟨hreal, _, rfl, ⟨ds, ex, rfl, hds, hex⟩, hrest, hmore⟩ := readFraction_sound h
    refine Or.inr ⟨hreal, '.' :: (ds ++ ex), rfl, ⟨_, _, rfl, .some hds, hex⟩, hrest, ?_⟩
    intro more hstop
    exact (readRest_point hes _).trans (hmore more hstop)
  by_cases hsome : es = []
  · obtain rfl := hsome
    by_cases hstop : Continues cs
    · cases cs with
      | nil => exact hstop.elim
      | cons c cs =>
        rcases hstop with hdigit | rfl | rfl | rfl
        · exact absurd hdigit (ne_true_of_eq_false hcs)
        · exact absurd rfl hpoint
        · obtain ⟨hreal, part, rfl, hpart, hrest, hmore⟩ := readExponent_sound h
          exact Or.inr ⟨hreal, _, rfl, ⟨[], _, rfl, .none, .small hpart⟩, hrest, hmore⟩
        · obtain ⟨hreal, part, rfl, hpart, hrest, hmore⟩ := readExponent_sound h
          exact Or.inr ⟨hreal, _, rfl, ⟨[], _, rfl, .none, .capital hpart⟩, hrest, hmore⟩
    · rw [List.nil_append, readRest_stop hstop] at h
      cases h
      exact Or.inl ⟨rfl, rfl, rfl⟩
  · have hdigits : Decimal.IsDigits es := ⟨hsome, hes⟩
    rw [readRest_tail hdigits hcs hpoint] at h
    obtain ⟨hreal, ex, rfl, hex, hrest, hmore⟩ := readTail_sound h hcs
    refine Or.inr ⟨hreal, ex, rfl, ⟨[], ex, rfl, .none, hex⟩, hrest, ?_⟩
    intro more hstop
    have hnopoint : (ex ++ more).head? ≠ some '.' := by
      cases hex with
      | none =>
        cases more with
        | nil => simp
        | cons c more =>
          rintro ⟨⟩
          exact hstop (Or.inr (Or.inl rfl))
      | small => simp
      | capital => simp
    exact (readRest_tail hdigits (startsWithDigit_exponent hex hstop) hnopoint).trans
      (hmore more hstop)

/-! ## Whole numbers -/

theorem le_ofDigitChars (ds : List Char) (v : Nat) : v ≤ Nat.ofDigitChars 10 ds v := by
  induction ds generalizing v with
  | nil => exact Nat.le_refl v
  | cons c ds ih =>
    rw [Nat.ofDigitChars_cons]
    exact Nat.le_trans (by omega) (ih _)

theorem absorb_digits {limit v taken : Nat} {ds more : List Char}
    (hds : ∀ c ∈ ds, c.isDigit = true) (hlimit : Nat.ofDigitChars 10 ds v < limit)
    (hmore : startsWithDigit more = false) :
    absorb limit v taken (ds ++ more) =
      (Nat.ofDigitChars 10 ds v, taken + ds.length, more) := by
  induction ds generalizing v taken with
  | nil => exact absorb_stop hmore
  | cons c ds ih =>
    obtain ⟨hc, hrest⟩ := List.forall_mem_cons.1 hds
    rw [Nat.ofDigitChars_cons] at hlimit
    have hfits := Nat.lt_of_le_of_lt (le_ofDigitChars ds _) hlimit
    rw [List.cons_append, absorb, if_pos ⟨hc, hfits⟩, Nat.ofDigitChars_cons, List.length_cons,
      Nat.add_comm ds.length 1, ← Nat.add_assoc]
    exact ih hrest hlimit

theorem ofDigitChars_first (c : Char) (ds : List Char) :
    Nat.ofDigitChars 10 (c :: ds) 0 = Nat.ofDigitChars 10 ds (c.toNat - 48) := by
  rw [Nat.ofDigitChars_cons, Nat.mul_zero, Nat.zero_add]
  rfl

theorem readUnsigned_zero {negative : Bool} {cs : List Char} (h : startsWithDigit cs = false) :
    readUnsigned negative ('0' :: cs) = readRest negative 0 cs := by
  rw [readUnsigned, if_pos rfl, h, if_neg Bool.false_ne_true]

theorem readUnsigned_digit {negative : Bool} {c : Char} (hc : c.isDigit = true) (hzero : c ≠ '0')
    (cs : List Char) :
    readUnsigned negative (c :: cs) =
      readRest negative (absorb (0x10000000000000000) (c.toNat - 48) 0 cs).1
        (absorb (0x10000000000000000) (c.toNat - 48) 0 cs).2.2 := by
  rw [readUnsigned, if_neg hzero, if_pos hc]

theorem isWholePart_zero : IsWholePart ['0'] := ⟨⟨by simp, by simp⟩, fun _ => rfl⟩

theorem isWholePart_digits {c : Char} {ds : List Char} (hc : c.isDigit = true) (hzero : c ≠ '0')
    (hds : ∀ x ∈ ds, x.isDigit = true) : IsWholePart (c :: ds) :=
  ⟨⟨List.cons_ne_nil c ds, List.forall_mem_cons.2 ⟨hc, hds⟩⟩,
    fun h => absurd (Option.some.inj h) hzero⟩

/-- Whole digits that fit in 64 bits are read as they are. -/
theorem readUnsigned_whole {negative : Bool} {ds more : List Char} (hds : IsWholePart ds)
    (hlimit : Nat.ofDigitChars 10 ds 0 < 0x10000000000000000) (hmore : ¬ Continues more) :
    readUnsigned negative (ds ++ more) =
      .ok (ofDigits negative (Nat.ofDigitChars 10 ds 0), more) := by
  have hstop := startsWithDigit_of_not_continues hmore
  cases ds with
  | nil => exact absurd rfl hds.digits.some
  | cons c ds =>
    obtain ⟨hc, hrest⟩ := List.forall_mem_cons.1 hds.digits.digit
    by_cases hzero : c = '0'
    · subst hzero
      obtain ⟨-, rfl⟩ := List.cons.inj (hds.zero rfl)
      exact (readUnsigned_zero hstop).trans (readRest_stop hmore)
    · rw [ofDigitChars_first] at hlimit ⊢
      rw [List.cons_append, readUnsigned_digit hc hzero, absorb_digits hrest hlimit hstop]
      exact readRest_stop hmore

/-- The whole part is there, and a zero in front of other digits is none. -/
theorem exists_first_digit {negative : Bool} {cs rest : List Char} {n : Number}
    (h : readUnsigned negative cs = .ok (n, rest)) :
    ∃ c tail, cs = c :: tail ∧ c.isDigit = true ∧ (c = '0' → startsWithDigit tail = false) := by
  unfold readUnsigned at h
  split at h
  · cases h
  · split at h
    · rename_i hc
      split at h
      · cases h
      · rename_i htail
        exact ⟨_, _, rfl, by rw [hc]; rfl, fun _ => Bool.eq_false_iff.2 htail⟩
    · split at h
      · rename_i hzero hc
        exact ⟨_, _, rfl, hc, fun h0 => absurd h0 hzero⟩
      · cases h

/-- Behind a whole part of which the digits `es` do not fit: nothing else is
read and all digits fit, or a double is read. -/
theorem readUnsigned_tail {negative : Bool} {v : Nat} {ds es left rest : List Char} {n : Number}
    (hwhole : IsWholePart (ds ++ es)) (hes : ∀ c ∈ es, c.isDigit = true)
    (hleft : startsWithDigit left = false)
    (hread : ∀ more, startsWithDigit more = false →
      readUnsigned negative (ds ++ es ++ more) = readRest negative v (es ++ more))
    (h : readUnsigned negative (ds ++ es ++ left) = .ok (n, rest)) :
    (es = [] ∧ left = rest ∧ n = ofDigits negative v) ∨
      IsReal n ∧ Takes (readUnsigned negative) IsUnsigned (ds ++ es ++ left) rest n := by
  rw [hread left hleft] at h
  rcases readRest_sound h hes hleft with hplain | ⟨hreal, part, rfl, hpart, hrest, hmore⟩
  · exact Or.inl hplain
  · obtain ⟨fr, ex, rfl, hfr, hex⟩ := id hpart
    refine Or.inr ⟨hreal, ds ++ es ++ (fr ++ ex), (List.append_assoc ..).symm,
      .parts hwhole hfr hex, hrest, ?_⟩
    intro more hend
    rw [List.append_assoc, hread _ (startsWithDigit_tail hpart hend)]
    exact hmore more hend

/-- A number without its sign is whole digits that fit in 64 bits, or a double. -/
theorem readUnsigned_sound {negative : Bool} {cs rest : List Char} {n : Number}
    (h : readUnsigned negative cs = .ok (n, rest)) :
    (∃ ds, cs = ds ++ rest ∧ IsWholePart ds ∧ startsWithDigit rest = false ∧
      Nat.ofDigitChars 10 ds 0 < 0x10000000000000000 ∧
      n = ofDigits negative (Nat.ofDigitChars 10 ds 0)) ∨
    IsReal n ∧ Takes (readUnsigned negative) IsUnsigned cs rest n := by
  obtain ⟨c, tail, rfl, hc, htail⟩ := exists_first_digit h
  by_cases hzero : c = '0'
  · subst hzero
    have hstop := htail rfl
    have hread : ∀ more, startsWithDigit more = false →
        readUnsigned negative (['0'] ++ [] ++ more) = readRest negative 0 ([] ++ more) :=
      fun _ => readUnsigned_zero
    rcases readUnsigned_tail isWholePart_zero (by simp) hstop hread h with
      ⟨-, rfl, rfl⟩ | hdouble
    · exact Or.inl ⟨['0'], rfl, isWholePart_zero, hstop, by decide, rfl⟩
    · exact Or.inr hdouble
  · obtain ⟨ds, es, left, rfl, habsorbs, hleft⟩ :=
      exists_absorbs 0x10000000000000000 (c.toNat - 48) tail
    have hwhole : IsWholePart (c :: ds ++ es) := isWholePart_digits hc hzero habsorbs.digits
    have hread : ∀ more, startsWithDigit more = false →
        readUnsigned negative (c :: ds ++ es ++ more) =
          readRest negative (Nat.ofDigitChars 10 ds (c.toNat - 48)) (es ++ more) := by
      intro more hmore
      rw [List.append_assoc, List.cons_append, readUnsigned_digit hc hzero,
        habsorbs.absorb_eq 0 more hmore]
    rw [← List.append_assoc, ← List.cons_append, ← List.cons_append] at h ⊢
    rcases readUnsigned_tail hwhole habsorbs.left hleft hread h with ⟨rfl, rfl, rfl⟩ | hdouble
    · have hsmall : c.toNat - 48 < 0x10000000000000000 := by
        have hlt : c.toNat < 4294967296 := c.val.toNat_lt
        omega
      rw [List.append_nil] at hwhole ⊢
      refine Or.inl ⟨c :: ds, rfl, hwhole, hleft, ?_, ?_⟩
      · rw [ofDigitChars_first]
        exact habsorbs.small hsmall
      · rw [ofDigitChars_first]
    · exact Or.inr hdouble

/-! ## Numbers -/

theorem read_minus (cs : List Char) : read '-' cs = readUnsigned true cs := if_pos rfl

theorem read_plain {c : Char} (h : c ≠ '-') (cs : List Char) :
    read c cs = readUnsigned false (c :: cs) := if_neg h

theorem isUnsigned_of_isWholePart {ds : List Char} (h : IsWholePart ds) : IsUnsigned ds := by
  have hparts := IsUnsigned.parts h .none .none
  rwa [List.append_nil, List.append_nil] at hparts

theorem IsUnsigned.ne_nil {cs : List Char} (h : IsUnsigned cs) : cs ≠ [] := by
  obtain ⟨hds, _, _⟩ := h
  exact List.append_ne_nil_of_left_ne_nil hds.digits.some _

theorem IsUnsigned.isDigit_head {c : Char} {cs : List Char} (h : IsUnsigned (c :: cs)) :
    c.isDigit = true := by
  generalize hall : c :: cs = all at h
  obtain ⟨hds, _, _⟩ := h
  obtain ⟨x, ds, rfl⟩ := List.exists_cons_of_ne_nil hds.digits.some
  obtain ⟨rfl, -⟩ := List.cons.inj hall
  exact hds.digits.head

theorem Spells.isLiteral {cs : List Char} {n : Number} (h : Spells cs n) : IsLiteral cs := by
  cases h with
  | whole h =>
    cases h with
    | plain hds => exact .plain (isUnsigned_of_isWholePart hds)
    | minus hds => exact .minus (isUnsigned_of_isWholePart hds)
  | real h => exact h

theorem Spells.head {cs : List Char} {n : Number} (h : Spells cs n) :
    ∃ c part, cs = c :: part ∧ (c = '-' ∨ c.isDigit = true) := by
  cases h.isLiteral with
  | plain h =>
    obtain ⟨c, part, rfl⟩ := List.exists_cons_of_ne_nil h.ne_nil
    exact ⟨c, part, rfl, Or.inr h.isDigit_head⟩
  | minus => exact ⟨_, _, rfl, Or.inl rfl⟩

theorem Spells.first {c : Char} {part : List Char} {n : Number} (h : Spells (c :: part) n) :
    c = '-' ∨ c.isDigit = true := by
  obtain ⟨x, _, hx, hfirst⟩ := h.head
  obtain ⟨rfl, -⟩ := List.cons.inj hx
  exact hfirst

/-- What `read` takes from behind the first character. -/
theorem read_sound {c : Char} {cs rest : List Char} {n : Number}
    (h : read c cs = .ok (n, rest)) :
    ∃ part, cs = part ++ rest ∧ startsWithDigit rest = false ∧
      ((∃ i, n = .whole i ∧ IsInteger (c :: part) i) ∨ IsReal n ∧ IsLiteral (c :: part)) ∧
      ∀ more, ¬ Continues more → read c (part ++ more) = .ok (n, more) := by
  by_cases hc : c = '-'
  · subst hc
    simp only [read_minus] at h ⊢
    rcases readUnsigned_sound h with ⟨ds, rfl, hds, hrest, hlimit, rfl⟩ | ⟨hreal, hmore⟩
    · refine ⟨ds, rfl, hrest, ?_, fun _ => readUnsigned_whole hds hlimit⟩
      unfold ofDigits
      rw [if_pos rfl]
      split
      · exact Or.inr ⟨⟨_, rfl⟩, .minus (isUnsigned_of_isWholePart hds)⟩
      · exact Or.inl ⟨_, rfl, .minus hds (by omega) (by omega)⟩
    · obtain ⟨part, rfl, hpart, hrest, hmore⟩ := hmore
      exact ⟨part, rfl, hrest, Or.inr ⟨hreal, .minus hpart⟩, hmore⟩
  · simp only [read_plain hc] at h ⊢
    rcases readUnsigned_sound h with ⟨ds, hcs, hds, hrest, hlimit, rfl⟩ | ⟨hreal, hmore⟩
    · obtain ⟨x, part, rfl⟩ := List.exists_cons_of_ne_nil hds.digits.some
      cases hcs
      exact ⟨part, rfl, hrest, Or.inl ⟨_, rfl, .plain hds hlimit⟩,
        fun _ => readUnsigned_whole hds hlimit⟩
    · obtain ⟨part, hcs, hpart, hrest, hmore⟩ := hmore
      obtain ⟨x, part, rfl⟩ := List.exists_cons_of_ne_nil hpart.ne_nil
      cases hcs
      exact ⟨part, rfl, hrest, Or.inr ⟨hreal, .plain hpart⟩, hmore⟩

theorem ofDigits_minus {v : Nat} (hv : 0 < v) (hlimit : v ≤ 0x8000000000000000) :
    ofDigits true v = .whole (-(v : Int)) := by
  unfold ofDigits
  rw [if_pos rfl, if_neg (by omega)]

/-- A spelled number is read, whatever stands behind that does not go on with it. -/
theorem read_of_spells {c : Char} {cs rest : List Char} {n : Number} (h : Spells (c :: cs) n)
    (hrest : ¬ Continues rest) : read c (cs ++ rest) = .ok (n, rest) := by
  cases h with
  | whole h =>
    cases h with
    | plain hds hlimit =>
      have hc : c ≠ '-' := by
        rintro rfl
        cases hds.digits.head
      exact (read_plain hc _).trans (readUnsigned_whole hds hlimit hrest)
    | minus hds hpos hlimit =>
      rw [read_minus, readUnsigned_whole hds (by omega) hrest, ofDigits_minus hpos hlimit]
  | real _ h =>
    obtain ⟨part, rfl, -, -, hmore⟩ := read_sound h
    rw [List.append_nil]
    exact hmore rest hrest

/-- What is read as a number spells it. -/
theorem spells_of_read {c : Char} {cs rest : List Char} {n : Number}
    (h : read c cs = .ok (n, rest)) :
    ∃ part, cs = part ++ rest ∧ Spells (c :: part) n ∧ startsWithDigit rest = false := by
  obtain ⟨part, hcs, hrest, hspells, hmore⟩ := read_sound h
  refine ⟨part, hcs, ?_, hrest⟩
  rcases hspells with ⟨i, rfl, hinteger⟩ | ⟨⟨x, rfl⟩, hliteral⟩
  · exact .whole hinteger
  · have hread := hmore [] id
    rw [List.append_nil] at hread
    exact .real hliteral hread

end HostBoundary.Json.Number
