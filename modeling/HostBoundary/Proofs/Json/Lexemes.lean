-- How the tokens of a document are written. Each token has its texts, and a
-- document is tokens with blanks between them. The tokens of a text are
-- found wherever the text is written so, and nowhere else.
import HostBoundary.Proofs.Json.Numbers
import HostBoundary.Proofs.Json.ReadBack

namespace HostBoundary.Json

/-! ## Texts -/

namespace Text

/-- Four hexadecimal digits and the number that they say. -/
inductive IsUnit : List Char → Nat → Prop
  | digits {a b c d : Char} {n : Nat} : unit? a b c d = some n → IsUnit [a, b, c, d] n

/-- The ways to write a character: as it is, as a short escape, or by its UTF-16 units. -/
inductive WritesChar : Char → List Char → Prop
  | plain {c : Char} : c ≠ '"' → c ≠ '\\' → ¬ c < ' ' → WritesChar c [c]
  | short {c x : Char} : shortEscape? x = some c → WritesChar c ['\\', x]
  | unit {n : Nat} {cs : List Char} : IsUnit cs n → ¬ IsLowUnit n → ¬ IsHighUnit n →
      WritesChar (Char.ofNat n) ('\\' :: 'u' :: cs)
  | pair {n m : Nat} {cs ds : List Char} : IsUnit cs n → IsHighUnit n → IsUnit ds m →
      IsLowUnit m → WritesChar (Char.ofNat (0x10000 + (n - 0xD800) * 0x400 + (m - 0xDC00)))
        ('\\' :: 'u' :: (cs ++ '\\' :: 'u' :: ds))

/-- The characters are written one after the other. -/
inductive Writes : List Char → List Char → Prop
  | nil : Writes [] []
  | cons {c : Char} {text part parts : List Char} : WritesChar c part → Writes text parts →
      Writes (c :: text) (part ++ parts)

theorem readUnit_eq_ok {cs rest : List Char} {n : Nat} :
    readUnit cs = .ok (n, rest) ↔ ∃ part, cs = part ++ rest ∧ IsUnit part n := by
  constructor
  · intro h
    unfold readUnit at h
    split at h
    · split at h
      · rename_i hunit
        cases h
        exact ⟨_, rfl, .digits hunit⟩
      · cases h
    · cases h
  · rintro ⟨_, rfl, ⟨hunit⟩⟩
    simp [readUnit, hunit]

theorem expect_eq_ok {x : Char} {cs rest : List Char} :
    expect x cs = .ok rest ↔ cs = x :: rest := by
  cases cs with
  | nil => simp [expect]
  | cons c cs => by_cases hc : c = x <;> simp [expect, hc]

theorem writesChar_of_readUnits {cs rest : List Char} {c : Char}
    (h : readUnits cs = .ok (c, rest)) :
    ∃ part, cs = part ++ rest ∧ WritesChar c ('\\' :: 'u' :: part) := by
  unfold readUnits at h
  obtain ⟨⟨n, cs₁⟩, hfirst, h₁⟩ := bind_eq_ok.1 h
  clear h
  obtain ⟨part, rfl, hpart⟩ := readUnit_eq_ok.1 hfirst
  dsimp only at h₁
  split at h₁
  · cases h₁
  · split at h₁
    · rename_i hn
      obtain ⟨cs₂, hslash, h₂⟩ := bind_eq_ok.1 h₁
      obtain ⟨cs₃, hletter, h₃⟩ := bind_eq_ok.1 h₂
      obtain ⟨⟨m, cs₄⟩, hsecond, h₄⟩ := bind_eq_ok.1 h₃
      clear h₁ h₂ h₃
      obtain rfl := expect_eq_ok.1 hslash
      obtain rfl := expect_eq_ok.1 hletter
      obtain ⟨part', rfl, hpart'⟩ := readUnit_eq_ok.1 hsecond
      dsimp only at h₄
      split at h₄
      · rename_i hm
        simp only [Except.ok.injEq, Prod.mk.injEq] at h₄
        obtain ⟨rfl, rfl⟩ := h₄
        exact ⟨part ++ '\\' :: 'u' :: part', by simp, .pair hpart hn hpart' hm⟩
      · cases h₄
    · rename_i hlow hn
      cases h₁
      exact ⟨part, rfl, .unit hpart hlow hn⟩

theorem readUnits_unit {part : List Char} {n : Nat} (h : IsUnit part n) (hlow : ¬ IsLowUnit n)
    (hhigh : ¬ IsHighUnit n) (rest : List Char) :
    readUnits (part ++ rest) = .ok (Char.ofNat n, rest) := by
  unfold readUnits
  rw [readUnit_eq_ok.2 ⟨part, rfl, h⟩]
  simp [bind, Except.bind, hlow, hhigh]

theorem readUnits_pair {part part' : List Char} {n m : Nat} (h : IsUnit part n)
    (hn : IsHighUnit n) (h' : IsUnit part' m) (hm : IsLowUnit m) (rest : List Char) :
    readUnits (part ++ '\\' :: 'u' :: (part' ++ rest)) =
      .ok (Char.ofNat (0x10000 + (n - 0xD800) * 0x400 + (m - 0xDC00)), rest) := by
  have hlow : ¬ IsLowUnit n := by
    unfold IsLowUnit
    unfold IsHighUnit at hn
    omega
  unfold readUnits
  rw [readUnit_eq_ok.2 ⟨part, rfl, h⟩]
  simp [bind, Except.bind, hlow, hn, hm, expect, readUnit_eq_ok.2 ⟨part', rfl, h'⟩]

theorem readEscape_eq_ok {cs rest : List Char} {c : Char} :
    readEscape cs = .ok (c, rest) ↔ ∃ part, cs = part ++ rest ∧ WritesChar c ('\\' :: part) := by
  constructor
  · intro h
    unfold readEscape at h
    split at h
    · cases h
    · split at h
      · rename_i hshort
        cases h
        exact ⟨[_], rfl, .short hshort⟩
      · split at h
        · rename_i hu
          obtain ⟨part, rfl, hpart⟩ := writesChar_of_readUnits h
          exact ⟨'u' :: part, by rw [hu]; rfl, hpart⟩
        · cases h
  · rintro ⟨part, rfl, hpart⟩
    generalize hall : '\\' :: part = all at hpart
    cases hpart with
    | plain _ hslash =>
      cases hall
      exact absurd rfl hslash
    | short hshort =>
      cases hall
      exact readEscape_short hshort rest
    | unit hunit hlow hhigh =>
      cases hall
      exact readUnits_unit hunit hlow hhigh rest
    | pair hunit hhigh hunit' hlow =>
      cases hall
      rw [List.cons_append, List.append_assoc]
      exact readUnits_pair hunit hhigh hunit' hlow rest

theorem read_writesChar {c : Char} {part : List Char} (h : WritesChar c part) (cs : List Char) :
    read (part ++ cs) = (read cs).map fun p => (c :: p.1, p.2) := by
  by_cases hslash : part.head? = some '\\'
  · obtain ⟨part, rfl⟩ := List.head?_eq_some_iff.1 hslash
    exact read_escape (readEscape_eq_ok.2 ⟨part, rfl, h⟩)
  · cases h with
    | plain hquote hslash' hplain =>
      rw [List.singleton_append, read, if_neg hquote, if_neg hslash', if_neg hplain]
    | short => exact absurd rfl hslash
    | unit => exact absurd rfl hslash
    | pair => exact absurd rfl hslash

/-- What is read up to the closing quote is what is written there. -/
theorem read_eq_ok {cs text rest : List Char} :
    read cs = .ok (text, rest) ↔ ∃ body, cs = body ++ '"' :: rest ∧ Writes text body := by
  constructor
  · intro h
    fun_induction read cs generalizing text with
    | case1 => cases h
    | case2 tail =>
      cases h
      exact ⟨[], rfl, .nil⟩
    | case3 => cases h
    | case4 tail x more hx hlt _ ih =>
      cases hr : read more with
      | error f => simp [hr, Except.map] at h
      | ok p =>
        simp only [hr, Except.map, Except.ok.injEq, Prod.mk.injEq] at h
        obtain ⟨rfl, rfl⟩ := h
        obtain ⟨body, rfl, hbody⟩ := ih hr
        obtain ⟨part, rfl, hpart⟩ := readEscape_eq_ok.1 hx
        exact ⟨'\\' :: part ++ body, by simp, .cons hpart hbody⟩
    | case5 => cases h
    | case6 c tail hquote hslash hplain ih =>
      cases hr : read tail with
      | error f => simp [hr, Except.map] at h
      | ok p =>
        simp only [hr, Except.map, Except.ok.injEq, Prod.mk.injEq] at h
        obtain ⟨rfl, rfl⟩ := h
        obtain ⟨body, rfl, hbody⟩ := ih hr
        exact ⟨[c] ++ body, rfl, .cons (.plain hquote hslash hplain) hbody⟩
  · rintro ⟨body, rfl, hbody⟩
    induction hbody with
    | nil => rw [List.nil_append, read, if_pos rfl]
    | cons hpart _ ih =>
      rw [List.append_assoc, read_writesChar hpart, ih]
      rfl

end Text

/-! ## Tokens -/

namespace Form

/-- The texts of a token. -/
inductive Spells : List Char → Form → Prop
  | openBrace : Spells ['\x7b'] .openBrace
  | closeBrace : Spells ['\x7d'] .closeBrace
  | openBracket : Spells ['['] .openBracket
  | closeBracket : Spells [']'] .closeBracket
  | comma : Spells [','] .comma
  | colon : Spells [':'] .colon
  | null : Spells ['n', 'u', 'l', 'l'] .null
  | isTrue : Spells ['t', 'r', 'u', 'e'] (.bool true)
  | isFalse : Spells ['f', 'a', 'l', 's', 'e'] (.bool false)
  | number {lit : List Char} {n : Number} : Number.Spells lit n → Spells lit (.number n)
  | text {s : String} {body : List Char} : Text.Writes s.toList body →
      Spells ('"' :: (body ++ ['"'])) (.text s)

/-- The token has texts. The others are the ends of texts that are no documents. -/
def IsProper : Form → Prop
  | .brokenText _ => False
  | .brokenWord _ => False
  | .stray => False
  | _ => True

/-- The token ends where the text begins. A number goes on as far as it can. -/
def EndsAt (f : Form) (rest : List Char) : Prop := ∀ n, f = .number n → ¬ Number.Continues rest

end Form

theorem readWord_eq_ok {letters cs rest : List Char} :
    readWord letters cs = .ok rest ↔ cs = letters ++ rest := by
  induction letters generalizing cs with
  | nil => simp [readWord]
  | cons w letters ih =>
    cases cs with
    | nil => simp [readWord]
    | cons c cs => by_cases hc : c = w <;> simp [readWord, hc, ih]

theorem wordToken_append (f : Form) (letters rest : List Char) :
    wordToken f letters (letters ++ rest) = (f, rest) := by
  unfold wordToken
  rw [readWord_eq_ok.2 rfl]

theorem textToken_append {s : String} {body : List Char} (h : Text.Writes s.toList body)
    (rest : List Char) : textToken (body ++ '"' :: rest) = (.text s, rest) := by
  unfold textToken
  rw [Text.read_eq_ok.2 ⟨body, rfl, h⟩]
  simp

theorem numberToken_append {c : Char} {lit rest : List Char} {n : Number}
    (h : Number.Spells (c :: lit) n) (hrest : ¬ Number.Continues rest) :
    numberToken c (lit ++ rest) = (.number n, rest) := by
  unfold numberToken
  rw [Number.read_of_spells h hrest]

/-- A number begins with a sign or a digit, so no other token is tried. -/
theorem lexeme_number {c : Char} (h : c = '-' ∨ c.isDigit = true) (rest : List Char) :
    lexeme c rest = numberToken c rest := by
  have hne : ∀ x : Char, x ≠ '-' → x.isDigit = false → c ≠ x := by
    rintro x hx hdigit rfl
    rcases h with h | h
    · exact hx h
    · rw [hdigit] at h
      cases h
  unfold lexeme
  rw [if_neg (hne _ (by decide) (by decide)), if_neg (hne _ (by decide) (by decide)),
    if_neg (hne _ (by decide) (by decide)), if_neg (hne _ (by decide) (by decide)),
    if_neg (hne _ (by decide) (by decide)), if_neg (hne _ (by decide) (by decide)),
    if_neg (hne _ (by decide) (by decide)), if_neg (hne _ (by decide) (by decide)),
    if_neg (hne _ (by decide) (by decide)), if_neg (hne _ (by decide) (by decide)), if_pos h]

theorem lexeme_of_spells {c : Char} {lit rest : List Char} {f : Form}
    (h : Form.Spells (c :: lit) f) (hrest : f.EndsAt rest) :
    lexeme c (lit ++ rest) = (f, rest) := by
  cases h with
  | openBrace => rfl
  | closeBrace => rfl
  | openBracket => rfl
  | closeBracket => rfl
  | comma => rfl
  | colon => rfl
  | null => exact wordToken_append _ ['u', 'l', 'l'] rest
  | isTrue => exact wordToken_append _ ['r', 'u', 'e'] rest
  | isFalse => exact wordToken_append _ ['a', 'l', 's', 'e'] rest
  | number h =>
    rw [lexeme_number h.first]
    exact numberToken_append h (hrest _ rfl)
  | text h =>
    rw [List.append_assoc]
    exact textToken_append h rest

theorem wordToken_sound {f g : Form} {letters cs rest : List Char}
    (h : wordToken f letters cs = (g, rest)) (hg : g.IsProper) : g = f ∧ cs = letters ++ rest := by
  unfold wordToken at h
  split at h
  · rename_i hword
    cases h
    exact ⟨rfl, readWord_eq_ok.1 hword⟩
  · cases h
    exact hg.elim

/-- What stands at a token that was found: a text of the token, and what is behind it. -/
def Found (c : Char) (cs rest : List Char) (f : Form) : Prop :=
  ∃ lit, cs = lit ++ rest ∧ Form.Spells (c :: lit) f ∧
    ∀ n, f = .number n → Number.startsWithDigit rest = false

theorem textToken_sound {f : Form} {cs rest : List Char} (h : textToken cs = (f, rest))
    (hf : f.IsProper) : Found '"' cs rest f := by
  unfold textToken at h
  split at h
  · rename_i text hread
    cases h
    obtain ⟨body, rfl, hbody⟩ := Text.read_eq_ok.1 hread
    refine ⟨body ++ ['"'], by simp, .text ?_, nofun⟩
    rwa [String.toList_ofList]
  · cases h
    exact hf.elim

theorem numberToken_sound {c : Char} {f : Form} {cs rest : List Char}
    (h : numberToken c cs = (f, rest)) (hf : f.IsProper) : Found c cs rest f := by
  unfold numberToken at h
  split at h
  · rename_i hread
    cases h
    obtain ⟨lit, hcs, hlit, hrest⟩ := Number.spells_of_read hread
    exact ⟨lit, hcs, .number hlit, fun _ _ => hrest⟩
  · cases h
    exact hf.elim

/-- A character that stands for itself is the whole text of its token. -/
theorem found_single {c x : Char} {cs rest : List Char} {f g : Form} (hc : c = x)
    (h : (g, cs) = (f, rest)) (hn : ∀ n, g ≠ .number n) (hx : Form.Spells [x] g) :
    Found c cs rest f := by
  cases h
  subst hc
  exact ⟨[], rfl, hx, fun n hn' => absurd hn' (hn n)⟩

theorem found_word {c x : Char} {letters cs rest : List Char} {f g : Form} (hc : c = x)
    (h : wordToken g letters cs = (f, rest)) (hf : f.IsProper) (hn : ∀ n, g ≠ .number n)
    (hx : Form.Spells (x :: letters) g) : Found c cs rest f := by
  obtain ⟨rfl, rfl⟩ := wordToken_sound h hf
  subst hc
  exact ⟨letters, rfl, hx, fun n hn' => absurd hn' (hn n)⟩

theorem found_ite {p : Prop} [Decidable p] {c : Char} {cs rest : List Char} {f : Form}
    {x y : Form × List Char} (hx : p → x = (f, rest) → Found c cs rest f)
    (hy : y = (f, rest) → Found c cs rest f) (h : (if p then x else y) = (f, rest)) :
    Found c cs rest f := by
  split at h
  · rename_i hp
    exact hx hp h
  · exact hy h

theorem lexeme_sound {c : Char} {cs rest : List Char} {f : Form} (h : lexeme c cs = (f, rest))
    (hf : f.IsProper) : Found c cs rest f := by
  unfold lexeme at h
  revert h
  refine found_ite (fun hc h => found_single hc h nofun .openBrace) ?_
  refine found_ite (fun hc h => found_single hc h nofun .closeBrace) ?_
  refine found_ite (fun hc h => found_single hc h nofun .openBracket) ?_
  refine found_ite (fun hc h => found_single hc h nofun .closeBracket) ?_
  refine found_ite (fun hc h => found_single hc h nofun .comma) ?_
  refine found_ite (fun hc h => found_single hc h nofun .colon) ?_
  refine found_ite (fun hc h => found_word hc h hf nofun .null) ?_
  refine found_ite (fun hc h => found_word hc h hf nofun .isTrue) ?_
  refine found_ite (fun hc h => found_word hc h hf nofun .isFalse) ?_
  refine found_ite (fun hc h => hc ▸ textToken_sound h hf) ?_
  refine found_ite (fun _ h => numberToken_sound h hf) ?_
  intro h
  cases h
  exact hf.elim

/-! ## Tokens in a row -/

/-- The tokens are written one after the other, with any gaps around them. -/
inductive Stands : List Form → List Char → Prop
  | nil {gap : List Char} : (∀ c ∈ gap, isGap c = true) → Stands [] gap
  | cons {gap lit rest : List Char} {f : Form} {fs : List Form} : (∀ c ∈ gap, isGap c = true) →
      Form.Spells lit f → f.EndsAt rest → Stands fs rest → Stands (f :: fs) (gap ++ (lit ++ rest))

theorem isGap_eq_true {c : Char} (h : isGap c = true) :
    c = ' ' ∨ c = '\t' ∨ c = '\n' ∨ c = '\r' := by
  simpa [isGap, or_assoc] using h

theorem Form.Spells.head {lit : List Char} {f : Form} (h : Form.Spells lit f) :
    ∃ c part, lit = c :: part ∧ isGap c = false := by
  cases h with
  | number h =>
    obtain ⟨c, part, rfl, hc⟩ := h.head
    refine ⟨c, part, rfl, Bool.eq_false_iff.2 fun hgap => ?_⟩
    rcases isGap_eq_true hgap with rfl | rfl | rfl | rfl <;> exact absurd hc (by decide)
  | _ => exact ⟨_, _, rfl, rfl⟩

/-- A bracket that opens is no number, so what begins with it is the bracket. -/
theorem Form.Spells.eq_of_opens {c : Char} {part part' : List Char} {f g : Form}
    (hf : Form.Spells (c :: part) f) (hg : Form.Spells (c :: part') g)
    (hopen : g = .openBracket ∨ g = .openBrace) : f = g := by
  rcases hopen with rfl | rfl
  · cases hg
    cases hf with
    | openBracket => rfl
    | number h => exact absurd h.first (by decide)
  · cases hg
    cases hf with
    | openBrace => rfl
    | number h => exact absurd h.first (by decide)

theorem Form.Spells.isProper {lit : List Char} {f : Form} (h : Form.Spells lit f) :
    f.IsProper := by
  cases h <;> trivial

theorem forms_gap_cons {c : Char} (hc : isGap c = true) (cs : List Char) :
    forms (c :: cs) = forms cs := by
  unfold forms
  rw [tokens, if_pos hc]

theorem forms_gap_append {gap : List Char} (h : ∀ c ∈ gap, isGap c = true) (cs : List Char) :
    forms (gap ++ cs) = forms cs := by
  induction gap with
  | nil => rfl
  | cons c gap ih =>
    obtain ⟨hc, hgap⟩ := List.forall_mem_cons.1 h
    rw [List.cons_append, forms_gap_cons hc, ih hgap]

theorem forms_spells_append {lit rest : List Char} {f : Form} (h : Form.Spells lit f)
    (hrest : f.EndsAt rest) : forms (lit ++ rest) = f :: forms rest := by
  obtain ⟨c, part, rfl, hc⟩ := h.head
  rw [List.cons_append, forms_cons hc, lexeme_of_spells h hrest]

theorem Stands.gap {fs : List Form} {cs : List Char} (h : Stands fs cs) {c : Char}
    (hc : isGap c = true) : Stands fs (c :: cs) := by
  cases h with
  | nil hgap => exact .nil (List.forall_mem_cons.2 ⟨hc, hgap⟩)
  | cons hgap hf hend hfs =>
    exact .cons (List.forall_mem_cons.2 ⟨hc, hgap⟩) hf hend hfs

/-- Where all that follows can be read, a number has ended. -/
theorem not_continues_of_isProper {cs : List Char} (h : ∀ f ∈ forms cs, f.IsProper)
    (hdigit : Number.startsWithDigit cs = false) : ¬ Number.Continues cs := by
  cases cs with
  | nil => exact id
  | cons c cs =>
    have hstray : ∀ x, isGap x = false → (lexeme x cs).1 = .stray → c ≠ x := by
      rintro x hgap hlexeme rfl
      rw [forms_cons hgap, hlexeme] at h
      exact h _ List.mem_cons_self
    rintro (hc | hc | hc | hc)
    · exact absurd hc (ne_true_of_eq_false hdigit)
    · exact hstray '.' rfl rfl hc
    · exact hstray 'e' rfl rfl hc
    · exact hstray 'E' rfl rfl hc

theorem stands_forms {cs : List Char} (h : ∀ f ∈ forms cs, f.IsProper) :
    Stands (forms cs) cs := by
  induction cs using tokens.induct with
  | case1 =>
    rw [forms_nil]
    exact .nil (by simp)
  | case2 c rest hc ih =>
    rw [forms_gap_cons hc] at h ⊢
    exact (ih h).gap hc
  | case3 c rest hc _ ih =>
    rw [forms_cons (Bool.eq_false_iff.2 hc)] at h ⊢
    obtain ⟨hf, hfs⟩ := List.forall_mem_cons.1 h
    have hlexeme : lexeme c rest = ((lexeme c rest).1, (lexeme c rest).2) := rfl
    obtain ⟨lit, hrest, hlit, hdigit⟩ := lexeme_sound hlexeme hf
    have hend : (lexeme c rest).1.EndsAt (lexeme c rest).2 :=
      fun n hn => not_continues_of_isProper hfs (hdigit n hn)
    have hstands : Stands (_ :: _) ([] ++ (c :: lit ++ (lexeme c rest).2)) :=
      .cons (by simp) hlit hend (ih hfs)
    rwa [List.nil_append, List.cons_append, ← hrest] at hstands

/-- The tokens of a text are the ones that stand there, where all of them have texts. -/
theorem stands_iff {fs : List Form} {cs : List Char} :
    Stands fs cs ↔ forms cs = fs ∧ ∀ f ∈ fs, f.IsProper := by
  constructor
  · intro h
    induction h with
    | @nil gap hgap =>
      refine ⟨?_, by simp⟩
      rw [← List.append_nil gap, forms_gap_append hgap, forms_nil]
    | cons hgap hf hend _ ih =>
      obtain ⟨hforms, hproper⟩ := ih
      refine ⟨?_, List.forall_mem_cons.2 ⟨hf.isProper, hproper⟩⟩
      rw [forms_gap_append hgap, forms_spells_append hf hend, hforms]
  · rintro ⟨rfl, h⟩
    exact stands_forms h

/-! ## Documents -/

mutual

theorem Value.isProper_forms : ∀ {v : Value}, ∀ f ∈ v.forms, f.IsProper
  | .null => by simp [Value.forms, Form.IsProper]
  | .bool _ => by simp [Value.forms, Form.IsProper]
  | .number _ => by simp [Value.forms, Form.IsProper]
  | .text _ => by simp [Value.forms, Form.IsProper]
  | .list [] => by simp [Value.forms, Form.IsProper]
  | .list (v :: vs) => by
    simp only [Value.forms, List.forall_mem_cons, List.forall_mem_append]
    exact ⟨⟨trivial, v.isProper_forms⟩, isProper_itemForms⟩
  | .object [] => by simp [Value.forms, Form.IsProper]
  | .object ((_, v) :: ms) => by
    simp only [Value.forms, List.forall_mem_cons, List.forall_mem_append]
    exact ⟨⟨trivial, trivial, trivial, v.isProper_forms⟩, isProper_memberForms⟩

theorem isProper_itemForms : ∀ {vs : List Value}, ∀ f ∈ itemForms vs, f.IsProper
  | [] => by simp [itemForms, Form.IsProper]
  | v :: vs => by
    simp only [itemForms, List.forall_mem_cons, List.forall_mem_append]
    exact ⟨⟨trivial, v.isProper_forms⟩, isProper_itemForms⟩

theorem isProper_memberForms : ∀ {ms : List (String × Value)}, ∀ f ∈ memberForms ms, f.IsProper
  | [] => by simp [memberForms, Form.IsProper]
  | (_, v) :: ms => by
    simp only [memberForms, List.forall_mem_cons, List.forall_mem_append]
    exact ⟨⟨trivial, trivial, trivial, v.isProper_forms⟩, isProper_memberForms⟩

end

/-- The text is one document by the grammar, and the value is what it says. -/
def IsDocument (text : String) (v : Value) : Prop := Stands v.forms text.toList

theorem isDocument_iff {text : String} {v : Value} : IsDocument text v ↔ Says text v :=
  stands_iff.trans (and_iff_left Value.isProper_forms)

theorem IsDocument.unique {text : String} {v w : Value} (hv : IsDocument text v)
    (hw : IsDocument text w) : v = w := Says.unique (isDocument_iff.1 hv) (isDocument_iff.1 hw)

/-! ## Text behind a document -/

theorem Stands.ne_nil {f : Form} {fs : List Form} {cs : List Char} (h : Stands (f :: fs) cs) :
    cs ≠ [] := by
  cases h with
  | cons _ hf =>
    obtain ⟨c, part, rfl, -⟩ := hf.head
    simp

/-- Behind a token that is no number, any text begins with a token of its own. -/
theorem forms_append_of_stands {fs : List Form} {cs : List Char} (h : Stands fs cs) {f : Form}
    (hlast : fs.getLast? = some f) (hf : ∀ n, f ≠ .number n) (rest : List Char) :
    forms (cs ++ rest) = fs ++ forms rest := by
  induction h with
  | nil => cases hlast
  | @cons gap lit left g fs hgap hg hend hfs ih =>
    rw [List.append_assoc, List.append_assoc, forms_gap_append hgap]
    cases fs with
    | nil =>
      obtain rfl : g = f := Option.some.inj hlast
      cases hfs with
      | nil hleft =>
        rw [forms_spells_append hg fun n hn => absurd hn (hf n), forms_gap_append hleft]
        rfl
    | cons g' fs =>
      have hend' : g.EndsAt (left ++ rest) := by
        intro n hn
        obtain ⟨c, left, rfl⟩ := List.exists_cons_of_ne_nil hfs.ne_nil
        exact hend n hn
      rw [forms_spells_append hg hend', ih hlast]
      rfl

theorem getLast?_itemForms (vs : List Value) : (itemForms vs).getLast? = some .closeBracket := by
  induction vs with
  | nil => rfl
  | cons v vs ih => simp [itemForms, List.getLast?_cons, List.getLast?_append, ih]

theorem getLast?_memberForms (ms : List (String × Value)) :
    (memberForms ms).getLast? = some .closeBrace := by
  induction ms with
  | nil => rfl
  | cons m ms ih => simp [memberForms, List.getLast?_cons, List.getLast?_append, ih]

/-- A list or an object ends with its bracket. -/
theorem Value.getLast?_forms {v : Value} (h : v.opening = .openBracket ∨ v.opening = .openBrace) :
    v.forms.getLast? = some .closeBracket ∨ v.forms.getLast? = some .closeBrace := by
  rcases v with _ | _ | _ | _ | (_ | ⟨v, vs⟩) | (_ | ⟨⟨name, v⟩, ms⟩)
  · simp [Value.opening] at h
  · simp [Value.opening] at h
  · simp [Value.opening] at h
  · simp [Value.opening] at h
  · exact Or.inl rfl
  · simp [Value.forms, List.getLast?_cons, List.getLast?_append, getLast?_itemForms]
  · exact Or.inr rfl
  · simp [Value.forms, List.getLast?_cons, List.getLast?_append, getLast?_memberForms]

/-- A bracket that opens a text also opens what of it stands alone. -/
theorem opening_of_append {f g : Form} {fs gs : List Form} {cs rest : List Char}
    (h : Stands (f :: fs) cs) (hg : forms (cs ++ rest) = g :: gs)
    (hopen : g = .openBracket ∨ g = .openBrace) : f = g := by
  cases h with
  | @cons gap lit left _ _ hgap hf =>
    obtain ⟨c, part, rfl, hc⟩ := hf.head
    rw [List.append_assoc, List.append_assoc, forms_gap_append hgap, List.cons_append,
      forms_cons hc] at hg
    obtain ⟨hlexeme, -⟩ := List.cons.inj hg
    have hfound : lexeme c (part ++ (left ++ rest)) = (g, _) := Prod.ext hlexeme rfl
    have hproper : g.IsProper := by rcases hopen with rfl | rfl <;> trivial
    obtain ⟨_, -, hg, -⟩ := lexeme_sound hfound hproper
    exact hf.eq_of_opens hg hopen

/-- With more than blanks behind it a document is no list and no object any more. -/
theorem not_isDocument_append {text rest : String} {v w : Value} (h : IsDocument text v)
    (hrest : ∃ c ∈ rest.toList, isGap c = false)
    (hw : w.opening = .openBracket ∨ w.opening = .openBrace) : ¬ IsDocument (text ++ rest) w := by
  intro hboth
  have hforms : forms (text.toList ++ rest.toList) = w.forms := by
    rw [← String.toList_append]
    exact isDocument_iff.1 hboth
  obtain ⟨fs, hv⟩ := v.forms_eq_cons
  obtain ⟨gs, hw'⟩ := w.forms_eq_cons
  have hstands : Stands (v.opening :: fs) text.toList := hv ▸ h
  have hopening := opening_of_append hstands (hforms.trans hw') hw
  have hlast := v.getLast?_forms (hopening ▸ hw)
  have happend : forms (text.toList ++ rest.toList) = v.forms ++ forms rest.toList := by
    rcases hlast with hlast | hlast
    · exact forms_append_of_stands h hlast nofun _
    · exact forms_append_of_stands h hlast nofun _
  have hnone : forms rest.toList = [] := by
    rw [happend, ← List.append_nil w.forms] at hforms
    exact (Value.forms_inj hforms).2
  have hgap : Stands [] rest.toList := stands_iff.2 ⟨hnone, by simp⟩
  obtain ⟨c, hc, hmore⟩ := hrest
  cases hgap with
  | nil hgap =>
    rw [hgap c hc] at hmore
    cases hmore

end HostBoundary.Json
