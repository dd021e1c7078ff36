-- What a JSON text says. A value has one list of tokens, and a text says a
-- value when these are its tokens. No text says two values, and a printed
-- value that has no numbers in it is read back.
import HostBoundary.Json.Token

namespace HostBoundary.Json

/-! ## The tokens of a value -/

/-- The tokens of a text, without their places. -/
def forms (cs : List Char) : List Form := (tokens cs).map Token.form

mutual

/-- The grammar: how a value stands in tokens. -/
def Value.forms : Value → List Form
  | .null => [.null]
  | .bool b => [.bool b]
  | .number n => [.number n]
  | .text s => [.text s]
  | .list [] => [.openBracket, .closeBracket]
  | .list (v :: vs) => .openBracket :: v.forms ++ itemForms vs
  | .object [] => [.openBrace, .closeBrace]
  | .object ((name, v) :: ms) => .openBrace :: .text name :: .colon :: v.forms ++ memberForms ms

/-- The items after the first, and the bracket. -/
def itemForms : List Value → List Form
  | [] => [.closeBracket]
  | v :: vs => .comma :: v.forms ++ itemForms vs

/-- The members after the first, and the brace. -/
def memberForms : List (String × Value) → List Form
  | [] => [.closeBrace]
  | (name, v) :: ms => .comma :: .text name :: .colon :: v.forms ++ memberForms ms

end

/-- The text is one document, and the value is what it says. -/
def Says (text : String) (v : Value) : Prop := forms text.toList = v.forms

/-! ## No text says two values -/

/-- The first token of a value. It tells which constructor the value has. -/
def Value.opening : Value → Form
  | .null => .null
  | .bool b => .bool b
  | .number n => .number n
  | .text s => .text s
  | .list _ => .openBracket
  | .object _ => .openBrace

theorem Value.forms_eq_cons (v : Value) : ∃ fs, v.forms = v.opening :: fs := by
  rcases v with _ | _ | _ | _ | (_ | _) | (_ | _)
  all_goals exact ⟨_, rfl⟩

theorem Value.opening_eq {v w : Value} {fs gs : List Form} (h : v.forms ++ fs = w.forms ++ gs) :
    v.opening = w.opening := by
  obtain ⟨_, hv⟩ := v.forms_eq_cons
  obtain ⟨_, hw⟩ := w.forms_eq_cons
  rw [hv, hw] at h
  exact List.head_eq_of_cons_eq h

/-- A bracket that closes a list is no item. -/
theorem Value.forms_append_ne (v : Value) (fs gs : List Form) :
    v.forms ++ fs ≠ .closeBracket :: gs := by
  obtain ⟨_, hv⟩ := v.forms_eq_cons
  rw [hv]
  cases v <;> exact fun h => nomatch List.head_eq_of_cons_eq h

-- The three are one induction on the value. What is left behind it is any
-- list, so the value that follows in a list or an object can be compared.
mutual

theorem Value.forms_inj : ∀ {v w : Value} {fs gs : List Form},
    v.forms ++ fs = w.forms ++ gs → v = w ∧ fs = gs
  | .null, w, _, _, h => by
    cases w <;> cases Value.opening_eq h
    exact ⟨rfl, List.append_cancel_left h⟩
  | .bool _, w, _, _, h => by
    cases w <;> cases Value.opening_eq h
    exact ⟨rfl, List.append_cancel_left h⟩
  | .number _, w, _, _, h => by
    cases w <;> cases Value.opening_eq h
    exact ⟨rfl, List.append_cancel_left h⟩
  | .text _, w, _, _, h => by
    cases w <;> cases Value.opening_eq h
    exact ⟨rfl, List.append_cancel_left h⟩
  | .list [], w, _, _, h => by
    cases w <;> cases Value.opening_eq h
    rename_i ws
    cases ws with
    | nil => exact ⟨rfl, List.append_cancel_left h⟩
    | cons w ws =>
      simp only [Value.forms, List.cons_append, List.append_assoc, List.cons.injEq, true_and] at h
      exact absurd h.symm (w.forms_append_ne _ _)
  | .list (v :: vs), w, _, _, h => by
    cases w <;> cases Value.opening_eq h
    rename_i ws
    cases ws with
    | nil =>
      simp only [Value.forms, List.cons_append, List.append_assoc, List.cons.injEq, true_and] at h
      exact absurd h (v.forms_append_ne _ _)
    | cons w ws =>
      simp only [Value.forms, List.cons_append, List.append_assoc, List.cons.injEq, true_and] at h
      obtain ⟨rfl, hitems⟩ := Value.forms_inj h
      obtain ⟨rfl, rfl⟩ := itemForms_inj hitems
      exact ⟨rfl, rfl⟩
  | .object [], w, _, _, h => by
    cases w <;> cases Value.opening_eq h
    rename_i ns
    cases ns with
    | nil => exact ⟨rfl, List.append_cancel_left h⟩
    | cons n ns => simp [Value.forms] at h
  | .object ((_, v) :: ms), w, _, _, h => by
    cases w <;> cases Value.opening_eq h
    rename_i ns
    cases ns with
    | nil => simp [Value.forms] at h
    | cons n ns =>
      simp only [Value.forms, List.cons_append, List.append_assoc, List.cons.injEq, true_and,
        Form.text.injEq] at h
      obtain ⟨rfl, hvalue⟩ := h
      obtain ⟨rfl, hmembers⟩ := Value.forms_inj hvalue
      obtain ⟨rfl, rfl⟩ := memberForms_inj hmembers
      exact ⟨rfl, rfl⟩

theorem itemForms_inj : ∀ {vs ws : List Value} {fs gs : List Form},
    itemForms vs ++ fs = itemForms ws ++ gs → vs = ws ∧ fs = gs
  | [], [], _, _, h => ⟨rfl, List.append_cancel_left h⟩
  | [], _ :: _, _, _, h => by simp [itemForms] at h
  | _ :: _, [], _, _, h => by simp [itemForms] at h
  | v :: vs, w :: ws, _, _, h => by
    simp only [itemForms, List.cons_append, List.append_assoc, List.cons.injEq, true_and] at h
    obtain ⟨rfl, hitems⟩ := Value.forms_inj h
    obtain ⟨rfl, rfl⟩ := itemForms_inj hitems
    exact ⟨rfl, rfl⟩

theorem memberForms_inj : ∀ {ms ns : List (String × Value)} {fs gs : List Form},
    memberForms ms ++ fs = memberForms ns ++ gs → ms = ns ∧ fs = gs
  | [], [], _, _, h => ⟨rfl, List.append_cancel_left h⟩
  | [], _ :: _, _, _, h => by simp [memberForms] at h
  | _ :: _, [], _, _, h => by simp [memberForms] at h
  | (_, v) :: ms, (_, w) :: ns, _, _, h => by
    simp only [memberForms, List.cons_append, List.append_assoc, List.cons.injEq, true_and,
      Form.text.injEq] at h
    obtain ⟨rfl, hvalue⟩ := h
    obtain ⟨rfl, hmembers⟩ := Value.forms_inj hvalue
    obtain ⟨rfl, rfl⟩ := memberForms_inj hmembers
    exact ⟨rfl, rfl⟩

end

theorem Says.unique {text : String} {v w : Value} (hv : Says text v) (hw : Says text w) :
    v = w := by
  have h : v.forms ++ [] = w.forms ++ [] := by
    rw [List.append_nil, List.append_nil, ← hv, hw]
  exact (Value.forms_inj h).1

/-! ## Texts are read back -/

namespace Text

theorem hexValue?_hexDigit : ∀ n < 16, hexValue? (hexDigit n) = some n := by decide

theorem readEscape_control {c : Char} (hc : c < ' ') (cs : List Char) :
    readEscape ('u' :: '0' :: '0' :: hexDigit (c.toNat / 16) :: hexDigit (c.toNat % 16) :: cs) =
      .ok (c, cs) := by
  have hlt : c.toNat < 32 := hc
  have hunit : unit? '0' '0' (hexDigit (c.toNat / 16)) (hexDigit (c.toNat % 16)) =
      some c.toNat := by
    have hhigh := hexValue?_hexDigit (c.toNat / 16) (by omega)
    have hlow := hexValue?_hexDigit (c.toNat % 16) (by omega)
    have hzero : hexValue? '0' = some 0 := rfl
    have hvalue : c.toNat / 16 * 16 + c.toNat % 16 = c.toNat := by omega
    simp [unit?, hhigh, hlow, hzero, hvalue]
  have hplain : ¬ IsLowUnit c.toNat ∧ ¬ IsHighUnit c.toNat := by
    unfold IsLowUnit IsHighUnit
    omega
  show readUnits _ = _
  simp [readUnits, readUnit, hunit, hplain, bind, Except.bind]

/-- A character is printed as a short escape, as an escape of its number, or as it is. -/
theorem escapeChar_cases (c : Char) :
    (∃ x, shortEscape? x = some c ∧ escapeChar c = ['\\', x]) ∨
    (c < ' ' ∧ escapeChar c =
      ['\\', 'u', '0', '0', hexDigit (c.toNat / 16), hexDigit (c.toNat % 16)]) ∨
    (c ≠ '"' ∧ c ≠ '\\' ∧ ¬ c < ' ' ∧ escapeChar c = [c]) := by
  by_cases hquote : c = '"'
  · exact Or.inl ⟨'"', by rw [hquote]; exact ⟨rfl, rfl⟩⟩
  by_cases hslash : c = '\\'
  · exact Or.inl ⟨'\\', by rw [hslash]; exact ⟨rfl, rfl⟩⟩
  by_cases hb : c = '\x08'
  · exact Or.inl ⟨'b', by rw [hb]; exact ⟨rfl, rfl⟩⟩
  by_cases hf : c = '\x0C'
  · exact Or.inl ⟨'f', by rw [hf]; exact ⟨rfl, rfl⟩⟩
  by_cases hn : c = '\n'
  · exact Or.inl ⟨'n', by rw [hn]; exact ⟨rfl, rfl⟩⟩
  by_cases hr : c = '\r'
  · exact Or.inl ⟨'r', by rw [hr]; exact ⟨rfl, rfl⟩⟩
  by_cases ht : c = '\t'
  · exact Or.inl ⟨'t', by rw [ht]; exact ⟨rfl, rfl⟩⟩
  have hescape : escapeChar c =
      if c < ' ' then ['\\', 'u', '0', '0', hexDigit (c.toNat / 16), hexDigit (c.toNat % 16)]
      else [c] := by
    unfold escapeChar
    rw [if_neg hquote, if_neg hslash, if_neg hb, if_neg hf, if_neg hn, if_neg hr, if_neg ht]
  by_cases hcontrol : c < ' '
  · rw [if_pos hcontrol] at hescape
    exact Or.inr (Or.inl ⟨hcontrol, hescape⟩)
  · rw [if_neg hcontrol] at hescape
    exact Or.inr (Or.inr ⟨hquote, hslash, hcontrol, hescape⟩)

theorem readEscape_short {x c : Char} (h : shortEscape? x = some c) (cs : List Char) :
    readEscape (x :: cs) = .ok (c, cs) := by
  simp [readEscape, h]

theorem read_escape {c : Char} {rest more : List Char} (h : readEscape rest = .ok (c, more)) :
    read ('\\' :: rest) = (read more).map fun p => (c :: p.1, p.2) := by
  rw [read, if_neg (by decide), if_pos rfl]
  split
  · rename_i heq
    rw [h] at heq
    cases heq
  · rename_i heq
    rw [h] at heq
    cases heq
    rfl

theorem read_escapeChar (c : Char) (cs : List Char) :
    read (escapeChar c ++ cs) = (read cs).map fun p => (c :: p.1, p.2) := by
  rcases escapeChar_cases c with ⟨x, hshort, he⟩ | ⟨hcontrol, he⟩ | ⟨hquote, hslash, hplain, he⟩
  · rw [he]
    exact read_escape (readEscape_short hshort cs)
  · rw [he]
    exact read_escape (readEscape_control hcontrol cs)
  · rw [he, List.singleton_append, read, if_neg hquote, if_neg hslash, if_neg hplain]

theorem read_flatMap_escapeChar (text cs : List Char) :
    read (text.flatMap escapeChar ++ '"' :: cs) = .ok (text, cs) := by
  induction text with
  | nil =>
    rw [List.flatMap_nil, List.nil_append, read, if_pos rfl]
  | cons c text ih =>
    rw [List.flatMap_cons, List.append_assoc, read_escapeChar, ih]
    rfl

end Text

/-! ## Values are read back -/

theorem forms_nil : forms [] = [] := by
  unfold forms
  rw [tokens]
  rfl

theorem forms_cons {c : Char} (hc : isGap c = false) (rest : List Char) :
    forms (c :: rest) = (lexeme c rest).1 :: forms (lexeme c rest).2 := by
  unfold forms
  rw [tokens, hc]
  rfl

theorem forms_renderText (s : String) (cs : List Char) :
    forms (renderText s ++ cs) = .text s :: forms cs := by
  have hread : textToken (s.toList.flatMap escapeChar ++ '"' :: cs) = (.text s, cs) := by
    unfold textToken
    rw [Text.read_flatMap_escapeChar]
    simp
  unfold renderText
  rw [List.cons_append, List.cons_append, List.append_assoc, forms_cons (by decide)]
  show (textToken _).1 :: forms (textToken _).2 = _
  rw [List.singleton_append, hread]

/-- The name of a member and the colon behind it. -/
theorem forms_memberName (name : String) (cs : List Char) :
    forms (renderText name ++ ':' :: cs) = .text name :: .colon :: forms cs := by
  rw [forms_renderText, forms_cons rfl]
  rfl

mutual

/-- There is no number in the value. -/
def Value.isNumberFree : Value → Bool
  | .null => true
  | .bool _ => true
  | .number _ => false
  | .text _ => true
  | .list vs => itemsNumberFree vs
  | .object ms => membersNumberFree ms

def itemsNumberFree : List Value → Bool
  | [] => true
  | v :: vs => v.isNumberFree && itemsNumberFree vs

def membersNumberFree : List (String × Value) → Bool
  | [] => true
  | (_, v) :: ms => v.isNumberFree && membersNumberFree ms

end

mutual

theorem Value.forms_render : ∀ {v : Value}, v.isNumberFree = true → ∀ cs : List Char,
    forms (v.render ++ cs) = v.forms ++ forms cs
  | .null, _, cs => forms_cons rfl _
  | .bool true, _, cs => forms_cons rfl _
  | .bool false, _, cs => forms_cons rfl _
  | .number _, h, _ => by cases h
  | .text s, _, cs => forms_renderText s cs
  | .list [], _, cs => (forms_cons rfl _).trans (congrArg _ (forms_cons rfl cs))
  | .list (v :: vs), h, cs => by
    obtain ⟨hv, hvs⟩ := Bool.and_eq_true_iff.1 h
    simp only [Value.render, Value.forms, List.cons_append, List.append_assoc]
    calc forms ('[' :: (v.render ++ (renderItems vs ++ cs)))
        = .openBracket :: forms (v.render ++ (renderItems vs ++ cs)) := forms_cons rfl _
      _ = .openBracket :: (v.forms ++ (itemForms vs ++ forms cs)) := by
          rw [Value.forms_render hv, forms_renderItems hvs]
  | .object [], _, cs => (forms_cons rfl _).trans (congrArg _ (forms_cons rfl cs))
  | .object ((name, v) :: ms), h, cs => by
    obtain ⟨hv, hms⟩ := Bool.and_eq_true_iff.1 h
    simp only [Value.render, Value.forms, List.cons_append, List.append_assoc]
    calc forms ('\x7b' :: (renderText name ++ ':' :: (v.render ++ (renderMembers ms ++ cs))))
        = .openBrace :: forms (renderText name ++ ':' :: (v.render ++ (renderMembers ms ++ cs))) :=
          forms_cons rfl _
      _ = .openBrace :: .text name :: .colon :: (v.forms ++ (memberForms ms ++ forms cs)) := by
          rw [forms_memberName, Value.forms_render hv, forms_renderMembers hms]

theorem forms_renderItems : ∀ {vs : List Value}, itemsNumberFree vs = true → ∀ cs : List Char,
    forms (renderItems vs ++ cs) = itemForms vs ++ forms cs
  | [], _, cs => forms_cons rfl cs
  | v :: vs, h, cs => by
    obtain ⟨hv, hvs⟩ := Bool.and_eq_true_iff.1 h
    simp only [renderItems, itemForms, List.cons_append, List.append_assoc]
    calc forms (',' :: (v.render ++ (renderItems vs ++ cs)))
        = .comma :: forms (v.render ++ (renderItems vs ++ cs)) := forms_cons rfl _
      _ = .comma :: (v.forms ++ (itemForms vs ++ forms cs)) := by
          rw [Value.forms_render hv, forms_renderItems hvs]

theorem forms_renderMembers : ∀ {ms : List (String × Value)}, membersNumberFree ms = true →
    ∀ cs : List Char, forms (renderMembers ms ++ cs) = memberForms ms ++ forms cs
  | [], _, cs => forms_cons rfl cs
  | (name, v) :: ms, h, cs => by
    obtain ⟨hv, hms⟩ := Bool.and_eq_true_iff.1 h
    simp only [renderMembers, memberForms, List.cons_append, List.append_assoc]
    calc forms (',' :: (renderText name ++ ':' :: (v.render ++ (renderMembers ms ++ cs))))
        = .comma :: forms (renderText name ++ ':' :: (v.render ++ (renderMembers ms ++ cs))) :=
          forms_cons rfl _
      _ = .comma :: .text name :: .colon :: (v.forms ++ (memberForms ms ++ forms cs)) := by
          rw [forms_memberName, Value.forms_render hv, forms_renderMembers hms]

end

/-- A printed value says what it was printed from. -/
theorem says_toText {v : Value} (h : v.isNumberFree = true) : Says v.toText v := by
  have hread := Value.forms_render h []
  rw [List.append_nil, forms_nil, List.append_nil] at hread
  unfold Says Value.toText
  rw [String.toList_ofList, hread]

theorem toText_inj {v w : Value} (hv : v.isNumberFree = true) (hw : w.isNumberFree = true)
    (h : v.toText = w.toText) : v = w := by
  apply Says.unique (says_toText hv)
  rw [h]
  exact says_toText hw

/-! ## Printed values have no control characters -/

theorem blank_le_hexDigit : ∀ n < 16, ' ' ≤ hexDigit n := by decide

theorem blank_le_of_shortEscape {x c : Char} (h : Text.shortEscape? x = some c) : ' ' ≤ x := by
  unfold Text.shortEscape? at h
  split at h
  case h_9 => cases h
  all_goals decide

theorem blank_le_escapeChar {c x : Char} (h : x ∈ escapeChar c) : ' ' ≤ x := by
  rcases Text.escapeChar_cases c with ⟨y, hshort, he⟩ | ⟨hcontrol, he⟩ | ⟨_, _, hplain, he⟩
  · rw [he] at h
    simp only [List.mem_cons, List.not_mem_nil, or_false] at h
    rcases h with rfl | rfl
    · decide
    · exact blank_le_of_shortEscape hshort
  · rw [he] at h
    have hlt : c.toNat < 32 := hcontrol
    simp only [List.mem_cons, List.not_mem_nil, or_false] at h
    rcases h with rfl | rfl | rfl | rfl | rfl | rfl
    · decide
    · decide
    · decide
    · decide
    · exact blank_le_hexDigit _ (by omega)
    · exact blank_le_hexDigit _ (by omega)
  · rw [he, List.mem_singleton] at h
    rw [h]
    exact Char.not_lt.1 hplain

theorem blank_le_renderText {s : String} {x : Char} (h : x ∈ renderText s) : ' ' ≤ x := by
  unfold renderText at h
  simp only [List.cons_append, List.mem_cons, List.mem_append, List.mem_flatMap,
    List.not_mem_nil, or_false] at h
  rcases h with rfl | ⟨c, _, hx⟩ | rfl
  · decide
  · exact blank_le_escapeChar hx
  · decide

mutual

theorem Value.blank_le_render : ∀ {v : Value}, v.isNumberFree = true → ∀ x ∈ v.render, ' ' ≤ x
  | .null, _ => by simp [Value.render]
  | .bool true, _ => by simp [Value.render]
  | .bool false, _ => by simp [Value.render]
  | .number _, h => by cases h
  | .text s, _ => fun x hx => blank_le_renderText hx
  | .list [], _ => by simp [Value.render]
  | .list (v :: vs), h => by
    obtain ⟨hv, hvs⟩ := Bool.and_eq_true_iff.1 h
    simp only [Value.render, List.forall_mem_cons, List.forall_mem_append]
    exact ⟨⟨by decide, Value.blank_le_render hv⟩, blank_le_renderItems hvs⟩
  | .object [], _ => by simp [Value.render]
  | .object ((name, v) :: ms), h => by
    obtain ⟨hv, hms⟩ := Bool.and_eq_true_iff.1 h
    simp only [Value.render, List.forall_mem_cons, List.forall_mem_append]
    exact ⟨⟨⟨by decide, fun x => blank_le_renderText⟩, by decide, Value.blank_le_render hv⟩,
      blank_le_renderMembers hms⟩

theorem blank_le_renderItems : ∀ {vs : List Value}, itemsNumberFree vs = true →
    ∀ x ∈ renderItems vs, ' ' ≤ x
  | [], _ => by simp [renderItems]
  | v :: vs, h => by
    obtain ⟨hv, hvs⟩ := Bool.and_eq_true_iff.1 h
    simp only [renderItems, List.forall_mem_cons, List.forall_mem_append]
    exact ⟨⟨by decide, Value.blank_le_render hv⟩, blank_le_renderItems hvs⟩

theorem blank_le_renderMembers : ∀ {ms : List (String × Value)}, membersNumberFree ms = true →
    ∀ x ∈ renderMembers ms, ' ' ≤ x
  | [], _ => by simp [renderMembers]
  | (name, v) :: ms, h => by
    obtain ⟨hv, hms⟩ := Bool.and_eq_true_iff.1 h
    simp only [renderMembers, List.forall_mem_cons, List.forall_mem_append]
    exact ⟨⟨⟨by decide, fun x => blank_le_renderText⟩, by decide, Value.blank_le_render hv⟩,
      blank_le_renderMembers hms⟩

end

end HostBoundary.Json
