-- Steps through the tokens of a document: the next member of an object, the
-- next item of a list, and the value of a member. Each step takes tokens
-- from the front and says what is wrong where the grammar has no such token.
import HostBoundary.Json.Token

namespace HostBoundary.Json

/-- What a step finds, and the tokens after it. -/
abbrev Step (α : Type) := Except (Fault GrammarError) (α × List Token)

/-- A fault at the first character of a token. -/
def Token.fault (t : Token) (e : GrammarError) : Fault GrammarError := .at e t.start

/-- The next token begins a value. -/
def nextValue : List Token → Step Token
  | [] => .error (.atEnd .endInValue)
  | t :: rest => .ok (t, rest)

/-- A member's name is a text. -/
def memberName (t : Token) : Except (Fault GrammarError) String :=
  match t.form with
  | .text s => .ok s
  | .brokenText f => .error f
  | _ => .error (t.fault .nameNotText)

/-- The name after a comma. -/
def nameAfterComma : List Token → Step (Option String)
  | [] => .error (.atEnd .endInValue)
  | t :: rest =>
    match t.form with
    | .closeBrace => .error (t.fault .trailingComma)
    | _ => (memberName t).map fun m => (some m, rest)

/-- The name of an object's next member, or none at its closing brace. -/
def nextMember (isFirst : Bool) : List Token → Step (Option String)
  | [] => .error (.atEnd .endInObject)
  | t :: rest =>
    match t.form with
    | .closeBrace => .ok (none, rest)
    | .comma => if isFirst then .error (t.fault .nameNotText) else nameAfterComma rest
    | _ =>
      if isFirst then (memberName t).map fun m => (some m, rest)
      else .error (t.fault .expectedCommaOrBrace)

/-- The first token of a member's value, after the colon. -/
def memberValue : List Token → Step Token
  | [] => .error (.atEnd .endInObject)
  | t :: rest =>
    match t.form with
    | .colon => nextValue rest
    | _ => .error (t.fault .expectedColon)

/-- The first token of a list's next item, or none at its closing bracket. -/
def nextItem (isFirst : Bool) : List Token → Step (Option Token)
  | [] => .error (.atEnd .endInList)
  | t :: rest =>
    match t.form with
    | .closeBracket => .ok (none, rest)
    | .comma =>
      if isFirst then .ok (some t, rest)
      else match rest with
        | [] => .error (.atEnd .endInValue)
        | u :: more =>
          match u.form with
          | .closeBracket => .error (u.fault .trailingComma)
          | _ => .ok (some u, more)
    | _ => if isFirst then .ok (some t, rest) else .error (t.fault .expectedCommaOrBracket)

/-- The closing bracket, where the list may have no more items. -/
def closeList : List Token → Step Unit
  | [] => .error (.atEnd .endInList)
  | t :: rest =>
    match t.form with
    | .closeBracket => .ok ((), rest)
    | .comma =>
      match rest with
      | [] => .error (.atEnd .trailingCharacters)
      | u :: _ =>
        match u.form with
        | .closeBracket => .error (u.fault .trailingComma)
        | _ => .error (u.fault .trailingCharacters)
    | _ => .error (t.fault .trailingCharacters)

/-- Nothing but blanks follows. -/
def endOfDocument : List Token → Except (Fault GrammarError) Unit
  | [] => .ok ()
  | t :: _ => .error (t.fault .trailingCharacters)

/-! ## Steps take from the front -/

theorem length_nextValue {ts rest : List Token} {t : Token} (h : nextValue ts = .ok (t, rest)) :
    rest.length < ts.length := by
  cases ts with
  | nil => cases h
  | cons u us =>
    simp only [nextValue, Except.ok.injEq, Prod.mk.injEq] at h
    obtain ⟨_, rfl⟩ := h
    exact Nat.lt_succ_self _

theorem memberName_map_ok {t : Token} {us rest : List Token} {m : Option String}
    (h : ((memberName t).map fun m => (some m, us)) = .ok (m, rest)) : us = rest := by
  cases hm : memberName t with
  | error f => simp [hm, Except.map] at h
  | ok n =>
    simp only [hm, Except.map, Except.ok.injEq, Prod.mk.injEq] at h
    exact h.2

theorem length_nextMember {isFirst : Bool} {ts rest : List Token} {m : Option String}
    (h : nextMember isFirst ts = .ok (m, rest)) : rest.length < ts.length := by
  cases ts with
  | nil => cases h
  | cons t us =>
    simp only [nextMember] at h
    split at h
    · simp only [Except.ok.injEq, Prod.mk.injEq] at h
      obtain ⟨_, rfl⟩ := h
      exact Nat.lt_succ_self _
    · split at h
      · cases h
      · cases us with
        | nil => cases h
        | cons u vs =>
          simp only [nameAfterComma] at h
          split at h
          · cases h
          · obtain rfl := memberName_map_ok h
            exact Nat.lt_succ_of_lt (Nat.lt_succ_self _)
    · split at h
      · obtain rfl := memberName_map_ok h
        exact Nat.lt_succ_self _
      · cases h

theorem length_memberValue {ts rest : List Token} {t : Token}
    (h : memberValue ts = .ok (t, rest)) : rest.length < ts.length := by
  cases ts with
  | nil => cases h
  | cons u us =>
    simp only [memberValue] at h
    split at h
    · exact Nat.lt_succ_of_lt (length_nextValue h)
    · cases h

end HostBoundary.Json
