-- The tokens of a JSON document. A token keeps the text from its first
-- character on and the text after it, so its place can be told later. A
-- text, number or word that ends badly is a token too: it is at fault only
-- where the document may have it, and it is the last token.
import HostBoundary.Json.Number
import HostBoundary.Json.Text

namespace HostBoundary.Json

inductive Form where
  | openBrace
  | closeBrace
  | openBracket
  | closeBracket
  | comma
  | colon
  | null
  | bool (b : Bool)
  | number (n : Number)
  | text (s : String)
  /-- A text that ends badly. -/
  | brokenText (fault : Fault GrammarError)
  /-- A number or word that ends badly. -/
  | brokenWord (fault : Fault GrammarError)
  /-- A character that begins no token. -/
  | stray

structure Token where
  start : List Char
  form : Form
  after : List Char

/-- Blanks between tokens: fewer than the blanks of plain text. -/
def isGap (c : Char) : Bool := c = ' ' || c = '\t' || c = '\n' || c = '\r'

/-- The letters of a word must come next. -/
def readWord : List Char → List Char → Except (Fault GrammarError) (List Char)
  | [], rest => .ok rest
  | _ :: _, [] => .error (.atEnd .endInValue)
  | w :: ws, c :: rest =>
    if c = w then readWord ws rest else .error (.at .expectedWord (c :: rest))

def wordToken (form : Form) (letters rest : List Char) : Form × List Char :=
  match readWord letters rest with
  | .ok after => (form, after)
  | .error f => (.brokenWord f, [])

def textToken (rest : List Char) : Form × List Char :=
  match Text.read rest with
  | .ok (s, after) => (.text (String.ofList s), after)
  | .error f => (.brokenText f, [])

def numberToken (c : Char) (rest : List Char) : Form × List Char :=
  match Number.read c rest with
  | .ok (n, after) => (.number n, after)
  | .error f => (.brokenWord f, [])

/-- The token that begins with `c`, and the text after it. -/
def lexeme (c : Char) (rest : List Char) : Form × List Char :=
  if c = '\x7b' then (.openBrace, rest)
  else if c = '\x7d' then (.closeBrace, rest)
  else if c = '[' then (.openBracket, rest)
  else if c = ']' then (.closeBracket, rest)
  else if c = ',' then (.comma, rest)
  else if c = ':' then (.colon, rest)
  else if c = 'n' then wordToken .null ['u', 'l', 'l'] rest
  else if c = 't' then wordToken (.bool true) ['r', 'u', 'e'] rest
  else if c = 'f' then wordToken (.bool false) ['a', 'l', 's', 'e'] rest
  else if c = '"' then textToken rest
  else if c = '-' ∨ c.isDigit = true then numberToken c rest
  else (.stray, [])

theorem length_readWord {ws cs rest : List Char} (h : readWord ws cs = .ok rest) :
    rest.length ≤ cs.length := by
  induction ws generalizing cs with
  | nil =>
    cases h
    exact Nat.le_refl _
  | cons w ws ih =>
    cases cs with
    | nil => cases h
    | cons c cs =>
      simp only [readWord] at h
      split at h
      · exact Nat.le_succ_of_le (ih h)
      · cases h

theorem length_wordToken (form : Form) (letters rest : List Char) :
    (wordToken form letters rest).2.length ≤ rest.length := by
  unfold wordToken
  split
  · rename_i h
    exact length_readWord h
  · exact Nat.zero_le _

theorem length_textToken (rest : List Char) : (textToken rest).2.length ≤ rest.length := by
  unfold textToken
  split
  · rename_i h
    exact Nat.le_of_lt (Text.length_read h)
  · exact Nat.zero_le _

theorem length_numberToken (c : Char) (rest : List Char) :
    (numberToken c rest).2.length ≤ rest.length := by
  unfold numberToken
  split
  · rename_i h
    exact Number.length_read h
  · exact Nat.zero_le _

/-- A token takes at least its first character. -/
theorem length_lexeme (c : Char) (rest : List Char) :
    (lexeme c rest).2.length ≤ rest.length := by
  have ite_le {p : Prop} [Decidable p] {x y : Form × List Char} (hx : x.2.length ≤ rest.length)
      (hy : y.2.length ≤ rest.length) : (if p then x else y).2.length ≤ rest.length := by
    split
    · exact hx
    · exact hy
  have hall := Nat.le_refl rest.length
  have hw := fun form letters => length_wordToken form letters rest
  exact ite_le hall <| ite_le hall <| ite_le hall <| ite_le hall <| ite_le hall <| ite_le hall <|
    ite_le (hw ..) <| ite_le (hw ..) <| ite_le (hw ..) <| ite_le (length_textToken rest) <|
    ite_le (length_numberToken c rest) (Nat.zero_le _)

/-- The tokens of a text, up to the first that ends badly. -/
def tokens (cs : List Char) : List Token :=
  match cs with
  | [] => []
  | c :: rest =>
    if isGap c then tokens rest
    else
      have : (lexeme c rest).2.length ≤ rest.length := length_lexeme c rest
      ⟨c :: rest, (lexeme c rest).1, (lexeme c rest).2⟩ :: tokens (lexeme c rest).2
termination_by cs.length
decreasing_by all_goals (simp only [List.length_cons]; omega)

end HostBoundary.Json
