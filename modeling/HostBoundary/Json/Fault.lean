-- What can be wrong with the text of a JSON document, and where. A place is
-- kept as the bytes that are left of the text, and shown as line and column.
import HostBoundary.Text.Utf8

namespace HostBoundary.Json

/-- The ways a text breaks the grammar. -/
inductive GrammarError where
  | expectedValue
  | endInValue
  | endInObject
  | endInList
  | endInText
  | nameNotText
  | expectedColon
  | expectedCommaOrBrace
  | expectedCommaOrBracket
  | trailingComma
  | trailingCharacters
  | expectedWord
  | invalidNumber
  | numberOutOfRange
  | invalidEscape
  | loneSurrogate
  | endOfHexEscape
  | controlCharacter
  deriving DecidableEq, Repr

def GrammarError.message : GrammarError → String
  | .expectedValue => "expected value"
  | .endInValue => "EOF while parsing a value"
  | .endInObject => "EOF while parsing an object"
  | .endInList => "EOF while parsing a list"
  | .endInText => "EOF while parsing a string"
  | .nameNotText => "key must be a string"
  | .expectedColon => "expected `:`"
  | .expectedCommaOrBrace => "expected `,` or `\x7d`"
  | .expectedCommaOrBracket => "expected `,` or `]`"
  | .trailingComma => "trailing comma"
  | .trailingCharacters => "trailing characters"
  | .expectedWord => "expected ident"
  | .invalidNumber => "invalid number"
  | .numberOutOfRange => "number out of range"
  | .invalidEscape => "invalid escape"
  | .loneSurrogate => "lone leading surrogate in hex escape"
  | .endOfHexEscape => "unexpected end of hex escape"
  | .controlCharacter => "control character (\\u0000-\\u001F) found while parsing a string"

/-- A cause and the count of bytes of the text after the place of the fault. -/
structure Fault (ε : Type) where
  cause : ε
  left : Nat

def byteCount (cs : List Char) : Nat := cs.foldl (fun n c => n + c.utf8Size) 0

/-- A fault after all that stands before `rest`. -/
def Fault.before {ε : Type} (cause : ε) (rest : List Char) : Fault ε := ⟨cause, byteCount rest⟩

/-- A fault at the first byte of `rest`, or at the end of the text. The byte
counts as passed. -/
def Fault.at {ε : Type} (cause : ε) (rest : List Char) : Fault ε := ⟨cause, byteCount rest - 1⟩

/-- A fault for which the text is too short. -/
def Fault.atEnd {ε : Type} (cause : ε) : Fault ε := ⟨cause, 0⟩

/-! ## Line and column -/

/-- A place in a text: lines count from one, a column is the bytes since the
last line end. -/
structure Position where
  line : Nat
  column : Nat
  deriving DecidableEq, Repr

def Position.ofBytes (passed : Bytes) : Position where
  line := 1 + passed.count 10
  column := (passed.reverse.takeWhile (· != 10)).length

/-- The place with `left` bytes after it. -/
def Position.ofLeft (s : String) (left : Nat) : Position :=
  let bytes := Text.toBytes s
  .ofBytes (bytes.take (bytes.length - left))

end HostBoundary.Json
