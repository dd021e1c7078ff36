-- JSON values and their compact text. A member list keeps its order and its
-- repeats, so a value says all that a document says but for blanks, the
-- spelling of numbers and the escapes in texts.
import HostBoundary.Decimal.Shortest

namespace HostBoundary.Json

inductive Number where
  /-- A number written without fraction and exponent that fits in 64 bits. -/
  | whole (i : Int)
  /-- Any other number, and minus zero. -/
  | real (x : Float)

inductive Value where
  | null
  | bool (b : Bool)
  | number (n : Number)
  | text (s : String)
  | list (items : List Value)
  | object (members : List (String × Value))

/-! ## Compact text -/

def hexDigit (n : Nat) : Char := Nat.digitChar n

/-- One character inside a text. Only what must be escaped is. -/
def escapeChar (c : Char) : List Char :=
  if c = '"' then ['\\', '"']
  else if c = '\\' then ['\\', '\\']
  else if c = '\x08' then ['\\', 'b']
  else if c = '\x0C' then ['\\', 'f']
  else if c = '\n' then ['\\', 'n']
  else if c = '\r' then ['\\', 'r']
  else if c = '\t' then ['\\', 't']
  else if c < ' ' then ['\\', 'u', '0', '0', hexDigit (c.toNat / 16), hexDigit (c.toNat % 16)]
  else [c]

def renderText (s : String) : List Char := '"' :: s.toList.flatMap escapeChar ++ ['"']

def Number.render : Number → List Char
  | .whole i => Decimal.ofInt i
  | .real x => (Decimal.ofFloat x).toList

mutual

/-- The text of a value without blanks. Members stand in their order. -/
def Value.render : Value → List Char
  | .null => ['n', 'u', 'l', 'l']
  | .bool true => ['t', 'r', 'u', 'e']
  | .bool false => ['f', 'a', 'l', 's', 'e']
  | .number n => n.render
  | .text s => renderText s
  | .list [] => ['[', ']']
  | .list (v :: vs) => '[' :: v.render ++ renderItems vs
  | .object [] => ['\x7b', '\x7d']
  | .object ((name, v) :: ms) => '\x7b' :: renderText name ++ ':' :: v.render ++ renderMembers ms

/-- The items after the first, and the bracket. -/
def renderItems : List Value → List Char
  | [] => [']']
  | v :: vs => ',' :: v.render ++ renderItems vs

/-- The members after the first, and the brace. -/
def renderMembers : List (String × Value) → List Char
  | [] => ['\x7d']
  | (name, v) :: ms => ',' :: renderText name ++ ':' :: v.render ++ renderMembers ms

end

def Value.toText (v : Value) : String := String.ofList v.render

end HostBoundary.Json
