-- Quoted text in messages. The text stands between double quotes, and a
-- character that would not show, or would join the one before it, is
-- written by its code point.
import HostBoundary.Text.Printable

namespace HostBoundary.Text

/-- The lower-case hexadecimal digits of `n`, without leading zeros. -/
def hexDigits (n : Nat) : List Char := Nat.toDigits 16 n

/-- One character between quotes. ASCII letters come first: most text is ASCII. -/
def quoteChar (c : Char) : List Char :=
  if c = '"' then ['\\', '"']
  else if c = '\\' then ['\\', '\\']
  else if c = '\x00' then ['\\', '0']
  else if c = '\t' then ['\\', 't']
  else if c = '\n' then ['\\', 'n']
  else if c = '\r' then ['\\', 'r']
  else if ' ' ≤ c && c ≤ '~' then [c]
  else if isPrintable c && !isJoiningMark c then [c]
  else ['\\', 'u', '\x7b'] ++ hexDigits c.toNat ++ ['\x7d']

def quotedChars (cs : List Char) : List Char := '"' :: cs.flatMap quoteChar ++ ['"']

def quoted (s : String) : String := String.ofList (quotedChars s.toList)

end HostBoundary.Text
