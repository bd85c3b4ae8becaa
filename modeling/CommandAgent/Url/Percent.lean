import CommandAgent.Text.Utf8

/-!
# Percent encoding

Inside a URL a byte may be written as `%` and two hexadecimal digits. Each part of a URL has a set
of ASCII characters that must be written so; characters beyond ASCII and controls always are. The
percent sign is in none of the sets: what is already encoded stays as it is.
-/

namespace CommandAgent.Url

def upperHex (n : Nat) : Char := if n < 10 then Char.ofNat (48 + n) else Char.ofNat (55 + n)

def percentByte (b : UInt8) : List Char := ['%', upperHex (b.toNat / 16), upperHex (b.toNat % 16)]

/-- Controls and what lies beyond ASCII are written with percent signs everywhere. -/
def isControl (c : Char) : Bool := c.toNat < 0x20 || c.toNat ≥ 0x7F

def fragmentSet (c : Char) : Bool := isControl c || [' ', '"', '<', '>', '`'].contains c

/-- Characters encoded in the query of a URL whose scheme is not special. -/
def querySet (c : Char) : Bool := isControl c || [' ', '"', '#', '<', '>'].contains c

/-- Characters encoded in the query of a URL with a special scheme. -/
def specialQuerySet (c : Char) : Bool := querySet c || c == '\''

def pathSet (c : Char) : Bool := fragmentSet c || ['#', '?', '\x7b', '\x7d'].contains c

/-- Characters encoded in a user name or password. -/
def userSet (c : Char) : Bool :=
  pathSet c || ['/', ':', ';', '=', '@', '[', '\\', ']', '^', '|'].contains c

/-- A text with the characters of a set written with percent signs. -/
def encodeWith (mustEncode : Char → Bool) (cs : List Char) : List Char :=
  cs.flatMap fun c => if mustEncode c then (String.utf8EncodeChar c).flatMap percentByte else [c]

def hexDigit? (c : Char) : Option Nat :=
  let n := c.toNat
  if 48 ≤ n ∧ n ≤ 57 then some (n - 48)
  else if 97 ≤ n ∧ n ≤ 102 then some (n - 87)
  else if 65 ≤ n ∧ n ≤ 70 then some (n - 55)
  else none

/-- The bytes of a text in which percent signs with two digits stand for bytes. -/
def decodeBytes : List Char → Bytes
  | '%' :: a :: b :: cs =>
    match hexDigit? a, hexDigit? b with
    | some x, some y => UInt8.ofNat (16 * x + y) :: decodeBytes cs
    | _, _ => 0x25 :: decodeBytes (a :: b :: cs)
  | c :: cs => String.utf8EncodeChar c ++ decodeBytes cs
  | [] => []

/-- The text behind a percent-encoded one, if it is text. -/
def decode? (s : String) : Option String := Text.Utf8.decode? (decodeBytes s.toList)

end CommandAgent.Url
