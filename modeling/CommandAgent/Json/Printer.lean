import CommandAgent.Json.Basic

/-!
# Compact JSON text

`render` writes a value without blanks, the members of an object in the order of their keys. In a
string the quotation mark, the backslash and the controls below the blank are escaped, five of the
controls by a letter, the others by four hexadecimal digits; no other character is. So a rendered
value never holds a line break, whatever its strings hold.
-/

namespace CommandAgent.Json

def hexDigit (n : Nat) : Char := Nat.digitChar n

def escapeChar (c : Char) : List Char :=
  if c = '"' then ['\\', '"']
  else if c = '\\' then ['\\', '\\']
  else if c = '\n' then ['\\', 'n']
  else if c = '\r' then ['\\', 'r']
  else if c = '\t' then ['\\', 't']
  else if c = '\x08' then ['\\', 'b']
  else if c = '\x0c' then ['\\', 'f']
  else if c.toNat < 0x20 then
    ['\\', 'u', '0', '0', hexDigit (c.toNat / 16), hexDigit (c.toNat % 16)]
  else [c]

def renderString (s : String) : List Char := '"' :: s.toList.flatMap escapeChar ++ ['"']

def renderNumber : Number → List Char
  | .integer n => (toString n).toList
  | .double x => x.toText.toList

mutual

/-- The characters of a value's compact text. -/
def renderChars : Json → List Char
  | .null => "null".toList
  | .bool true => "true".toList
  | .bool false => "false".toList
  | .number n => renderNumber n
  | .string s => renderString s
  | .array items => '[' :: renderItems true items ++ [']']
  | .object ms => '\x7b' :: renderMembers true ms ++ ['\x7d']

def renderItems : (first : Bool) → List Json → List Char
  | _, [] => []
  | first, j :: rest => (if first then [] else [',']) ++ renderChars j ++ renderItems false rest

/-- The members of an object, with commas between them. -/
def renderMembers : (first : Bool) → List (String × Json) → List Char
  | _, [] => []
  | first, (k, j) :: rest =>
    (if first then [] else [',']) ++ renderString k ++ ':' :: renderChars j ++
      renderMembers false rest

end

def render (j : Json) : String := String.ofList j.renderChars

end CommandAgent.Json
