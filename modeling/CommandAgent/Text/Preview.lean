import CommandAgent.Text.Utf8

/-!
# Bounded texts

What is written to a log line is bounded in bytes but never cut inside a character. `keepBytes n`
is the longest prefix made of whole characters that fits in `n` bytes; a `preview` first writes
each line break as the two characters `\` and `n`, so that it stays on one line.

`find?` is the search for a marker in a stream of bytes (or any other elements).
-/

namespace CommandAgent.Text

/-- The longest prefix of whole characters that takes at most `n` bytes. -/
def keepBytes : Nat → List Char → List Char
  | _, [] => []
  | n, c :: cs => if c.utf8Size ≤ n then c :: keepBytes (n - c.utf8Size) cs else []

/-- The longest prefix of `s`, in whole characters, within `limit` bytes. -/
def truncatePrefix (s : String) (limit : Nat) : String :=
  String.ofList (keepBytes limit s.toList)

/-- Each line break, with or without a carriage return before it, written as `\n`. -/
def flatten : List Char → List Char
  | [] => []
  | '\r' :: '\n' :: cs => '\\' :: 'n' :: flatten cs
  | c :: cs => if c = '\n' then '\\' :: 'n' :: flatten cs else c :: flatten cs

/-- `s` itself if it fits in `limit` bytes, else its prefix within the limit and three dots. -/
def shorten (s : String) (limit : Nat) : String :=
  if Utf8.size s ≤ limit then s else truncatePrefix s limit ++ "..."

/-- A one-line preview of a program's output. -/
def preview (s : String) (limit : Nat) : String :=
  shorten (String.ofList (flatten s.toList)) limit

/-! ### Searching -/

/-- The position of the first occurrence of `needle`; an empty needle is never found. -/
def find? {α : Type} [BEq α] (needle : List α) : List α → Option Nat
  | [] => none
  | x :: xs =>
    if needle.isEmpty then none
    else if needle.isPrefixOf (x :: xs) then some 0
    else (find? needle xs).map (· + 1)

/-- Replace the occurrences of `needle` from left to right, none overlapping the one before. The
counter `skip` says how many characters of the last occurrence are still to be passed over. -/
def replaceFrom (needle mask : List Char) : Nat → List Char → List Char
  | _, [] => []
  | skip + 1, _ :: cs => replaceFrom needle mask skip cs
  | 0, c :: cs =>
    if needle.isPrefixOf (c :: cs) then mask ++ replaceFrom needle mask (needle.length - 1) cs
    else c :: replaceFrom needle mask 0 cs

/-- `s` with every occurrence of the non-empty text `needle` replaced by `mask`. -/
def replace (s needle mask : String) : String :=
  String.ofList (replaceFrom needle.toList mask.toList 0 s.toList)

end CommandAgent.Text
