/-!
# Punycode

A label beyond ASCII can be written in ASCII: its ASCII characters, a hyphen, and behind that where
the others are inserted. Each insertion is one number, which counts on from the one before through
all places and then through all code points. A number is written in digits to the base 36, with a
bias that adapts to the numbers so far.
-/

namespace CommandAgent.Url

/-- One step of decoding Punycode: the adapted bias after a delta. -/
def adapt (delta points : Nat) (first : Bool) : Nat :=
  let delta := if first then delta / 700 else delta / 2
  go 40 (delta + delta / points) 0
where
  /-- Scale the delta down. -/
  go : Nat → Nat → Nat → Nat
    | 0, _, k => k
    | fuel + 1, delta, k =>
      if delta > 455 then go fuel (delta / 35) (k + 36) else k + 36 * delta / (delta + 38)

def punycodeDigit? (c : Char) : Option Nat :=
  if c.isLower then some (c.toNat - 97) else if c.isDigit then some (c.toNat - 48 + 26) else none

/-- A number of variable length: its value and the rest. -/
def punycodeNumber (bias : Nat) : (k weight sum : Nat) → List Char → Option (Nat × List Char)
  | _, _, _, [] => none
  | k, weight, sum, c :: cs =>
    match punycodeDigit? c with
    | none => none
    | some d =>
      let sum := sum + d * weight
      let t := if k ≤ bias then 1 else if k ≥ bias + 26 then 26 else k - bias
      if d < t then some (sum, cs) else punycodeNumber bias (k + 36) (weight * (36 - t)) sum cs

/-- Insert the code points that the numbers describe; one unit of fuel for each character. -/
def punycodeInsert : Nat → (first : Bool) → (n i bias : Nat) → List Char → List Char →
    Option (List Char)
  | _, _, _, _, _, out, [] => some out
  | 0, _, _, _, _, _, _ => none
  | fuel + 1, first, n, i, bias, out, cs => do
    let (delta, rest) ← punycodeNumber bias 36 1 0 cs
    let points := out.length + 1
    let i := i + delta
    let n := n + i / points
    let i := i % points
    if n > 0x10FFFF || (0xD800 ≤ n && n ≤ 0xDFFF) then none
    else
      punycodeInsert fuel false n (i + 1) (adapt delta points first)
        (out.take i ++ [Char.ofNat n] ++ out.drop i) rest

/-- The label behind a Punycode text. -/
def punycodeDecode? (cs : List Char) : Option (List Char) :=
  let back := cs.reverse
  let tail := (back.takeWhile (· != '-')).reverse
  let base := ((back.dropWhile (· != '-')).drop 1).reverse
  punycodeInsert (tail.length + 1) true 128 0 72 base tail

end CommandAgent.Url
