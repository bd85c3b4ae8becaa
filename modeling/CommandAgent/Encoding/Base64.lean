import CommandAgent.Text.Utf8

/-!
# Base64

The envelope arrives as one argument, in the standard alphabet with padding. `encode` writes it;
`decode` reads only what `encode` writes: the length must be a multiple of four, the padding must
stand at the end of the last group, and the bits of the last symbol that carry nothing must be zero.

Of several faults the one reported is: a length that leaves one symbol over, then the first byte
that cannot stand where it does, then missing padding, then stray bits.
-/

namespace CommandAgent.Base64

inductive Fault where
  | invalidByte (index : Nat) (byte : UInt8)
  | loneSymbol
  | invalidLastSymbol (index : Nat) (byte : UInt8)
  | invalidPadding
deriving DecidableEq, Repr

def Fault.message : Fault → String
  | invalidByte index byte => s!"Invalid byte {byte.toNat}, offset {index}."
  | loneSymbol => "Encoded text cannot have a 6-bit remainder."
  | invalidLastSymbol index byte => s!"Invalid last symbol {byte.toNat}, offset {index}."
  | invalidPadding => "Invalid padding"

/-- The symbol of a value below 64. -/
def symbol (n : Nat) : UInt8 :=
  UInt8.ofNat <|
    if n < 26 then 65 + n
    else if n < 52 then 97 + (n - 26)
    else if n < 62 then 48 + (n - 52)
    else if n = 62 then 43 else 47

def value? (b : UInt8) : Option Nat :=
  let n := b.toNat
  if 65 ≤ n ∧ n ≤ 90 then some (n - 65)
  else if 97 ≤ n ∧ n ≤ 122 then some (n - 97 + 26)
  else if 48 ≤ n ∧ n ≤ 57 then some (n - 48 + 52)
  else if n = 43 then some 62
  else if n = 47 then some 63
  else none

def pad : UInt8 := 61

/-- The symbols of the bytes, in groups of four. -/
def encode : Bytes → Bytes
  | [] => []
  | [a] => [symbol (a.toNat / 4), symbol (a.toNat % 4 * 16), pad, pad]
  | [a, b] =>
    [symbol (a.toNat / 4), symbol (a.toNat % 4 * 16 + b.toNat / 16), symbol (b.toNat % 16 * 4), pad]
  | a :: b :: c :: rest =>
    symbol (a.toNat / 4) :: symbol (a.toNat % 4 * 16 + b.toNat / 16)
      :: symbol (b.toNat % 16 * 4 + c.toNat / 64) :: symbol (c.toNat % 64) :: encode rest

/-- The padding from a position on: nothing else may follow, and none may stand in the first half of
a group. -/
def paddingFits (index : Nat) (rest : Bytes) : Bool :=
  rest.all (· == pad) && index % 4 ≥ 2 && index % 4 + rest.length ≤ 4

/-- The values of the symbols up to the padding. -/
def values (index : Nat) : Bytes → Except Fault (List Nat)
  | [] => .ok []
  | b :: rest =>
    if b = pad then
      if paddingFits index (b :: rest) then .ok [] else .error (.invalidByte index b)
    else
      match value? b with
      | some v => (values (index + 1) rest).map (v :: ·)
      | none => .error (.invalidByte index b)

/-- The bytes of the values, and what the bits that are left over hold. -/
def assemble : List Nat → Bytes × Nat
  | a :: b :: c :: d :: rest =>
    let (bytes, extra) := assemble rest
    (UInt8.ofNat (a * 4 + b / 16) :: UInt8.ofNat (b % 16 * 16 + c / 4)
      :: UInt8.ofNat (c % 4 * 64 + d) :: bytes, extra)
  | [a, b, c] => ([UInt8.ofNat (a * 4 + b / 16), UInt8.ofNat (b % 16 * 16 + c / 4)], c % 4)
  | [a, b] => ([UInt8.ofNat (a * 4 + b / 16)], b % 16)
  | _ => ([], 0)

def decode (text : Bytes) : Except Fault Bytes :=
  if text.length % 4 = 1 then
    match text.getLast? with
    | some b =>
      if b ≠ pad ∧ (value? b).isNone then .error (.invalidByte (text.length - 1) b)
      else .error .loneSymbol
    | none => .error .loneSymbol
  else
    match values 0 text with
    | .error f => .error f
    | .ok vs =>
      if text.length % 4 ≠ 0 then .error .invalidPadding
      else
        let (bytes, extra) := assemble vs
        if extra ≠ 0 then
          .error (.invalidLastSymbol (vs.length - 1) (text[vs.length - 1]?.getD 0))
        else .ok bytes

end CommandAgent.Base64
