import CommandAgent.Text.Utf8

/-!
# Deflate

Reading compressed data. A stream is a row of bits, cut into blocks that are stored as they are or
written in prefix codes; the codes are either fixed or described at the front of their block. A code
stands for a byte, for the end of the block, or for a copy of what was written some way back.

A stream may break off, which leaves what was read so far, or it may be corrupt.
-/

namespace CommandAgent.Deflate

/-- The bits of a stream, in the order in which they are read. -/
abbrev Bits := List Bool

/-- The bits of a byte, the lowest first. -/
def byteBits (b : UInt8) : Bits := (List.range 8).map fun i => b.toNat.testBit i

def bitsOf (data : Bytes) : Bits := data.flatMap byteBits

inductive Ending where
  /-- After its last block. -/
  | complete
  /-- In the middle: more bits were expected. -/
  | broken
  | corrupt
deriving DecidableEq, Repr

structure Inflated where
  data : Array UInt8
  ending : Ending
deriving Repr

/-- A number of `n` bits, the lowest first. -/
def number : (n : Nat) → Bits → Except Ending (Nat × Bits)
  | 0, bits => .ok (0, bits)
  | _ + 1, [] => .error .broken
  | n + 1, b :: bits => do
    let (rest, bits) ← number n bits
    return ((if b then 1 else 0) + 2 * rest, bits)

/-! ### Prefix codes -/

/-- A prefix code: how many code words there are of each length, and the symbols in their order. -/
structure Code where
  counts : Array Nat
  symbols : Array Nat
deriving Repr

namespace Code

/-- The longest code words. -/
def maxLength : Nat := 15

/-- The code whose words have the given lengths; a length of zero means no word. -/
def ofLengths (lengths : List Nat) : Code where
  counts := ((List.range (maxLength + 1)).map fun n =>
    if n = 0 then 0 else lengths.count n).toArray
  symbols := ((List.range maxLength).flatMap fun n =>
    (lengths.zipIdx.filter fun e => e.1 = n + 1).map (·.2)).toArray

/-- How much of the code space is left: negative if there are too many words. -/
def slack (c : Code) : Int :=
  (List.range maxLength).foldl (fun left n => left * 2 - ((c.counts[n + 1]?.getD 0 : Nat) : Int)) 1

/-- Whether the code has a single word, or none. -/
def isSparse (c : Code) : Bool := c.symbols.size ≤ 1

/-- Whether the code can be used: it is full, or it is allowed to be sparse. -/
def isUsable (c : Code) (sparse : Bool) : Bool := c.slack == 0 || (sparse && c.isSparse)

/-- Read a symbol: `code` is the word so far, `first` the first word of this length and `index` the
place of its symbol. -/
def readFrom (c : Code) : (fuel length code first index : Nat) → Bits → Except Ending (Nat × Bits)
  | 0, _, _, _, _, _ => .error .corrupt
  | _, _, _, _, _, [] => .error .broken
  | fuel + 1, length, code, first, index, b :: bits =>
    let code := 2 * code + if b then 1 else 0
    let count := c.counts[length]?.getD 0
    if code < first + count then
      match c.symbols[index + (code - first)]? with
      | some s => .ok (s, bits)
      | none => .error .corrupt
    else readFrom c fuel (length + 1) code (2 * (first + count)) (index + count) bits

/-- Read the symbol of a sparse code, whose only word has no bit set. -/
def readOnly (c : Code) : (length : Nat) → Bits → Except Ending (Nat × Bits)
  | _, [] => .error .broken
  | length, b :: bits =>
    match b, c.symbols[0]? with
    | false, some s =>
      if c.counts[length]? = some 1 then .ok (s, bits) else readOnly c (length + 1) bits
    | _, _ => .error .corrupt

def read (c : Code) (bits : Bits) : Except Ending (Nat × Bits) :=
  if c.isSparse then c.readOnly 1 bits else readFrom c maxLength 1 0 0 0 bits

end Code

/-- The code of bytes and lengths in a block with fixed codes. -/
def fixedLiterals : Code :=
  .ofLengths (List.replicate 144 8 ++ List.replicate 112 9 ++ List.replicate 24 7
    ++ List.replicate 8 8)

/-- The code of distances in a block with fixed codes. -/
def fixedDistances : Code := .ofLengths (List.replicate 32 5)

/-- The shortest length of each length symbol, and how many bits are added to it. -/
def lengthTable : List (Nat × Nat) :=
  [(3, 0), (4, 0), (5, 0), (6, 0), (7, 0), (8, 0), (9, 0), (10, 0), (11, 1), (13, 1), (15, 1),
    (17, 1), (19, 2), (23, 2), (27, 2), (31, 2), (35, 3), (43, 3), (51, 3), (59, 3), (67, 4),
    (83, 4), (99, 4), (115, 4), (131, 5), (163, 5), (195, 5), (227, 5), (258, 0)]

/-- The shortest distance of each distance symbol, and how many bits are added to it. -/
def distanceTable : List (Nat × Nat) :=
  [(1, 0), (2, 0), (3, 0), (4, 0), (5, 1), (7, 1), (9, 2), (13, 2), (17, 3), (25, 3), (33, 4),
    (49, 4), (65, 5), (97, 5), (129, 6), (193, 6), (257, 7), (385, 7), (513, 8), (769, 8),
    (1025, 9), (1537, 9), (2049, 10), (3073, 10), (4097, 11), (6145, 11), (8193, 12), (12289, 12),
    (16385, 13), (24577, 13)]

/-- A number given by a symbol and further bits. -/
def extended (table : List (Nat × Nat)) (symbol : Nat) (bits : Bits) : Except Ending (Nat × Bits) :=
  match table[symbol]? with
  | none => .error .corrupt
  | some (base, extra) => do
    let (more, bits) ← number extra bits
    return (base + more, bits)

/-- The order in which the lengths of the lengths' code are written. -/
def lengthOrder : List Nat := [16, 17, 18, 0, 8, 7, 9, 6, 10, 5, 11, 4, 12, 3, 13, 2, 14, 1, 15]

/-- So many numbers of three bits. -/
def triples : (n : Nat) → Bits → Except Ending (List Nat × Bits)
  | 0, bits => .ok ([], bits)
  | n + 1, bits => do
    let (x, bits) ← number 3 bits
    let (xs, bits) ← triples n bits
    return (x :: xs, bits)

/-- The lengths of code words, in which runs are written short. -/
def readLengths (code : Code) (wanted : Nat) : (fuel : Nat) → List Nat → Bits →
    Except Ending (List Nat × Bits)
  | 0, _, _ => .error .corrupt
  | fuel + 1, found, bits =>
    if found.length = wanted then .ok (found.reverse, bits)
    else do
      let (s, bits) ← code.read bits
      let (value, count, bits) ←
        if s < 16 then pure (s, 1, bits)
        else if s = 16 then do
          let (n, bits) ← number 2 bits
          match found with
          | x :: _ => pure (x, n + 3, bits)
          | [] => throw .corrupt
        else if s = 17 then do
          let (n, bits) ← number 3 bits
          pure (0, n + 3, bits)
        else do
          let (n, bits) ← number 7 bits
          pure (0, n + 11, bits)
      if found.length + count > wanted then throw .corrupt
      readLengths code wanted fuel (List.replicate count value ++ found) bits

/-- The codes described at the front of a block. -/
def readCodes (bits : Bits) : Except Ending (Code × Code × Bits) := do
  let (literals, bits) ← number 5 bits
  let (distances, bits) ← number 5 bits
  let (order, bits) ← number 4 bits
  if literals + 257 > 286 || distances + 1 > 30 then throw .corrupt
  let (written, bits) ← triples (order + 4) bits
  let lengthAt (symbol : Nat) : Nat :=
    ((lengthOrder.zip written).find? (·.1 = symbol)).elim 0 (·.2)
  let code := Code.ofLengths ((List.range 19).map lengthAt)
  unless code.isUsable false do throw .corrupt
  let (lengths, bits) ← readLengths code (literals + 257 + distances + 1) 400 [] bits
  let first := Code.ofLengths (lengths.take (literals + 257))
  let second := Code.ofLengths (lengths.drop (literals + 257))
  unless first.isUsable true && second.isUsable true do throw .corrupt
  return (first, second, bits)

/-! ### Blocks -/

/-- Copy bytes from some way back; before the first byte there are zeros. -/
def copyBack (distance : Nat) : (n : Nat) → Array UInt8 → Array UInt8
  | 0, out => out
  | n + 1, out =>
    let b := if distance ≤ out.size then out[out.size - distance]?.getD 0 else 0
    copyBack distance n (out.push b)

/-- The content of a block in prefix codes. -/
def readCoded (literals distances : Code) : (fuel : Nat) → Array UInt8 → Bits →
    Array UInt8 × Except Ending Bits
  | 0, out, _ => (out, .error .corrupt)
  | fuel + 1, out, bits =>
    match literals.read bits with
    | .error e => (out, .error e)
    | .ok (s, bits) =>
      if s < 256 then readCoded literals distances fuel (out.push (UInt8.ofNat s)) bits
      else if s = 256 then (out, .ok bits)
      else
        let copy := do
          let (length, bits) ← extended lengthTable (s - 257) bits
          let (d, bits) ← distances.read bits
          let (distance, bits) ← extended distanceTable d bits
          return (length, distance, bits)
        match copy with
        | .error e => (out, .error e)
        | .ok (length, distance, bits) =>
          readCoded literals distances fuel (copyBack distance length out) bits

/-- So many bytes as they stand. -/
def readPlain : (n : Nat) → Array UInt8 → Bits → Array UInt8 × Except Ending Bits
  | 0, out, bits => (out, .ok bits)
  | n + 1, out, bits =>
    match number 8 bits with
    | .error e => (out, .error e)
    | .ok (b, bits) => readPlain n (out.push (UInt8.ofNat b)) bits

/-- A stored block, which begins at the next byte; `total` is the number of bits of the stream. -/
def readStored (total : Nat) (out : Array UInt8) (bits : Bits) : Array UInt8 × Except Ending Bits :=
  let bits := bits.drop ((8 - (total - bits.length) % 8) % 8)
  let header := do
    let (length, bits) ← number 16 bits
    let (check, bits) ← number 16 bits
    if length + check ≠ 65535 then throw Ending.corrupt
    return (length, bits)
  match header with
  | .error e => (out, .error e)
  | .ok (length, bits) => readPlain length out bits

def readBlocks (total : Nat) : (fuel : Nat) → Array UInt8 → Bits → Inflated
  | 0, out, _ => ⟨out, .corrupt⟩
  | fuel + 1, out, bits =>
    let header := do
      let (last, bits) ← number 1 bits
      let (kind, bits) ← number 2 bits
      return (last, kind, bits)
    match header with
    | .error e => ⟨out, e⟩
    | .ok (last, kind, bits) =>
      let (out, rest) :=
        match kind with
        | 0 => readStored total out bits
        | 1 => readCoded fixedLiterals fixedDistances (bits.length + 1) out bits
        | 2 =>
          match readCodes bits with
          | .ok (literals, distances, bits) =>
            readCoded literals distances (bits.length + 1) out bits
          | .error e => (out, .error e)
        | _ => (out, .error .corrupt)
      match rest with
      | .error e => ⟨out, e⟩
      | .ok bits => if last = 1 then ⟨out, .complete⟩ else readBlocks total fuel out bits

def inflate (data : Bytes) : Inflated :=
  let bits := bitsOf data
  readBlocks bits.length (bits.length + 1) #[] bits

end CommandAgent.Deflate
