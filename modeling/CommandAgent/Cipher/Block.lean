import CommandAgent.Text.Utf8

/-!
# The block cipher

AES with a key of 256 bits. A block is four columns of four bytes; a round substitutes each byte,
shifts the rows, mixes each column and adds a round key, and the last of the fourteen rounds does
not mix. Encryption and decryption walk the same list of round keys in opposite directions, so that
one undoes the other step by step.

Mixing multiplies by small constants in the field of 256 elements; all of them are sums of repeated
doublings (`double`).
-/

namespace CommandAgent.Cipher

/-- A column of a block, or a word of a key. -/
structure Word where
  b0 : UInt8
  b1 : UInt8
  b2 : UInt8
  b3 : UInt8
deriving DecidableEq, Repr

structure Block where
  c0 : Word
  c1 : Word
  c2 : Word
  c3 : Word
deriving DecidableEq, Repr

namespace Word

def add (x y : Word) : Word := ⟨x.b0 ^^^ y.b0, x.b1 ^^^ y.b1, x.b2 ^^^ y.b2, x.b3 ^^^ y.b3⟩

def map (f : UInt8 → UInt8) (x : Word) : Word := ⟨f x.b0, f x.b1, f x.b2, f x.b3⟩

/-- The bytes turned by one place. -/
def rotate (x : Word) : Word := ⟨x.b1, x.b2, x.b3, x.b0⟩

end Word

namespace Block

def add (x y : Block) : Block := ⟨x.c0.add y.c0, x.c1.add y.c1, x.c2.add y.c2, x.c3.add y.c3⟩

def map (f : UInt8 → UInt8) (x : Block) : Block := ⟨x.c0.map f, x.c1.map f, x.c2.map f, x.c3.map f⟩

def toBytes (x : Block) : Bytes :=
  [x.c0.b0, x.c0.b1, x.c0.b2, x.c0.b3, x.c1.b0, x.c1.b1, x.c1.b2, x.c1.b3,
    x.c2.b0, x.c2.b1, x.c2.b2, x.c2.b3, x.c3.b0, x.c3.b1, x.c3.b2, x.c3.b3]

/-- The whole blocks of a sequence of bytes; what is left over at the end is dropped. -/
def ofBytes : Bytes → List Block
  | a0 :: a1 :: a2 :: a3 :: b0 :: b1 :: b2 :: b3 :: c0 :: c1 :: c2 :: c3 :: d0 :: d1 :: d2 :: d3
      :: rest =>
    ⟨⟨a0, a1, a2, a3⟩, ⟨b0, b1, b2, b3⟩, ⟨c0, c1, c2, c3⟩, ⟨d0, d1, d2, d3⟩⟩ :: ofBytes rest
  | _ => []

end Block

/-! ### Substitution -/

/-- The substitution of bytes, row by row. -/
def substitutes : Array UInt8 := #[
  0x63, 0x7c, 0x77, 0x7b, 0xf2, 0x6b, 0x6f, 0xc5, 0x30, 0x01, 0x67, 0x2b, 0xfe, 0xd7, 0xab, 0x76,
  0xca, 0x82, 0xc9, 0x7d, 0xfa, 0x59, 0x47, 0xf0, 0xad, 0xd4, 0xa2, 0xaf, 0x9c, 0xa4, 0x72, 0xc0,
  0xb7, 0xfd, 0x93, 0x26, 0x36, 0x3f, 0xf7, 0xcc, 0x34, 0xa5, 0xe5, 0xf1, 0x71, 0xd8, 0x31, 0x15,
  0x04, 0xc7, 0x23, 0xc3, 0x18, 0x96, 0x05, 0x9a, 0x07, 0x12, 0x80, 0xe2, 0xeb, 0x27, 0xb2, 0x75,
  0x09, 0x83, 0x2c, 0x1a, 0x1b, 0x6e, 0x5a, 0xa0, 0x52, 0x3b, 0xd6, 0xb3, 0x29, 0xe3, 0x2f, 0x84,
  0x53, 0xd1, 0x00, 0xed, 0x20, 0xfc, 0xb1, 0x5b, 0x6a, 0xcb, 0xbe, 0x39, 0x4a, 0x4c, 0x58, 0xcf,
  0xd0, 0xef, 0xaa, 0xfb, 0x43, 0x4d, 0x33, 0x85, 0x45, 0xf9, 0x02, 0x7f, 0x50, 0x3c, 0x9f, 0xa8,
  0x51, 0xa3, 0x40, 0x8f, 0x92, 0x9d, 0x38, 0xf5, 0xbc, 0xb6, 0xda, 0x21, 0x10, 0xff, 0xf3, 0xd2,
  0xcd, 0x0c, 0x13, 0xec, 0x5f, 0x97, 0x44, 0x17, 0xc4, 0xa7, 0x7e, 0x3d, 0x64, 0x5d, 0x19, 0x73,
  0x60, 0x81, 0x4f, 0xdc, 0x22, 0x2a, 0x90, 0x88, 0x46, 0xee, 0xb8, 0x14, 0xde, 0x5e, 0x0b, 0xdb,
  0xe0, 0x32, 0x3a, 0x0a, 0x49, 0x06, 0x24, 0x5c, 0xc2, 0xd3, 0xac, 0x62, 0x91, 0x95, 0xe4, 0x79,
  0xe7, 0xc8, 0x37, 0x6d, 0x8d, 0xd5, 0x4e, 0xa9, 0x6c, 0x56, 0xf4, 0xea, 0x65, 0x7a, 0xae, 0x08,
  0xba, 0x78, 0x25, 0x2e, 0x1c, 0xa6, 0xb4, 0xc6, 0xe8, 0xdd, 0x74, 0x1f, 0x4b, 0xbd, 0x8b, 0x8a,
  0x70, 0x3e, 0xb5, 0x66, 0x48, 0x03, 0xf6, 0x0e, 0x61, 0x35, 0x57, 0xb9, 0x86, 0xc1, 0x1d, 0x9e,
  0xe1, 0xf8, 0x98, 0x11, 0x69, 0xd9, 0x8e, 0x94, 0x9b, 0x1e, 0x87, 0xe9, 0xce, 0x55, 0x28, 0xdf,
  0x8c, 0xa1, 0x89, 0x0d, 0xbf, 0xe6, 0x42, 0x68, 0x41, 0x99, 0x2d, 0x0f, 0xb0, 0x54, 0xbb, 0x16
]

/-- The inverse substitution, row by row. -/
def inverseSubstitutes : Array UInt8 := #[
  0x52, 0x09, 0x6a, 0xd5, 0x30, 0x36, 0xa5, 0x38, 0xbf, 0x40, 0xa3, 0x9e, 0x81, 0xf3, 0xd7, 0xfb,
  0x7c, 0xe3, 0x39, 0x82, 0x9b, 0x2f, 0xff, 0x87, 0x34, 0x8e, 0x43, 0x44, 0xc4, 0xde, 0xe9, 0xcb,
  0x54, 0x7b, 0x94, 0x32, 0xa6, 0xc2, 0x23, 0x3d, 0xee, 0x4c, 0x95, 0x0b, 0x42, 0xfa, 0xc3, 0x4e,
  0x08, 0x2e, 0xa1, 0x66, 0x28, 0xd9, 0x24, 0xb2, 0x76, 0x5b, 0xa2, 0x49, 0x6d, 0x8b, 0xd1, 0x25,
  0x72, 0xf8, 0xf6, 0x64, 0x86, 0x68, 0x98, 0x16, 0xd4, 0xa4, 0x5c, 0xcc, 0x5d, 0x65, 0xb6, 0x92,
  0x6c, 0x70, 0x48, 0x50, 0xfd, 0xed, 0xb9, 0xda, 0x5e, 0x15, 0x46, 0x57, 0xa7, 0x8d, 0x9d, 0x84,
  0x90, 0xd8, 0xab, 0x00, 0x8c, 0xbc, 0xd3, 0x0a, 0xf7, 0xe4, 0x58, 0x05, 0xb8, 0xb3, 0x45, 0x06,
  0xd0, 0x2c, 0x1e, 0x8f, 0xca, 0x3f, 0x0f, 0x02, 0xc1, 0xaf, 0xbd, 0x03, 0x01, 0x13, 0x8a, 0x6b,
  0x3a, 0x91, 0x11, 0x41, 0x4f, 0x67, 0xdc, 0xea, 0x97, 0xf2, 0xcf, 0xce, 0xf0, 0xb4, 0xe6, 0x73,
  0x96, 0xac, 0x74, 0x22, 0xe7, 0xad, 0x35, 0x85, 0xe2, 0xf9, 0x37, 0xe8, 0x1c, 0x75, 0xdf, 0x6e,
  0x47, 0xf1, 0x1a, 0x71, 0x1d, 0x29, 0xc5, 0x89, 0x6f, 0xb7, 0x62, 0x0e, 0xaa, 0x18, 0xbe, 0x1b,
  0xfc, 0x56, 0x3e, 0x4b, 0xc6, 0xd2, 0x79, 0x20, 0x9a, 0xdb, 0xc0, 0xfe, 0x78, 0xcd, 0x5a, 0xf4,
  0x1f, 0xdd, 0xa8, 0x33, 0x88, 0x07, 0xc7, 0x31, 0xb1, 0x12, 0x10, 0x59, 0x27, 0x80, 0xec, 0x5f,
  0x60, 0x51, 0x7f, 0xa9, 0x19, 0xb5, 0x4a, 0x0d, 0x2d, 0xe5, 0x7a, 0x9f, 0x93, 0xc9, 0x9c, 0xef,
  0xa0, 0xe0, 0x3b, 0x4d, 0xae, 0x2a, 0xf5, 0xb0, 0xc8, 0xeb, 0xbb, 0x3c, 0x83, 0x53, 0x99, 0x61,
  0x17, 0x2b, 0x04, 0x7e, 0xba, 0x77, 0xd6, 0x26, 0xe1, 0x69, 0x14, 0x63, 0x55, 0x21, 0x0c, 0x7d
]

def substitute (b : UInt8) : UInt8 := substitutes[b.toNat]?.getD 0

/-- The byte with this substitute. -/
def unsubstitute (b : UInt8) : UInt8 := inverseSubstitutes[b.toNat]?.getD 0

/-! ### Rows and columns -/

/-- Row `i` of the block turned by `i` places. -/
def shiftRows (x : Block) : Block :=
  ⟨⟨x.c0.b0, x.c1.b1, x.c2.b2, x.c3.b3⟩, ⟨x.c1.b0, x.c2.b1, x.c3.b2, x.c0.b3⟩,
    ⟨x.c2.b0, x.c3.b1, x.c0.b2, x.c1.b3⟩, ⟨x.c3.b0, x.c0.b1, x.c1.b2, x.c2.b3⟩⟩

/-- Row `i` of the block turned back by `i` places. -/
def unshiftRows (x : Block) : Block :=
  ⟨⟨x.c0.b0, x.c3.b1, x.c2.b2, x.c1.b3⟩, ⟨x.c1.b0, x.c0.b1, x.c3.b2, x.c2.b3⟩,
    ⟨x.c2.b0, x.c1.b1, x.c0.b2, x.c3.b3⟩, ⟨x.c3.b0, x.c2.b1, x.c1.b2, x.c0.b3⟩⟩

/-- The double of a field element. -/
def double (b : UInt8) : UInt8 := if b &&& 0x80 = 0 then b <<< 1 else (b <<< 1) ^^^ 0x1b

/-- Multiply a column by the matrix whose first row is 2 3 1 1. -/
def mixColumn (w : Word) : Word :=
  let row (a b c d : UInt8) : UInt8 := double a ^^^ (double b ^^^ b) ^^^ c ^^^ d
  ⟨row w.b0 w.b1 w.b2 w.b3, row w.b1 w.b2 w.b3 w.b0, row w.b2 w.b3 w.b0 w.b1,
    row w.b3 w.b0 w.b1 w.b2⟩

/-- Multiply a column by the matrix whose first row is 14 11 13 9. -/
def unmixColumn (w : Word) : Word :=
  let row (a b c d : UInt8) : UInt8 :=
    (double (double (double a)) ^^^ double (double a) ^^^ double a)
      ^^^ (double (double (double b)) ^^^ double b ^^^ b)
      ^^^ (double (double (double c)) ^^^ double (double c) ^^^ c)
      ^^^ (double (double (double d)) ^^^ d)
  ⟨row w.b0 w.b1 w.b2 w.b3, row w.b1 w.b2 w.b3 w.b0, row w.b2 w.b3 w.b0 w.b1,
    row w.b3 w.b0 w.b1 w.b2⟩

def mixColumns (x : Block) : Block :=
  ⟨mixColumn x.c0, mixColumn x.c1, mixColumn x.c2, mixColumn x.c3⟩

def unmixColumns (x : Block) : Block :=
  ⟨unmixColumn x.c0, unmixColumn x.c1, unmixColumn x.c2, unmixColumn x.c3⟩

/-! ### Round keys -/

/-- The round keys: one that is added first, one for each round that mixes, and the last. -/
structure Schedule where
  first : Block
  middle : List Block
  last : Block
deriving DecidableEq, Repr

/-- The next two round keys from the two before them. -/
def nextKeys (constant : UInt8) (x y : Block) : Block × Block :=
  let w0 := (x.c0.add (y.c3.rotate.map substitute)).add ⟨constant, 0, 0, 0⟩
  let w1 := x.c1.add w0
  let w2 := x.c2.add w1
  let w3 := x.c3.add w2
  let w4 := y.c0.add (w3.map substitute)
  let w5 := y.c1.add w4
  let w6 := y.c2.add w5
  let w7 := y.c3.add w6
  (⟨w0, w1, w2, w3⟩, ⟨w4, w5, w6, w7⟩)

/-- The round keys that follow the two halves of a key, `count` pairs of them. -/
def roundKeys : (count : Nat) → (constant : UInt8) → Block → Block → List Block
  | 0, _, _, _ => []
  | count + 1, constant, x, y =>
    let (x', y') := nextKeys constant x y
    x' :: y' :: roundKeys count (double constant) x' y'

/-- The schedule of a key, given as its two halves. The second half and the twelve keys after it
belong to the rounds that mix. -/
def schedule (x y : Block) : Schedule :=
  let keys := roundKeys 7 1 x y
  ⟨x, y :: keys.take 12, (keys.drop 12).headD x⟩

/-! ### Blocks -/

def round (x k : Block) : Block := (mixColumns (shiftRows (x.map substitute))).add k

/-- Undo a round that mixes. -/
def unround (k x : Block) : Block := (unshiftRows (unmixColumns (x.add k))).map unsubstitute

def encryptBlock (s : Schedule) (x : Block) : Block :=
  (shiftRows ((s.middle.foldl round (x.add s.first)).map substitute)).add s.last

def decryptBlock (s : Schedule) (x : Block) : Block :=
  (s.middle.foldr unround ((unshiftRows (x.add s.last)).map unsubstitute)).add s.first

end CommandAgent.Cipher
