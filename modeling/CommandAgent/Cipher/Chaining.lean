import CommandAgent.Cipher.Block

/-!
# Sealed command sets

A sealed command set is an initial block followed by the plaintext in cipher block chaining: each
block is added to the sealed block before it and then encrypted. The plaintext is padded to whole
blocks, `n` bytes of value `n`. Opening drops a partial block at the end, and drops padding only
where it is well formed: with the wrong key what comes out is not refused here, it will not parse.
-/

namespace CommandAgent.Cipher

/-- Encrypt blocks, each added to the sealed block before it. -/
def chain (s : Schedule) : (before : Block) → List Block → List Block
  | _, [] => []
  | before, x :: xs =>
    let y := encryptBlock s (x.add before)
    y :: chain s y xs

/-- Decrypt blocks, each added to the sealed block before it. -/
def unchain (s : Schedule) : (before : Block) → List Block → List Block
  | _, [] => []
  | before, y :: ys => (decryptBlock s y).add before :: unchain s y ys

def blockSize : Nat := 16

/-- The padding of a plaintext of some length. -/
def padding (length : Nat) : Bytes :=
  let n := blockSize - length % blockSize
  List.replicate n (UInt8.ofNat n)

/-- A plaintext without its padding, if it ends in `n` bytes of value `n` for an `n` from 1 to 16;
any other is kept as it is. -/
def stripPadding (plain : Bytes) : Bytes :=
  match plain.getLast? with
  | none => plain
  | some last =>
    let n := last.toNat
    if n = 0 ∨ n > blockSize ∨ n > plain.length then plain
    else if (plain.drop (plain.length - n)).all (· == last) then plain.take (plain.length - n)
    else plain

def joinBlocks (xs : List Block) : Bytes := xs.flatMap Block.toBytes

/-- Seal a plaintext under an initial block. -/
def sealBytes (s : Schedule) (initial : Block) (plain : Bytes) : Bytes :=
  initial.toBytes ++ joinBlocks (chain s initial (Block.ofBytes (plain ++ padding plain.length)))

/-- Open a sealed payload; none if it has no initial block. -/
def openBytes? (s : Schedule) (payload : Bytes) : Option Bytes :=
  match Block.ofBytes payload with
  | [] => none
  | initial :: body => some (stripPadding (joinBlocks (unchain s initial body)))

/-! ### Keys -/

def keySize : Nat := 32

/-- The round keys of a token: its first 32 bytes are the key. -/
def scheduleOfToken? (token : Bytes) : Option Schedule :=
  match Block.ofBytes (token.take keySize) with
  | [x, y] => some (schedule x y)
  | _ => none

end CommandAgent.Cipher
