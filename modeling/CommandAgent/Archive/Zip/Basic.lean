import CommandAgent.Text.Utf8

/-!
# Zip archives

What the parts of an archive are made of: little-endian numbers, marks of four bytes that tell the
parts apart, names in one of two alphabets, and checksums.
-/

namespace CommandAgent.Zip

inductive Fault where
  | invalid (reason : String)
  | unsupported (reason : String)
  | wrongPassword
  /-- Data ended too early, did not fit its checksum or could not be written. -/
  | inputOutput
deriving DecidableEq, Repr

def Fault.message : Fault → String
  | invalid reason => "invalid Zip archive: " ++ reason
  | unsupported reason => "unsupported Zip archive: " ++ reason
  | wrongPassword => "provided password is incorrect"
  | inputOutput => "i/o error"

structure Member where
  name : String
  /-- The name as it is written. -/
  rawName : Bytes
  comment : String
  encrypted : Bool
  /-- How the data are written: 0 as they are, 8 compressed. -/
  method : Nat
  /-- Whether the data are enciphered in a newer way, under a method of their own. -/
  enciphered : Bool
  checksum : Nat
  /-- The size of the data as they stand in the archive. -/
  size : Nat
  /-- The size of the data as they are read. -/
  fullSize : Nat
  /-- Where the header in front of the data begins. -/
  header : Nat
  /-- The permissions and the kind of file, if the archive has them. -/
  mode : Option Nat
deriving Repr

/-! ### Numbers -/

/-- The number that some bytes stand for, the lowest first. -/
def littleEndian (bs : Bytes) : Nat := bs.foldr (fun b n => b.toNat + 256 * n) 0

/-- The bytes from a place on, if all of them are there. -/
def slice? (data : Array UInt8) (place n : Nat) : Option Bytes :=
  if place + n ≤ data.size then some (data.extract place (place + n)).toList else none

def number? (data : Array UInt8) (place n : Nat) : Option Nat :=
  (slice? data place n).map littleEndian

def marks (mark : Nat) (data : Array UInt8) (place : Nat) : Bool :=
  number? data place 4 == some mark

/-- The places between two others at which a mark stands. -/
def placesOf (mark : Nat) (data : Array UInt8) (start stop : Nat) : List Nat :=
  ((List.range (stop - start)).map (start + ·)).filter fun p =>
    p + 4 ≤ stop && marks mark data p

def max16 : Nat := 0xFFFF

def max32 : Nat := 0xFFFFFFFF

def max64 : Nat := 0xFFFFFFFFFFFFFFFF

/-! ### Names -/

/-- The characters beyond ASCII of names that are not marked as Unicode. -/
def oldCharacters : List Char :=
  ("ÇüéâäàåçêëèïîìÄÅÉæÆôöòûùÿÖÜ¢£¥₧ƒáíóúñÑªº¿⌐¬½¼¡«»░▒▓│┤╡╢╖╕╣║╗╝╜╛┐└┴┬├─┼╞╟╚╔╩╦╠═╬╧"
    ++ "╨╤╥╙╘╒╓╫╪┘┌█▄▌▐▀αßΓπΣσµτΦΘΩδ∞φε∩≡±≥≤⌠⌡÷≈°∙·√ⁿ²■\u00a0").toList

/-- A name that is not marked as Unicode. -/
def oldName (data : Bytes) : String :=
  String.ofList <| data.map fun b =>
    if b < 128 then Char.ofNat b.toNat else (oldCharacters[b.toNat - 128]?).getD '?'

def textOf (unicode : Bool) (data : Bytes) : String :=
  if unicode then Text.Utf8.decodeLossy data else oldName data

/-! ### Checksums -/

def checksumBit (c : UInt32) : UInt32 :=
  if c &&& 1 = 1 then (c >>> 1) ^^^ 0xEDB88320 else c >>> 1

def checksumByte (c : UInt32) (b : UInt8) : UInt32 :=
  (List.range 8).foldl (fun c _ => checksumBit c) (c ^^^ b.toUInt32)

def dataChecksum (data : Array UInt8) : Nat :=
  (data.foldl checksumByte 0xFFFFFFFF ^^^ 0xFFFFFFFF).toNat

end CommandAgent.Zip
