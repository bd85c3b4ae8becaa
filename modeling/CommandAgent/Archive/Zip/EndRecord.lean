import CommandAgent.Archive.Zip.Basic

/-!
# The end of an archive

An archive ends with a record that says where its directory is and how many members it lists. A
large archive has another record of the kind before it, with wider numbers, and a locator between
the two that says where that one is. Junk may stand before the archive, which shifts all places; by
how much is found from the first mark behind the place that a record names.
-/

namespace CommandAgent.Zip

def endMark : Nat := 0x06054b50

def largeEndMark : Nat := 0x06064b50

/-- The mark of the locator of a large end record. -/
def locatorMark : Nat := 0x07064b50

def entryMark : Nat := 0x02014b50

/-- What an end record says about the directory. -/
structure Outline where
  /-- By how much the places of the archive are shifted. -/
  shift : Nat
  /-- Where the directory begins, without the shift. -/
  directory : Nat
  /-- How many members it lists. -/
  count : Nat
  /-- Why the directory cannot be used, if so. -/
  fault : Option Fault
deriving Repr

structure EndRecord where
  place : Nat
  disk : Nat
  directoryDisk : Nat
  /-- How many members are listed here. -/
  count : Nat
  /-- How many members there are in all. -/
  total : Nat
  directory : Nat
deriving Repr

/-- The end record at a place. Its comment must end with the file or before. -/
def endRecord (data : Array UInt8) (place : Nat) : Except Fault EndRecord :=
  match slice? data place 22 with
  | none => .error .inputOutput
  | some bs =>
    let get (offset n : Nat) : Nat := littleEndian ((bs.drop offset).take n)
    if place + 22 + get 20 2 ≤ data.size then
      .ok ⟨place, get 4 2, get 6 2, get 8 2, get 10 2, get 16 4⟩
    else .error (.invalid "EOCD comment exceeds file boundary")

/-- What is said of an archive on several disks. -/
def severalDisks : Fault := .unsupported "Support for multi-disk files is not implemented"

def EndRecord.outline (e : EndRecord) (data : Array UInt8) : Except Fault Outline :=
  let outline (shift : Nat) : Outline :=
    { shift := shift, directory := e.directory, count := e.count
      fault := if e.disk ≠ e.directoryDisk then some severalDisks else none }
  if e.total = 0 then .ok (outline (e.place - e.directory))
  else if e.directory ≥ e.place then .error (.invalid "Invalid CDFH offset in EOCD")
  else
    match placesOf entryMark data e.directory e.place with
    | p :: _ => .ok (outline (p - e.directory))
    | [] => .error (.invalid "No CDFH found")

/-! ### Large archives -/

structure Locator where
  place : Nat
  directoryDisk : Nat
  /-- Where the large end record is, without the shift. -/
  record : Nat
  disks : Nat
deriving Repr

/-- The locator in front of an end record, if there is one. -/
def EndRecord.locator? (e : EndRecord) (data : Array UInt8) : Option Locator :=
  if e.place < 20 || !marks locatorMark data (e.place - 20) then none
  else do
    let place := e.place - 20
    return ⟨place, ← number? data (place + 4) 4, ← number? data (place + 8) 8,
      ← number? data (place + 16) 4⟩

/-- Whether an end record has numbers that may be too small for the archive. -/
def EndRecord.mayBeLarge (e : EndRecord) : Bool := e.total == max16 || e.directory == max32

/-- The outline that the large end record at a place gives. It must reach exactly up to its
locator. -/
def Locator.outlineAt (l : Locator) (data : Array UInt8) (place : Nat) : Except Fault Outline := do
  let some bs := slice? data place 56 | throw .inputOutput
  let get (offset n : Nat) : Nat := littleEndian ((bs.drop offset).take n)
  let length := get 4 8 + 12
  let (made, needed) := (get 12 2, get 14 2)
  let (disk, directoryDisk) := (get 16 4, get 20 4)
  let (count, total) := (get 24 8, get 32 8)
  let directory := get 48 8
  let shift := place - l.record
  if length < 56 then throw (.invalid "Low EOCD64 record size")
  if place + length > l.place then throw (.invalid "EOCD64 extends beyond EOCD64 locator")
  if directoryDisk ≠ l.directoryDisk then
    throw (.invalid "Invalid EOCD64: inconsistency with Locator data")
  if place + length ≠ l.place then throw (.invalid "Invalid EOCD64: inconsistent length")
  if place < total * 46 + directory then
    throw (.invalid "Invalid EOCD64: inconsistent number of files")
  let fault :=
    if count > total then
      some (.invalid "ZIP64 footer indicates more files on this disk than in the whole archive")
    else if needed > made then
      some (.invalid ("ZIP64 footer indicates a new version is needed to extract this archive than "
        ++ "the version that wrote it"))
    else if directory + shift > max64 then
      some (.invalid "Invalid central directory size or offset")
    else if disk ≠ directoryDisk then some severalDisks
    else none
  return { shift := shift, directory := directory, count := total, fault := fault }

/-- The first outline that one of some places gives, or else the last fault. -/
def Locator.outlineFrom (l : Locator) (data : Array UInt8) : (places : List Nat) →
    (fault : Fault) → Except Fault Outline
  | [], fault => .error fault
  | p :: rest, _ =>
    match l.outlineAt data p with
    | .ok o => .ok o
    | .error e => outlineFrom l data rest e

def Locator.outline (l : Locator) (data : Array UInt8) : Except Fault Outline :=
  if l.record ≥ l.place then .error (.invalid "Invalid EOCD64 Locator CD offset")
  else if l.disks > 1 then .error (.invalid "Multi-disk ZIP files are not supported")
  else
    l.outlineFrom data (placesOf largeEndMark data l.record l.place)
      (.invalid "Could not find EOCD64")

def outline (data : Array UInt8) (e : EndRecord) : Except Fault Outline :=
  match if e.mayBeLarge then e.locator? data else none with
  | some l => l.outline data
  | none => e.outline data

end CommandAgent.Zip
