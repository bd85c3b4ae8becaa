import CommandAgent.Archive.Zip.Basic

/-!
# Extra fields

A directory entry may carry further fields, each with a kind and a length: wider numbers, times, a
name or comment in Unicode, or how the data are enciphered. What a field says replaces what the
entry said. Fields of other kinds are passed over, and fields that break off end the list.
-/

namespace CommandAgent.Zip

/-- Why the reading of extra fields stops. -/
inductive Halt where
  /-- The bytes have run out. -/
  | short
  | bad (fault : Fault)

/-- What reading an extra field does to the member; the bytes are those still to be read. -/
abbrev Extra := ExceptT Halt (StateM (Member × Bytes))

namespace Extra

def bytes (n : Nat) : Extra Bytes := do
  let (m, bs) ← get
  if bs.length < n then
    set (m, ([] : Bytes))
    throw .short
  else
    set (m, bs.drop n)
    return bs.take n

def number (n : Nat) : Extra Nat := littleEndian <$> bytes n

def member : Extra Member := Prod.fst <$> get

def change (f : Member → Member) : Extra Unit := modify fun (m, bs) => (f m, bs)

/-- Stop with a fault. -/
def refuse (reason : String) : Extra Unit := throw (.bad (.invalid reason))

/-- Wider numbers, each of which is there if the entry has no room for it, and all of them if the
field is long enough. -/
def wider (length : Nat) : Extra Unit := do
  let whole := length ≥ 24
  let mut used := 0
  if whole || (← member).fullSize = max32 then
    let n ← number 8
    change fun m => { m with fullSize := n }
    used := used + 8
  if whole || (← member).size = max32 then
    let n ← number 8
    change fun m => { m with size := n }
    used := used + 8
  if whole || (← member).header = max32 then
    let n ← number 8
    change fun m => { m with header := n }
    used := used + 8
  if length < used then refuse "ZIP64 extra-data field is the wrong length"
  else discard (bytes (length - used))

/-- Times in fine steps. -/
def fineTimes (length : Nat) : Extra Unit := do
  if length ≠ 32 then refuse "NTFS extra field has an unsupported length"
  discard (number 4)
  if (← number 2) ≠ 1 then refuse "NTFS extra field has an unsupported attribute tag"
  if (← number 2) ≠ 24 then refuse "NTFS extra field has an unsupported attribute size"
  discard (bytes 24)

/-- Times in seconds; the flags say which of them are there. -/
def times (length : Nat) : Extra Unit := do
  let flags ← number 1
  let count := ((List.range 8).filter flags.testBit).length
  if length ≠ 5 && length ≠ 1 + 4 * count then
    refuse "flags and len don't match in extended timestamp field"
  if flags.testBit 0 || length = 5 then discard (bytes 4)
  if flags.testBit 1 && length > 5 then discard (bytes 4)
  if flags.testBit 2 && length > 5 then discard (bytes 4)

/-- How the data are enciphered, and the method under that. -/
def cipher (length : Nat) : Extra Unit := do
  if length ≠ 7 then refuse "AES extra data field has an unsupported length"
  let version ← number 2
  let vendor ← number 2
  let strength ← number 1
  let method ← number 2
  if vendor ≠ 0x4541 then refuse "Invalid AES vendor"
  if version ≠ 1 && version ≠ 2 then refuse "Invalid AES vendor version"
  if strength = 0 || strength > 3 then refuse "Invalid AES encryption strength"
  change fun m => { m with enciphered := true, method := method }

/-- A text in Unicode, which counts for a text with the right checksum. -/
def unicode (length : Nat) (replaced : Member → Bytes)
    (replace : Bytes → String → Member → Member) : Extra Unit := do
  discard (bytes 1)
  let checksum ← number 4
  if length < 5 then refuse "Unicode extra field is too small"
  let content ← bytes (length - 5)
  if checksum ≠ dataChecksum (replaced (← member)).toArray then
    refuse "CRC32 checksum failed on Unicode extra field"
  match Text.Utf8.decode? content with
  | none => refuse "Invalid UTF-8"
  | some text => change (replace content text)

def field : Extra Unit := do
  let kind ← number 2
  let length ← number 2
  match kind with
  | 0x0001 => wider length
  | 0x000a => fineTimes length
  | 0x9901 => cipher length
  | 0x5455 => times length
  | 0x6375 =>
    unicode length (fun m => Text.Utf8.encode m.comment) fun _ text m => { m with comment := text }
  | 0x7075 =>
    unicode length Member.rawName fun raw text m => { m with rawName := raw, name := text }
  | _ => discard (bytes length)

/-- All fields; each takes at least the four bytes of its kind and length. -/
def fields : (fuel : Nat) → Extra Unit
  | 0 => return
  | fuel + 1 => do
    if (← get).2.isEmpty then return
    field
    fields fuel

def apply (extra : Bytes) (m : Member) : Except Fault Member :=
  match (fields (extra.length + 1)).run (m, extra) with
  | (.error (.bad fault), _) => .error fault
  | (.error .short, m, _) | (.ok _, m, _) => .ok m

end Extra
end CommandAgent.Zip
