import CommandAgent.Archive.Zip.EndRecord
import CommandAgent.Archive.Zip.Extra

/-!
# The directory of an archive

The directory lists for each member its name, its sizes, its checksum and the place of its data. Of
several end records the last one whose directory can be read counts.
-/

namespace CommandAgent.Zip

/-- The permissions and the kind of file that an entry gives, according to the system that
wrote it. -/
def mode? (system attributes : Nat) : Option Nat :=
  if attributes = 0 then none
  else
    match system with
    | 3 => some (attributes / 65536)
    | 0 =>
      let mode := if attributes.testBit 4 then 0o40775 else 0o100664
      some (if attributes.testBit 0 then mode &&& 0o555 else mode)
    | _ => none

/-- The directory entry at a place, and where the next one begins. -/
def entry (data : Array UInt8) (shift place : Nat) : Except Fault (Member × Nat) := do
  let some bs := slice? data place 46 | throw .inputOutput
  let get (offset n : Nat) : Nat := littleEndian ((bs.drop offset).take n)
  unless get 0 4 = entryMark do throw (.invalid "Invalid Central Directory header")
  let (nameLength, extraLength, commentLength) := (get 28 2, get 30 2, get 32 2)
  let some name := slice? data (place + 46) nameLength | throw .inputOutput
  let some extra := slice? data (place + 46 + nameLength) extraLength | throw .inputOutput
  let next := place + 46 + nameLength + extraLength + commentLength
  let some comment := slice? data (next - commentLength) commentLength | throw .inputOutput
  let flags := get 8 2
  let m ← Extra.apply extra
    { name := textOf (flags.testBit 11) name, rawName := name
      comment := textOf (flags.testBit 11) comment
      encrypted := flags.testBit 0, method := get 10 2, enciphered := false, checksum := get 16 4
      size := get 20 4, fullSize := get 24 4, header := get 42 4
      mode := mode? (get 5 1) (get 38 4) }
  if m.method = 99 && !m.enciphered then
    throw (.invalid "AES encryption without AES extra data field")
  if m.header + shift > max64 then throw (.invalid "Archive header is too large")
  return ({ m with header := m.header + shift }, next)

def entries (data : Array UInt8) (shift : Nat) : (n place : Nat) → Except Fault (List Member)
  | 0, _ => .ok []
  | n + 1, place => do
    let (m, next) ← entry data shift place
    let rest ← entries data shift n next
    return m :: rest

def listed (data : Array UInt8) (o : Outline) : Except Fault (List Member) :=
  match o.fault with
  | some fault => .error fault
  | none => entries data o.shift o.count (o.directory + o.shift)

/-- Of members with one name the last counts, at the place of the first. -/
def distinct (ms : List Member) : List Member :=
  ms.foldl
    (fun found m =>
      if found.any (·.name = m.name) then found.map fun f => if f.name = m.name then m else f
      else found ++ [m]) []

/-- The members according to the end records at the given places, from the last one on. An end
record that cannot be used is remembered; one whose directory cannot be read is forgotten, with all
that failed behind it. -/
def membersFrom (data : Array UInt8) : (places : List Nat) → (fault : Option Fault) →
    Except Fault (List Member)
  | [], fault => .error (fault.getD (.invalid "Could not find EOCD"))
  | p :: rest, fault =>
    match endRecord data p with
    | .error e => membersFrom data rest (fault.or (some e))
    | .ok record =>
      match outline data record with
      | .error e => membersFrom data rest (some e)
      | .ok o =>
        match listed data o with
        | .ok ms => .ok (distinct ms)
        | .error _ => membersFrom data rest none

def members (data : Array UInt8) : Except Fault (List Member) :=
  membersFrom data (placesOf endMark data 0 data.size).reverse none

end CommandAgent.Zip
