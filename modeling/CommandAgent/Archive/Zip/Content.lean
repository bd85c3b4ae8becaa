import CommandAgent.Archive.Deflate
import CommandAgent.Archive.Zip.Basic

/-!
# The members of an archive

What a member is to become, the way to it below the directory that an archive is unpacked into, and
its content.
-/

namespace CommandAgent.Zip

/-- The names on a relative way; those that go up must not lead out of its start. -/
def stepsOf? (way : String) : Option (List String) :=
  if way.toList.head? = some '/' then none else walk [] (way.splitOn "/")
where
  /-- Follow the parts, the names so far being in reverse. -/
  walk : List String → List String → Option (List String)
    | done, [] => some done.reverse
    | done, part :: rest =>
      if part.isEmpty || part = "." then walk done rest
      else if part = ".." then
        match done with
        | _ :: up => walk up rest
        | [] => none
      else walk (part :: done) rest

namespace Member

def isDirectory (m : Member) : Bool :=
  m.name.toList.getLast? == some '/' || m.name.toList.getLast? == some '\\'

/-- Whether a member is a link; its content is the target. -/
def isLink (m : Member) : Bool := m.mode.any fun mode => mode &&& 0o120000 == 0o120000

/-- The names on the way to a member. -/
def steps? (m : Member) : Option (List String) :=
  if m.name.toList.contains '\x00' then none else stepsOf? m.name

/-- The mark of the header in front of a member's data. -/
def headerMark : Nat := 0x04034b50

/-- Where the data of a member begin, if they can be read at all. -/
def start (m : Member) (data : Array UInt8) : Except Fault Nat := do
  if m.encrypted then throw (.unsupported "Password required to decrypt file")
  let some header := slice? data m.header 30 | throw .inputOutput
  let get (offset n : Nat) : Nat := littleEndian ((header.drop offset).take n)
  unless get 0 4 = headerMark do throw (.invalid "Invalid local file header")
  if m.method ≠ 0 && m.method ≠ 8 then
    throw (.unsupported "Compression method not supported")
  if m.enciphered then throw .wrongPassword
  return m.header + 30 + get 26 2 + get 28 2

/-- Compressed data are read in portions of this size. -/
def portion : Nat := 8192

/-- Data are put out in windows of this size. -/
def window : Nat := 32768

/-- How much is written of corrupt data, of which `size` bytes can be read: all that was read before
the last portion of input or the last window of output was begun. -/
def settled (stored : Bytes) (size : Nat) : Nat :=
  let before := (List.range (stored.length / portion + 1)).reverse.findSome? fun n =>
    let r := Deflate.inflate (stored.take (n * portion))
    if r.ending = .corrupt then none else some r.data.size
  max (before.getD 0) (size / window * window)

/-- The content of a member whose data begin at a place, and whether it is whole. What is read
before a fault is written. -/
def content (m : Member) (data : Array UInt8) (start : Nat) : Array UInt8 × Bool :=
  let stored := data.extract start (min data.size (start + m.size))
  if m.method = 0 then (stored, dataChecksum stored = m.checksum)
  else
    let r := Deflate.inflate stored.toList
    match r.ending with
    | .complete => (r.data, dataChecksum r.data = m.checksum)
    | .broken => (r.data, false)
    | .corrupt => (r.data.extract 0 (settled stored.toList r.data.size), false)

end Member
end CommandAgent.Zip
