import CommandAgent.Archive.Zip.Content
import CommandAgent.Archive.Zip.Directory
import CommandAgent.Batch.Invocation

/-!
# Bundles

A command file may be a bundle, that is an archive of several files. It is unpacked into a fresh
directory beside it, and a marker file inside names the file to run; the first directory on the way
to that file becomes the directory to run it in. Any other command file is run as it is.
-/

namespace CommandAgent.Bundle

/-- The file of a bundle that names the file to run. -/
def marker : String := "entry.bs"

/-- What a bundle begins with. -/
def magic : Bytes := [0x50, 0x4B, 0x03, 0x04]

def isBundle (w : World) (path : String) : Bool :=
  match w.contentOf path with
  | .ok data => data.take 4 == magic
  | .error _ => false

/-- The directory that a bundle is unpacked into. -/
def directory (w : World) (path id : String) : String :=
  let stem := (Path.stem? path).getD "bundle"
  let parent := (Path.parent? path).getD w.env.temporaryDirectory
  Path.join parent (stem ++ "-" ++ id)

/-! ### Unpacking -/

/-- The fault of a way that leads over a link. -/
def linkFault (target : String) : Zip.Fault :=
  match Zip.stepsOf? target with
  | some _ => .invalid "Invalid base path"
  | none => .invalid "Invalid symlink target path"

/-- Make the directories on the way to a member; the last name is left alone. No way may lead over
a link. -/
def prepare (at_ : String) : List String → World → Except Zip.Fault String × World
  | [], w => (.ok at_, w)
  | name :: rest, w =>
    let path := Path.join at_ name
    match w.files.statSelf w.cwd path with
    | .ok (.link target) => (.error (linkFault target), w)
    | .ok _ => prepare path rest w
    | .error .noEntry =>
      if rest.isEmpty then (.ok path, w)
      else
        match w.updateFiles (w.files.makeDirectories w.cwd path) with
        | .ok w => prepare path rest w
        | .error _ => (.error .inputOutput, w)
    | .error _ => (.error .inputOutput, w)

def allow (w : World) (path : String) (m : Zip.Member) : World :=
  match m.mode, w.files.resolve w.cwd path with
  | some mode, .ok place =>
    match w.files.node? place with
    | some (.file data _) =>
      let executable := mode.testBit 0 || mode.testBit 3 || mode.testBit 6
      { w with files := w.files.set place (.file data executable) }
    | _ => w
  | _, _ => w

/-- Write a member to its path; its data begin at a place. -/
def place (data : Array UInt8) (start : Nat) (m : Zip.Member) (path : String) (w : World) :
    Except Zip.Fault Unit × World :=
  let (content, whole) := m.content data start
  let changed (r : Except OsError FileSystem) : Except Zip.Fault Unit × World :=
    match w.updateFiles r with
    | .ok w => (.ok (), w)
    | .error _ => (.error .inputOutput, w)
  if m.isLink then
    if whole then
      match Text.Utf8.decode? content.toList with
      | none => (.error (.invalid "Invalid UTF-8 as symlink target"), w)
      | some target => changed (w.files.makeLink w.cwd target path)
    else (.error .inputOutput, w)
  else if m.isDirectory then changed (w.files.makeDirectories w.cwd path)
  else
    match w.storeFile path content.toList with
    | .error _ => (.error .inputOutput, w)
    | .ok w => if whole then (.ok (), allow w path m) else (.error .inputOutput, w)

def unpackMember (data : Array UInt8) (base : String) (m : Zip.Member) (w : World) :
    Except Zip.Fault Unit × World :=
  match m.start data, m.steps? with
  | .error e, _ => (.error e, w)
  | .ok _, none => (.error (.invalid "Invalid file path"), w)
  | .ok start, some steps =>
    match prepare base steps w with
    | (.error e, w) => (.error e, w)
    | (.ok path, w) => place data start m path w

/-- Unpack members up to the first that fails. -/
def unpackMembers (data : Array UInt8) (base : String) : List Zip.Member → World →
    Except Zip.Fault Unit × World
  | [], w => (.ok (), w)
  | m :: ms, w =>
    match unpackMember data base m w with
    | (.error e, w) => (.error e, w)
    | (.ok _, w) => unpackMembers data base ms w

/-- Unpack a bundle, and give the directory. -/
def unpack (path : String) (w : World) : Except Failure String × World :=
  match w.contentOf path with
  | .error e => (.error (Failure.command s!"Failed to open bundle {path}: {e.message}"), w)
  | .ok data =>
    let data := data.toArray
    match Zip.members data with
    | .error e => (.error (Failure.command ("Invalid zip bundle: " ++ e.message)), w)
    | .ok members =>
      let (id, w) := w.drawIdentifier
      let base := directory w path id
      match w.updateFiles (w.files.makeDirectories w.cwd base) with
      | .error e => (.error (Failure.ofOsError e), w)
      | .ok w =>
        match unpackMembers data base members w with
        | (.error e, w) => (.error (Failure.command ("Failed to extract bundle: " ++ e.message)), w)
        | (.ok _, w) => (.ok base, w)

/-! ### The entry -/

/-- A text without any leading `./`. -/
def dropHere : List Char → List Char
  | '.' :: '/' :: cs => dropHere cs
  | cs => cs

/-- The entry that a marker names, in a bundle unpacked into `base`. -/
def entryOf (base : String) (text : String) : Except Failure ScriptEntry :=
  let entry := dropHere (Text.trim text).toList
  let first := entry.takeWhile (· != '/')
  let rest := (entry.dropWhile (· != '/')).drop 1
  if entry.isEmpty then .error (Failure.command (marker ++ " is empty"))
  else if first.isEmpty || rest.isEmpty then .ok ⟨some base, String.ofList entry⟩
  else .ok ⟨some (Path.join base (String.ofList first)), String.ofList rest⟩

/-- The entry of a bundle unpacked into `base`. -/
def readEntry (base : String) (w : World) : Except Failure ScriptEntry :=
  let missing (reason : String) :=
    Except.error (Failure.command s!"Bundle is missing {marker}: {reason}")
  match w.contentOf (Path.join base marker) with
  | .error e => missing e.message
  | .ok data =>
    match Text.Utf8.decode? data with
    | none => missing "stream did not contain valid UTF-8"
    | some text => entryOf base text

def resolve (path : String) (w : World) : Except Failure ScriptEntry × World :=
  if isBundle w path then
    match unpack path w with
    | (.error f, w) => (.error f, w)
    | (.ok base, w) => (readEntry base w, w)
  else (.ok ⟨none, path⟩, w)

end CommandAgent.Bundle
