import CommandAgent.Host.Path
import CommandAgent.Text.Utf8

/-!
# The file system

A file system maps absolute places, as lists of names, to nodes; the root is always a directory. A
path is walked from the root or from the working directory, name by name, and links on the way are
followed (`walk`); whether a link at its end is followed too depends on the operation. Each failure
is one of a few system errors (`OsError`), which carry the number and the words that end up
in messages.

The operations are those the agent and the programs it starts need: `stat`, `read`, `write`,
`append`, `makeDirectories`, `makeLink`, `remove` and `list`.
-/

namespace CommandAgent

inductive OsError where
  | noEntry
  | inputOutput
  | badFormat
  | permission
  | occupied
  | notDirectory
  | isDirectory
  | invalidArgument
  | nameTooLong
  | tooManyLinks
  | networkUnreachable
  | refused
  /-- A name with a NUL inside never reaches the system. -/
  | nulInPath
  | nulInArgument
deriving DecidableEq, Repr

namespace OsError

def number? : OsError → Option Nat
  | noEntry => some 2
  | inputOutput => some 5
  | badFormat => some 8
  | permission => some 13
  | occupied => some 17
  | notDirectory => some 20
  | isDirectory => some 21
  | invalidArgument => some 22
  | nameTooLong => some 36
  | tooManyLinks => some 40
  | networkUnreachable => some 101
  | refused => some 111
  | nulInPath | nulInArgument => none

def reason : OsError → String
  | noEntry => "No such file or directory"
  | inputOutput => "Input/output error"
  | badFormat => "Exec format error"
  | permission => "Permission denied"
  | occupied => "File exists"
  | notDirectory => "Not a directory"
  | isDirectory => "Is a directory"
  | invalidArgument => "Invalid argument"
  | nameTooLong => "File name too long"
  | tooManyLinks => "Too many levels of symbolic links"
  | networkUnreachable => "Network is unreachable"
  | refused => "Connection refused"
  | nulInPath => "file name contained an unexpected NUL byte"
  | nulInArgument => "nul byte found in provided data"

def message (e : OsError) : String :=
  match e.number? with
  | some n => s!"{e.reason} (os error {n})"
  | none => e.reason

end OsError

inductive Node where
  | file (data : Bytes) (executable : Bool)
  | directory
  /-- Another path, which is followed. -/
  | link (target : String)
  /-- A device: never a regular file, and empty when read. -/
  | device
  /-- A regular file that cannot be read. -/
  | unreadable
  /-- A program of the system, known by its name. -/
  | program (name : String)
deriving DecidableEq, Repr

namespace Node

/-- Whether a node counts as a regular file. -/
def isFile : Node → Bool
  | .file .. | .unreadable | .program _ => true
  | .directory | .link _ | .device => false

def isExecutable : Node → Bool
  | .file _ x => x
  | .program _ => true
  | _ => false

end Node

/-- A place: the names on the way from the root. -/
abbrev Place := List String

/-- The nodes below the root. -/
structure FileSystem where
  nodes : List (Place × Node)
deriving Repr

namespace FileSystem

def node? (fs : FileSystem) (p : Place) : Option Node :=
  if p = [] then some .directory else (fs.nodes.find? (·.1 = p)).map (·.2)

/-- Put a node at a place, in place of what was there. -/
def set (fs : FileSystem) (p : Place) (n : Node) : FileSystem :=
  if fs.nodes.any (·.1 = p) then ⟨fs.nodes.map fun e => if e.1 = p then (p, n) else e⟩
  else ⟨fs.nodes ++ [(p, n)]⟩

def drop (fs : FileSystem) (p : Place) : FileSystem := ⟨fs.nodes.filter (·.1 ≠ p)⟩

/-! ### Walking -/

/-- Longer names and paths are refused. -/
def maxName : Nat := 255

/-- Longer paths are refused. -/
def maxPath : Nat := 4095

/-- More links are not followed on one way. -/
def maxLinks : Nat := 40

/-- The checks on the text of a path before it is walked. -/
def checkPath (path : String) : Except OsError Unit :=
  if path.toList.contains '\x00' then .error .nulInPath
  else if path.isEmpty then .error .noEntry
  else if Text.Utf8.size path > maxPath then .error .nameTooLong
  else .ok ()

def origin (cwd : Place) (path : String) : Place := if Path.isAbsolute path then [] else cwd

/-- How far names lead before a link has to be followed. -/
inductive Stage where
  | arrived (place : Place)
  /-- At a link in a directory, with names behind it. -/
  | turned (directory : Place) (target : String) (rest : List String)

/-- Follow names up to the next link; a link at the end is one only if it is to be followed. Every
place passed through must be a directory. -/
def stage (fs : FileSystem) (follows : Bool) : Place → List String → Except OsError Stage
  | at_, [] => .ok (.arrived at_)
  | at_, name :: rest =>
    match fs.node? at_ with
    | some .directory =>
      if name = "." then stage fs follows at_ rest
      else if name = ".." then stage fs follows at_.dropLast rest
      else if Text.Utf8.size name > maxName then .error .nameTooLong
      else
        match fs.node? (at_ ++ [name]) with
        | some (.link target) =>
          if rest.isEmpty && !follows then .ok (.arrived (at_ ++ [name]))
          else .ok (.turned at_ target rest)
        | some _ => stage fs follows (at_ ++ [name]) rest
        | none => .error .noEntry
    | some _ => .error .notDirectory
    | none => .error .noEntry

/-- Follow names from a place, over at most so many links. -/
def walkFrom (fs : FileSystem) (follows : Bool) :
    (links : Nat) → Place → List String → Except OsError Place
  | links, at_, names =>
    match fs.stage follows at_ names with
    | .error e => .error e
    | .ok (.arrived place) => .ok place
    | .ok (.turned directory target rest) =>
      match links with
      | 0 => .error .tooManyLinks
      | n + 1 => walkFrom fs follows n (origin directory target) (Path.way target ++ rest)

def walk (fs : FileSystem) (follows : Bool) (at_ : Place) (names : List String) :
    Except OsError Place :=
  fs.walkFrom follows maxLinks at_ names

/-- The place a path leads to, which must exist. -/
def resolve (fs : FileSystem) (cwd : Place) (path : String) : Except OsError Place := do
  checkPath path
  fs.walk true (origin cwd path) (Path.way path)

/-- The place of what a path names, which must exist and may be a link. -/
def resolveSelf (fs : FileSystem) (cwd : Place) (path : String) : Except OsError Place := do
  checkPath path
  fs.walk false (origin cwd path) (Path.way path)

/-- The node at a place that was resolved. -/
def nodeAt (fs : FileSystem) (place : Except OsError Place) : Except OsError Node := do
  match fs.node? (← place) with
  | some n => return n
  | none => throw .noEntry

def stat (fs : FileSystem) (cwd : Place) (path : String) : Except OsError Node :=
  fs.nodeAt (fs.resolve cwd path)

/-- The node a path names, which may be a link. -/
def statSelf (fs : FileSystem) (cwd : Place) (path : String) : Except OsError Node :=
  fs.nodeAt (fs.resolveSelf cwd path)

/-- The place of a name in the directory that the names before it lead to; they come last
name first. -/
def entryAt (fs : FileSystem) (at_ : Place) : List String → Except OsError Place
  | [] => .ok at_
  | last :: before => do
    let directory ← fs.walk true at_ before.reverse
    if fs.node? directory ≠ some .directory then throw .notDirectory
    if last = "." then return directory
    else if last = ".." then return directory.dropLast
    else if Text.Utf8.size last > maxName then throw .nameTooLong
    else return directory ++ [last]

/-- The place of what a path names: its directory exists, it itself need not. -/
def entry (fs : FileSystem) (cwd : Place) (path : String) : Except OsError Place := do
  checkPath path
  fs.entryAt (origin cwd path) (Path.names path).reverse

/-- The place at which a path would create a file, over at most so many links at its end. -/
def newFileFrom (fs : FileSystem) : (links : Nat) → (cwd : Place) → (path : String) →
    Except OsError Place
  | links, cwd, path =>
    match fs.entryAt (origin cwd path) (Path.names path).reverse with
    | .error e => .error e
    | .ok place =>
      match fs.node? place with
      | some .directory => .ok place
      | some (.link target) =>
        if Path.endsInSlash path then .error .isDirectory
        else
          match links with
          | 0 => .error .tooManyLinks
          | n + 1 => newFileFrom fs n place.dropLast target
      | _ => if Path.endsInSlash path then .error .isDirectory else .ok place

/-- The place at which a path would create a file: its directory exists, it itself need not. -/
def resolveNew (fs : FileSystem) (cwd : Place) (path : String) : Except OsError Place := do
  checkPath path
  fs.newFileFrom maxLinks cwd path

/-! ### Reading and writing -/

def read (fs : FileSystem) (cwd : Place) (path : String) : Except OsError Bytes := do
  match ← fs.stat cwd path with
  | .file data _ => return data
  | .directory => throw .isDirectory
  | .unreadable => throw .inputOutput
  | .link _ | .device | .program _ => return []

/-- Change the content of a file, creating it if the place is free. -/
def edit (fs : FileSystem) (cwd : Place) (path : String) (f : Bytes → Bytes) :
    Except OsError FileSystem := do
  let place ← fs.resolveNew cwd path
  match fs.node? place with
  | some (.file data x) => return fs.set place (.file (f data) x)
  | some .directory => throw .isDirectory
  | some _ => return fs
  | none => return fs.set place (.file (f []) false)

def write (fs : FileSystem) (cwd : Place) (path : String) (data : Bytes) :
    Except OsError FileSystem :=
  fs.edit cwd path fun _ => data

def append (fs : FileSystem) (cwd : Place) (path : String) (data : Bytes) :
    Except OsError FileSystem :=
  fs.edit cwd path (· ++ data)

def remove (fs : FileSystem) (cwd : Place) (path : String) : Except OsError FileSystem := do
  let place ← fs.resolveSelf cwd path
  match fs.node? place with
  | some .directory => throw .isDirectory
  | _ => return fs.drop place

/-! ### Directories -/

/-- Put a node at the place a path names, which must be free. -/
def create (fs : FileSystem) (cwd : Place) (path : String) (n : Node) :
    Except OsError FileSystem := do
  let place ← fs.entry cwd path
  match fs.node? place with
  | some _ => throw .occupied
  | none => return fs.set place n

def makeDirectory (fs : FileSystem) (cwd : Place) (path : String) : Except OsError FileSystem :=
  fs.create cwd path .directory

def makeLink (fs : FileSystem) (cwd : Place) (target path : String) :
    Except OsError FileSystem := do
  checkPath target
  let fs' ← fs.create cwd path (.link target)
  if Path.endsInSlash path then throw .noEntry
  return fs'

def isDirectory (fs : FileSystem) (cwd : Place) (path : String) : Bool :=
  match fs.stat cwd path with
  | .ok .directory => true
  | _ => false

/-- Make a directory and, where they are missing, those above it. One unit of fuel for each step up
to an existing directory. -/
def makeDirectoriesFrom (cwd : Place) : Nat → FileSystem → String → Except OsError FileSystem
  | 0, _, _ => .error .noEntry
  | fuel + 1, fs, path =>
    if path.isEmpty then .ok fs
    else
      match fs.makeDirectory cwd path with
      | .ok fs => .ok fs
      | .error .noEntry =>
        match Path.parent? path with
        | none => .error .noEntry
        | some up => do
          let fs ← makeDirectoriesFrom cwd fuel fs up
          match fs.makeDirectory cwd path with
          | .ok fs => .ok fs
          | .error e => if fs.isDirectory cwd path then .ok fs else .error e
      | .error e => if fs.isDirectory cwd path then .ok fs else .error e

/-- Make a directory and those above it. -/
def makeDirectories (fs : FileSystem) (cwd : Place) (path : String) : Except OsError FileSystem :=
  makeDirectoriesFrom cwd (path.length + 1) fs path

/-- Make the directories above a path; a path without any needs none. -/
def makeParents (fs : FileSystem) (cwd : Place) (path : String) : Except OsError FileSystem :=
  match Path.parent? path with
  | none => .ok fs
  | some up => fs.makeDirectories cwd up

/-- The names in a directory, in ascending order. -/
def list (fs : FileSystem) (directory : Place) : List String :=
  let names := fs.nodes.filterMap fun (p, _) =>
    if p.dropLast = directory ∧ p ≠ [] then p.getLast? else none
  names.mergeSort fun a b => a ≤ b

/-- Everything below a directory, with the place seen from it, in ascending order. -/
def below (fs : FileSystem) (directory : Place) : List (Place × Node) :=
  (fs.nodes.filterMap fun (p, n) =>
    if directory.isPrefixOf p ∧ p ≠ directory then some (p.drop directory.length, n) else none)

end FileSystem

def Place.text (p : Place) : String := "/" ++ "/".intercalate p

end CommandAgent
