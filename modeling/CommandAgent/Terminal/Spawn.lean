import CommandAgent.Shell.Machine
import CommandAgent.Text.Quote

/-!
# Starting a program on a terminal

Before a program is started on a terminal it is looked for, and what stands in the way is told in
full: for a name that is to be found along the search path every candidate that was no program.
-/

namespace CommandAgent.Terminal

/-- Whether a path is meant from the working directory: it starts with one or two dots. -/
def isHereRelative (path : String) : Bool :=
  match (Path.segments path.toList).find? (· ≠ []) with
  | some s => s = ['.'] || s = ['.', '.']
  | none => false

def node? (w : World) (path : String) : Option Node := (w.files.stat w.cwd path).toOption

def named (e : OsError) : String :=
  let name := match e with
    | .noEntry => "ENOENT"
    | .permission => "EACCES"
    | .notDirectory => "ENOTDIR"
    | .nameTooLong => "ENAMETOOLONG"
    | .nulInPath => "EINVAL"
    | _ => "EIO"
  let words := match e with
    | .nulInPath => "Invalid argument"
    | e => e.reason
  name ++ ": " ++ words

/-- Look a name up along the search path; what was wrong with the candidates is collected. -/
def alongPath (w : World) (name path : String) : List String → (wrong : List String) →
    Except (List String) String
  | [], wrong =>
    .error (wrong ++ [s!"No viable candidates found in PATH {Text.quote path}"])
  | d :: rest, wrong =>
    let candidate := Path.join (Path.join w.cwd.text d) name
    match node? w candidate with
    | some .directory =>
      alongPath w name path rest (wrong ++ [candidate ++ " exists but is a directory"])
    | some n =>
      if n.isExecutable then .ok candidate
      else alongPath w name path rest (wrong ++ [candidate ++ " exists but is not executable"])
    | none => alongPath w name path rest wrong

def findProgram (w : World) (program : String) : Except String String :=
  let refuse (path reason : String) := Except.error s!"Unable to spawn {path} because {reason}"
  if Path.isAbsolute program then
    match w.files.stat w.cwd program with
    | .ok .directory => refuse program "it is a directory"
    | .ok n =>
      if n.isExecutable then .ok program
      else refuse program ("it is not executable (" ++ named .permission ++ ")")
    | .error e => refuse program ("it doesn't exist on the filesystem (" ++ named e ++ ")")
  else if isHereRelative program then
    let path := Path.join w.cwd.text program
    match node? w path with
    | some .directory => refuse path "it is a directory"
    | some n => if n.isExecutable then .ok path else refuse path "it is not executable"
    | none => refuse path "it does not exist"
  else
    let found : Except (List String) String :=
      match w.env.get? "PATH" with
      | none => .error ["Unable to resolve the PATH"]
      | some path => alongPath w program path (path.splitOn ":") []
    found.mapError fun wrong =>
      "Unable to spawn " ++ program ++ " because:\n" ++ ".\n".intercalate wrong

/-- A program ready to run on a terminal of a size. -/
structure Started where
  process : Shell.Process
  path : String
  name : String
  node : Node
  arguments : List String

/-- Get a program ready to run, or say why it cannot be started. -/
def start (program : String) (arguments : List String) (w : World) : Except String Started := do
  let path ← findProgram w program
  if (program :: arguments).any Shell.holdsNul then throw OsError.nulInArgument.message
  match executable w path with
  | .error e => throw e.message
  | .ok node =>
    let p := Shell.Process.begin { program := program, arguments := arguments } w
    return ⟨p, path, program, node, arguments⟩
where
  /-- A file that is in no format of a program is taken for a script of the shell. -/
  executable (w : World) (path : String) : Except OsError Node :=
    match Shell.executable w path with
    | .error .badFormat => w.files.stat w.cwd path
    | r => r

/-- The program after it has run as far as the lines typed so far allow. -/
def Started.run (s : Started) (typed : List Shell.Typed) (sizes : List Shell.Sized) :
    Shell.Process :=
  Shell.runNode Shell.fuel s.path s.name s.node (s.arguments.map Text.Utf8.encode)
    { s.process with source := .terminal, typed := typed, sizes := sizes }

end CommandAgent.Terminal
