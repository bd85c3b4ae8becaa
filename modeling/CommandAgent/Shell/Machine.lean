import CommandAgent.Host.Machine
import CommandAgent.Shell.Evaluate

/-!
# A machine with a shell

A machine whose programs are scripts and the usual utilities. A program is looked up as the system
does it: a path as it stands, any other name along the search path; a script is run by the
interpreter that its first line names.
-/

namespace CommandAgent.Shell

/-- What a script may spend before it counts as one that never ends. -/
def fuel : Nat := 20000

/-- The program that stands at a path, and its interpreter if it is a script. -/
def executable (w : World) (path : String) : Except OsError Node := do
  let node ← w.files.stat w.cwd path
  unless node.isExecutable do throw .permission
  match node with
  | .file data _ =>
    match interpreter? data with
    | none => throw .badFormat
    | some (interpreter, _) =>
      let node' ← w.files.stat w.cwd interpreter
      unless node'.isExecutable do throw .permission
      return node
  | _ => return node

/-- Look a name up in directories; a refusal other than a missing file is remembered. -/
def search (w : World) (name : String) : List String → (refusal : OsError) →
    Except OsError (String × Node)
  | [], refusal => .error refusal
  | d :: rest, refusal =>
    let path := Path.join (if d.isEmpty then "." else d) name
    match executable w path with
    | .ok node => .ok (path, node)
    | .error .noEntry | .error .notDirectory => search w name rest refusal
    | .error .permission => search w name rest .permission
    | .error e => .error e

/-- The program that a name stands for. -/
def locate (w : World) (name : String) : Except OsError (String × Node) :=
  if name.isEmpty then .error .noEntry
  else if name.toList.contains '/' then (executable w name).map fun n => (name, n)
  else search w name (((w.env.get? "PATH").getD "/bin:/usr/bin").splitOn ":") .noEntry

/-- The process of a program before it begins. -/
def Process.begin (l : Launch) (w : World) : Process :=
  let env := l.settings.foldl (fun (e : Environment) (n, v) => e.set n v) w.env
  let env := env.set "PWD" w.cwd.text
  { world := w, values := env.map fun (n, v) => (n, Text.Utf8.encode v)
    exported := env.map (·.1), zero := l.program, identity := w.process + 1
    started := w.process + 1, clock := w.clock }

/-- Whether a text could not be handed to the system. -/
def holdsNul (s : String) : Bool := s.toList.contains '\x00'

/-- Get a program ready to run: the process and what it runs. -/
def prepare (l : Launch) (w : World) : Except OsError (Process × String × Node) := do
  let texts := l.program :: l.arguments ++ l.directory.toList
    ++ l.settings.flatMap fun (n, v) => [n, v]
  if texts.any holdsNul then throw .nulInArgument
  let cwd ← match l.directory with
    | none => pure w.cwd
    | some d =>
      let place ← w.files.resolve w.cwd d
      unless w.files.node? place = some .directory do throw .notDirectory
      pure place
  let p := Process.begin l { w with cwd := cwd }
  let (path, node) ← locate { p.world with env := searchEnv l w } l.program
  return (p, path, node)
where
  /-- The environment that the lookup uses. -/
  searchEnv (l : Launch) (w : World) : Environment :=
    l.settings.foldl (fun (e : Environment) (n, v) => e.set n v) w.env

def Process.ended (p : Process) : Ended :=
  match p.stop with
  | some (.killed _ n) => .killed n
  | some (.left _) | none => .exited (p.status % 256)
  | some .waiting => .killed 9

def run (l : Launch) (sink : Place) (w : World) : Except LaunchFault Ended × World :=
  match prepare l w with
  | .error e => (.error (.spawn e), w)
  | .ok (p, path, node) =>
    let p := runNode fuel path l.program node (l.arguments.map Text.Utf8.encode) p
    let files :=
      match p.world.files.node? sink with
      | some (.file data x) => p.world.files.set sink (.file (data ++ p.output) x)
      | _ => p.world.files
    (.ok p.ended, { w with files := files })

def machine : Machine where
  duplicate _ := .ok ()
  run := run

end CommandAgent.Shell
