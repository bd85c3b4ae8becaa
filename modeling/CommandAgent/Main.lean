import CommandAgent.Log.Stamp
import CommandAgent.Standalone

/-!
# The program

Reads what a run needs, runs it, and writes down what it has changed.
-/

namespace CommandAgent.Program

/-- The variables that a run looks at. -/
def watched : List String :=
  ["HOME", "PATH", "TMPDIR", "LOG_LEVEL", "BEHEMOTH_ERROR_CODE_PATH", "BEHEMOTH_LOG_DIR",
    "BEHEMOTH_LOG_STDERR", "BEHEMOTH_HEALTH_RETRY_DELAY_MS"]

def usage : String :=
  "Runs an approved command set and reports back

Usage: behemoth_cli [OPTIONS] --command <COMMAND>

Options:
      --command <COMMAND>  Base64-encoded JSON task envelope
      --with-env           Re-run with the task's environment overlay applied
  -h, --help               Print help"

/-- The environment, as far as a run looks at it. -/
def environment : IO Environment := do
  watched.filterMapM fun name => do
    return (← IO.getEnv name).map fun value => (name, value)

def contents (paths : List String) : IO (List (String × Bytes)) :=
  paths.filterMapM fun (path : String) => do
    try
      let data ← IO.FS.readBinFile path
      return some (path, data.toList)
    catch _ => return none

/-- The time, which the file system puts on a file that is written now. -/
def now : IO IO.FS.SystemTime := do
  let (_, path) ← IO.FS.createTempFile
  let time := (← path.metadata).modified
  IO.FS.removeFile path
  return time

/-- Write down the changes of a run. -/
def keep (before after : FileSystem) : IO Unit := do
  for (place, data) in Standalone.written before after do
    IO.FS.createDirAll (Place.text place.dropLast)
    IO.FS.writeBinFile place.text ⟨data.toArray⟩
  for place in Standalone.removed before after do
    IO.FS.removeFile place.text

def run (args : List String) : IO UInt32 := do
  let env ← environment
  let time ← now
  let cwd := Path.steps (← IO.currentDir).toString
  let seconds := time.sec.toNat
  let w :=
    { Standalone.world cwd env (← contents (Standalone.paths args env)) with
      stamp := Stamp.text seconds time.nsec.toNat
      seconds := seconds }
  let (code, after) := CommandLine.execute Surroundings.offline args w
  keep w.files after.files
  for line in after.stderr do
    IO.eprintln line
  match CommandLine.read args with
  | none => IO.eprintln usage
  | some .help => IO.println usage
  | some (.run ..) => pure ()
  return UInt32.ofNat code

end CommandAgent.Program

def main (args : List String) : IO UInt32 := CommandAgent.Program.run args
