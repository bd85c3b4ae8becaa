import CommandAgent.Host.Environment
import CommandAgent.Host.FileSystem

/-!
# The world of a run

What the agent finds and leaves behind, apart from its backend and the orchestrator: the file
system, the environment, what has been written to standard error, and the state of the log. Time
enters only as the text of a time stamp and as a number of milliseconds; identifiers that must
differ from all others are counted.
-/

namespace CommandAgent

/-- How many lines of each level have been logged. The counts have no bound: a word of 64 bits would
do, since a line in every nanosecond fills it only after more than five hundred years. -/
structure Counts where
  error : Nat := 0
  warn : Nat := 0
  info : Nat := 0
  debug : Nat := 0
deriving DecidableEq, Repr

/-- The part of the log that all loggers of a tree share. -/
structure Journal where
  counts : Counts := {}
  /-- The file that lines are written to. -/
  sink : Option Place := none
  /-- Whether lines go to standard error besides the file. -/
  echo : Bool := false
deriving Repr

/-- What the agent finds and leaves behind. -/
structure World where
  files : FileSystem
  cwd : Place
  env : Environment
  journal : Journal := {}
  /-- Lines on standard error. -/
  stderr : List String := []
  /-- The text of a time stamp. -/
  stamp : String := ""
  /-- The same time in seconds since the beginning of 1970. -/
  seconds : Nat := 0
  /-- How long an operation takes, in milliseconds. -/
  elapsed : Nat := 0
  /-- The time since the start, in milliseconds. -/
  clock : Nat := 0
  /-- The number of the agent's own process. -/
  process : Nat := 1
  /-- How many identifiers have been drawn. -/
  drawn : Nat := 0
deriving Repr

namespace World

/-- A number in hexadecimal with 32 digits. -/
def identifierText (n : Nat) : String :=
  let digits := Nat.toDigits 16 n
  String.ofList (List.replicate (32 - digits.length) '0' ++ digits)

/-- Draw an identifier that has not been drawn before. -/
def drawIdentifier (w : World) : String × World :=
  (identifierText w.drawn, { w with drawn := w.drawn + 1 })

/-- Change the file system, if that succeeds. -/
def updateFiles (w : World) (r : Except OsError FileSystem) : Except OsError World :=
  r.map fun fs => { w with files := fs }

def contentOf (w : World) (path : String) : Except OsError Bytes := w.files.read w.cwd path

def storeFile (w : World) (path : String) (data : Bytes) : Except OsError World :=
  w.updateFiles (w.files.write w.cwd path data)

/-- Remove a file; a file that cannot be removed stays. -/
def discardFile (w : World) (path : String) : World :=
  match w.files.remove w.cwd path with
  | .ok fs => { w with files := fs }
  | .error _ => w

/-- A path with the home directory in place of a leading tilde. -/
def expandHome (w : World) (path : String) : String := w.env.expandHome path

end World
end CommandAgent
