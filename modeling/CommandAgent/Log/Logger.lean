import CommandAgent.Host.World
import CommandAgent.Json.Printer
import CommandAgent.Log.Level

/-!
# Loggers

A logger has a context, which stands in each of its lines, and a level. Its children share its
journal, that is the counters and the file; a child starts with the level of its parent, and the
level of one logger can be changed without changing any other.

A line is the time stamp, the level, the context, the message and, unless it is null, the metadata
as compact JSON. As long as no file is attached, lines go to standard error.
-/

namespace CommandAgent

/-- A logger: what its lines are tagged with, and which of them are written. -/
structure Logger where
  context : String
  level : Level
deriving DecidableEq, Repr

structure Entry where
  level : Level
  message : String
  metadata : Json := .null
deriving Repr

namespace Counts

def bump (c : Counts) : Level → Counts
  | .error => { c with error := c.error + 1 }
  | .warn => { c with warn := c.warn + 1 }
  | .info => { c with info := c.info + 1 }
  | .debug => { c with debug := c.debug + 1 }

def get (c : Counts) : Level → Nat
  | .error => c.error
  | .warn => c.warn
  | .info => c.info
  | .debug => c.debug

theorem get_bump (c : Counts) (l m : Level) :
    (c.bump l).get m = c.get m + if l = m then 1 else 0 := by
  cases l <;> cases m <;> simp [bump, get]

end Counts

namespace Logger

/-- A logger whose level comes from the environment. -/
def root (context : String) (env : Environment) : Logger :=
  ⟨context, Level.ofWord ((env.get? "LOG_LEVEL").getD "info")⟩

def child (l : Logger) (suffix : String) : Logger :=
  if suffix.isEmpty then l else { l with context := l.context ++ ":" ++ suffix }

def setLevel (level : Level) (l : Logger) : Logger := { l with level := level }

def line (l : Logger) (stamp : String) (e : Entry) : String :=
  let metadata := if e.metadata.isNull then "" else " " ++ e.metadata.render
  "[" ++ stamp ++ "] " ++ e.level.label ++ " [" ++ l.context ++ "] " ++ e.message ++ metadata

def record (text : String) : Bytes := Text.Utf8.encode (text ++ "\n")

/-- Write a line to the file of the journal, or to standard error where there is none. -/
def emit (w : World) (text : String) : World :=
  match w.journal.sink with
  | none => { w with stderr := w.stderr ++ [text] }
  | some place =>
    let files :=
      match w.files.node? place with
      | some (.file data x) => w.files.set place (.file (data ++ record text) x)
      | _ => w.files
    let stderr := if w.journal.echo then w.stderr ++ [text] else w.stderr
    { w with files := files, stderr := stderr }

/-- Log an entry, if the logger's level allows it. -/
def log (l : Logger) (e : Entry) (w : World) : World :=
  if l.level.allows e.level then
    let w := { w with journal := { w.journal with counts := w.journal.counts.bump e.level } }
    emit w (l.line w.stamp e)
  else w

/-- Open a file for lines at its end: its place, and the file system with the file. -/
def openSink (files : FileSystem) (cwd : Place) (path : String) :
    Except OsError (Place × FileSystem) := do
  let place ← files.resolveNew cwd path
  return (place, ← files.append cwd path [])

/-- Attach a file to the journal; all loggers that share it write to that file from now on. The
directories above the file are made first, and stay if the file cannot be opened. -/
def redirect (path : String) (echo : Bool) (w : World) : Except OsError Place × World :=
  match w.files.makeParents w.cwd path with
  | .error e => (.error e, w)
  | .ok above =>
    match openSink above w.cwd path with
    | .error e => (.error e, { w with files := above })
    | .ok (place, files) =>
      (.ok place,
        { w with files := files, journal := { w.journal with sink := some place, echo := echo } })

/-- Attach a file to the journal, or leave everything as it is. -/
def attach (path : String) (echo : Bool) (w : World) : Except OsError World :=
  match redirect path echo w with
  | (.error e, _) => .error e
  | (.ok _, w) => .ok w

/-- The counters with the logger's level and context. -/
def stats (l : Logger) (w : World) : Json :=
  let c := w.journal.counts
  .ofMembers
    [("level", .string l.level.name), ("context", .string l.context), ("error", .nat c.error),
      ("warn", .nat c.warn), ("info", .nat c.info), ("debug", .nat c.debug)]

end Logger
end CommandAgent
