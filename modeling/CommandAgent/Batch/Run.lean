import CommandAgent.Batch.Invocation

/-!
# Running an invocation

The output of a program is captured in one file, so that what it writes to its two outputs stays in
order. The file is made in a directory of the agent's own and removed after the run, and so is the
temporary file of the invocation.
-/

namespace CommandAgent

structure Captured where
  exitCode : Int
  output : String
deriving DecidableEq, Repr

namespace Invocation

def captureDirectory (w : World) : String :=
  Path.join w.env.temporaryDirectory s!"behemoth-local-{w.process}"

/-- Run the program with its output going to a file, and read the file. -/
def capture (m : Machine) (i : Invocation) (path : String) (w : World) :
    Except Failure Captured × World :=
  match w.files.resolveNew w.cwd path with
  | .error e => (.error (Failure.ofOsError e), w)
  | .ok place =>
    match m.run i.launch place w with
    | (.error (.spawn e), w) =>
      (.error (Failure.command s!"Failed to spawn {i.launch.program}: {e.message}"), w)
    | (.error (.wait e), w) =>
      (.error (Failure.command s!"Failed to wait for {i.launch.program}: {e.message}"), w)
    | (.ok ended, w) =>
      match w.contentOf path with
      | .error e => (.error (Failure.ofOsError e), w)
      | .ok data => (.ok ⟨ended.code, Text.Utf8.decodeLossy data⟩, w)

def run (m : Machine) (i : Invocation) (w : World) : Except Failure Captured × World :=
  let directory := captureDirectory w
  match w.updateFiles (w.files.makeDirectories w.cwd directory) with
  | .error e => (.error (Failure.ofOsError e), w)
  | .ok w =>
    let (id, w) := w.drawIdentifier
    let path := Path.join directory s!"output-{id}.log"
    match w.storeFile path [] with
    | .error e => (.error (Failure.ofOsError e), w)
    | .ok w =>
      match m.duplicate w with
      | .error e => (.error (Failure.ofOsError e), w)
      | .ok _ =>
        let (r, w) := capture m i path w
        let w := w.discardFile path
        match i.scratch with
        | some scratch => (r, w.discardFile scratch)
        | none => (r, w)

end Invocation
end CommandAgent
