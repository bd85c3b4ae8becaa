import CommandAgent.CommandLine
import CommandAgent.Host.Base
import CommandAgent.Shell.Machine
import CommandAgent.Terminal.Basic

/-!
# Standing alone

A host without a network: scripts run on its own shell and at its own terminals, and nothing beyond
it can be reached. What a run may read of the outside is known before it starts, from its arguments
and its environment; what it has changed is known afterwards, from the two file systems.
-/

namespace CommandAgent

/-- The surroundings of an agent on a host without a network. -/
def Surroundings.offline : Surroundings Terminal where
  orchestrator := Http.unreachable OsError.networkUnreachable.message
  mysql := Database.Mysql.offline
  oracle := Database.unreachable "DPI-1047: Cannot locate a 64-bit Oracle Client library"
  console := Terminal.console
  machine := Shell.machine

namespace Standalone

def pathMembers : List String := ["cmd_set_filepath", "cmd_file", "script"]

/-- The paths that a run may read or add to. -/
def paths (args : List String) (env : Environment) : List String :=
  match CommandLine.read args with
  | some (.run encoded _) =>
    match decodeEnvelope encoded with
    | .ok envelope =>
      let named := (pathMembers.map envelope.textOf).filter (!·.isEmpty)
      named.map env.expandHome ++ [env.errorCodePath, env.taskLogPath (envelope.textOf "task_id")]
    | .error _ => []
  | _ => []

def place (cwd : Place) (path : String) : Place :=
  FileSystem.origin cwd path ++ Path.steps path

/-- The world of a run: the files that were read, on a machine that has nothing else. -/
def world (cwd : Place) (env : Environment) (files : List (String × Bytes)) : World :=
  let base := (FileSystem.directoryPath cwd).foldl
    (fun fs (q, d) => if (fs.node? q).isSome then fs else fs.set q d) FileSystem.base
  { files := files.foldl (fun fs (path, data) => fs.place (place cwd path) (.file data true)) base
    cwd := cwd
    env := env }

def written (before after : FileSystem) : List (Place × Bytes) :=
  after.nodes.filterMap fun (p, n) =>
    match n with
    | .file data _ => if before.node? p = some n then none else some (p, data)
    | _ => none

/-- The files that a run has removed. -/
def removed (before after : FileSystem) : List Place :=
  (before.nodes.filter fun (p, n) => n.isFile && (after.node? p).isNone).map (·.1)

end Standalone
end CommandAgent
