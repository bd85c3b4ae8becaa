import CommandAgent.Host.World

/-!
# A machine to run on

The directories and programs that every machine has before the agent starts. Programs are known by
their names; which of them there are is what a search along the path can find.
-/

namespace CommandAgent

namespace FileSystem

/-- The programs of a machine, in each of the directories on the usual path. -/
def systemPrograms : List String :=
  ["sh", "dash", "bash", "basename", "cat", "chmod", "cp", "cut", "date", "dirname", "echo", "env",
    "expr", "false", "grep", "head", "id", "kill", "ls", "mkdir", "mv", "printf", "pwd", "rev",
    "rm", "rmdir", "sed", "seq", "sleep", "sort", "stty", "tail", "tee", "test", "touch", "tr",
    "true", "uname", "uniq", "wc", "whoami", "yes"]

def directoryPath (p : Place) : List (Place × Node) :=
  (List.range p.length).map fun i => (p.take (i + 1), .directory)

/-- The machine before anything has been written. -/
def base : FileSystem :=
  let directories : List Place :=
    [["usr", "bin"], ["bin"], ["tmp"], ["opt"], ["etc"], ["home"], ["root"], ["var", "tmp"],
      ["dev"], ["proc", "self"]]
  let nodes := directories.flatMap directoryPath
    ++ systemPrograms.map (fun n => (["usr", "bin", n], .program n))
    ++ systemPrograms.map (fun n => (["bin", n], .program n))
    ++ [(["dev", "null"], .device), (["dev", "zero"], .device),
      (["proc", "self", "mem"], .unreadable),
      (["etc", "passwd"], .file (Text.Utf8.encode "root:x:0:0:root:/root:/bin/bash\n") false)]
  nodes.foldl (fun fs (p, n) => fs.set p n) ⟨[]⟩

/-- Add a node with the directories above it. -/
def place (fs : FileSystem) (p : Place) (n : Node) : FileSystem :=
  let fs := (directoryPath p.dropLast).foldl
    (fun fs (q, d) => if (fs.node? q).isSome then fs else fs.set q d) fs
  fs.set p n

end FileSystem
end CommandAgent
