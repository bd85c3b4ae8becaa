import CommandAgent.Host.World

/-!
# Finding programs

A name with a directory in it names a program itself; any other name is looked for in the
directories of the search path, and the first executable file counts.
-/

namespace CommandAgent

namespace World

/-- Whether a path names a file that can be executed. -/
def isProgram (w : World) (path : String) : Bool :=
  match w.files.stat w.cwd path with
  | .ok n => n.isFile && n.isExecutable
  | .error _ => false

/-- Whether a path has more than one part: the root, the names, and a dot in front. -/
def hasDirectory (path : String) : Bool :=
  let names := (Path.steps path).length
  let front := if Path.isAbsolute path ∨ (path.splitOn "/").head? = some "." then 1 else 0
  names + front > 1

def searchPath (w : World) : List String := ((w.env.get? "PATH").getD "").splitOn ":"

/-- The program that a name stands for. -/
def findProgram? (w : World) (name : String) : Option String :=
  let candidates :=
    if hasDirectory name then [Path.join w.cwd.text name]
    else w.searchPath.map fun d => Path.join d name
  candidates.find? w.isProgram

end World
end CommandAgent
