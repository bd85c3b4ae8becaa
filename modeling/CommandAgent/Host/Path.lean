/-!
# Paths

A path is kept as the text it was given as, because messages and logs show it unchanged; its parts
are found when they are asked for. Repeated slashes and inner `.` segments separate no parts, and a
leading `.` is a part of its own. `join` puts one path under another, unless the second is absolute
and stands for itself; `parent?` drops the last part and leaves the text before it as it was.
-/

namespace CommandAgent.Path

/-- The segments of a text between its slashes; there is one more than slashes. -/
def segments (cs : List Char) : List (List Char) := cs.splitOn '/'

/-- Segments with slashes between them. -/
def joined (segments : List (List Char)) : List Char := ['/'].intercalate segments

/-- Taking a text apart at its slashes loses nothing. -/
theorem joined_segments (cs : List Char) : joined (segments cs) = cs :=
  List.intercalate_splitOn '/'

/-- Whether a path starts at the root. -/
def isAbsolute (p : String) : Bool := p.toList.head? == some '/'

/-- The path `q` seen from `p`: an absolute path stands for itself. -/
def join (p q : String) : String :=
  if isAbsolute q then q
  else if p.isEmpty then q
  else if p.toList.getLast? == some '/' then p ++ q
  else p ++ "/" ++ q

/-- Drop the segments at the end that are no parts; the segments are given from the last to the
first. -/
def dropIdle (absolute : Bool) : List (List Char) → List (List Char)
  | [] => []
  | [s] => if s = [] ∨ (s = ['.'] ∧ absolute) then [] else [s]
  | s :: rest => if s = [] ∨ s = ['.'] then dropIdle absolute rest else s :: rest

/-- The segments behind the root, from the last to the first, ending in a part. -/
def segmentsBack (p : String) : List (List Char) :=
  let cs := p.toList
  let absolute := isAbsolute p
  dropIdle absolute (segments (if absolute then cs.drop 1 else cs)).reverse

/-- The path without its last part. -/
def parent? (p : String) : Option String :=
  match segmentsBack p with
  | [] => none
  | _ :: rest =>
    let absolute := isAbsolute p
    let body := joined (dropIdle absolute rest).reverse
    some (String.ofList (if absolute then '/' :: body else body))

/-- The last part, if it names something. -/
def name? (p : String) : Option String :=
  match segmentsBack p with
  | [] => none
  | s :: _ => if s = ['.'] ∨ s = ['.', '.'] then none else some (String.ofList s)

/-- The last part without its last extension; a leading dot starts no extension. -/
def stem? (p : String) : Option String :=
  (name? p).map fun name =>
    let back := name.toList.reverse
    let stem := ((back.dropWhile (· != '.')).drop 1).reverse
    if stem.isEmpty then name else String.ofList stem

/-- The names on a path, with the segments `.` among them. -/
def names (p : String) : List String :=
  ((segments p.toList).filter (· ≠ [])).map String.ofList

/-- The parts of a path without the segments `.`. -/
def steps (p : String) : List String := (names p).filter (· ≠ ".")

def endsInSlash (p : String) : Bool := p.toList.getLast? == some '/'

/-- The names to follow on a path. A slash at the end asks for a directory, as a `.` does. -/
def way (p : String) : List String := names p ++ if endsInSlash p then ["."] else []

end CommandAgent.Path
