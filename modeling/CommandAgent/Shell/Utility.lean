import CommandAgent.Shell.Condition
import CommandAgent.Shell.Filter
import CommandAgent.Shell.Process

/-!
# Utilities

The programs that scripts call by name: reading and listing files, changing directories, editing
lines, waiting, and asking the terminal. Each runs to its end and leaves a status.
-/

namespace CommandAgent.Shell.Utility

def failWith (p : Process) (status : Nat) (text : String) : Process :=
  (p.complain (text ++ "\n")).withStatus status

def texts (arguments : List Bytes) : List String := arguments.map Text.Utf8.decodeLossy

def splitFlags (arguments : List String) : List Char × List String :=
  let isFlag (a : String) := a.startsWith "-" && a.length > 1
  ((arguments.filter isFlag).flatMap fun a => a.toList.drop 1, arguments.filter (!isFlag ·))

def lineFuel : Nat := 20000

/-! ### Files -/

def cat (arguments : List String) (p : Process) : Process :=
  if arguments.head? = some "-n" then
    let inner := catPlain (arguments.drop 1) { p with out := .capture, captured := [] }
    let lines := Filter.linesOf inner.captured.reverse.flatten
    let numbered := ((List.range lines.length).zip lines).map fun (i, line) =>
      Text.Utf8.encode (Filter.column 6 (i + 1) ++ "\t") ++ line
    { inner with out := p.out, captured := p.captured }.write (Filter.joined numbered)
  else catPlain arguments p
where
  /-- Write out files as they are. -/
  catPlain (arguments : List String) (p : Process) : Process :=
    if arguments.isEmpty then (Process.copyLines lineFuel p).withStatus 0
    else
      arguments.foldl
        (fun p a =>
          if a = "-" then Process.copyLines lineFuel p
          else
            match p.world.contentOf a with
            | .ok data => p.write data
            | .error e => failWith p 1 s!"cat: {a}: {e.reason}")
        (p.withStatus 0)

/-- The names that a listing shows. -/
def visible (names : List String) : List String := names.filter fun n => !n.startsWith "."

def ls (arguments : List String) (p : Process) : Process :=
  let (flags, paths) := splitFlags arguments
  let shown (names : List String) := if flags.contains 'a' then "." :: ".." :: names
    else if flags.contains 'A' then names else visible names
  let lines (names : List String) := String.join (names.map (· ++ "\n"))
  match (if paths.isEmpty then ["."] else paths) with
  | [path] =>
    match p.world.files.resolve p.world.cwd path with
    | .error e => failWith p 2 s!"ls: cannot access '{path}': {e.reason}"
    | .ok place =>
      if p.world.files.node? place = some .directory then
        (p.say (lines (shown (p.world.files.list place)))).withStatus 0
      else (p.say (path ++ "\n")).withStatus 0
  | paths =>
    paths.foldl
      (fun p path =>
        match p.world.files.resolve p.world.cwd path with
        | .error e => failWith p 2 s!"ls: cannot access '{path}': {e.reason}"
        | .ok place =>
          if p.world.files.node? place = some .directory then
            p.say (path ++ ":\n" ++ lines (shown (p.world.files.list place)))
          else p.say (path ++ "\n"))
      (p.withStatus 0)

def rm (arguments : List String) (p : Process) : Process :=
  let (flags, paths) := splitFlags arguments
  let forced := flags.contains 'f'
  let deep := flags.contains 'r' || flags.contains 'R'
  paths.foldl
    (fun p path =>
      match p.world.files.resolveSelf p.world.cwd path with
      | .error e =>
        if forced && e = .noEntry then p
        else failWith p 1 s!"rm: cannot remove '{path}': {e.reason}"
      | .ok place =>
        if p.world.files.node? place = some .directory then
          if deep then
            let kept := p.world.files.nodes.filter fun (q, _) => !place.isPrefixOf q
            { p with world.files := ⟨kept⟩ }
          else failWith p 1 s!"rm: cannot remove '{path}': Is a directory"
        else { p with world.files := p.world.files.drop place })
    (p.withStatus 0)

def mkdir (arguments : List String) (p : Process) : Process :=
  let (flags, paths) := splitFlags arguments
  paths.foldl
    (fun p path =>
      let made :=
        if flags.contains 'p' then p.world.files.makeDirectories p.world.cwd path
        else p.world.files.makeDirectory p.world.cwd path
      match made with
      | .ok fs => { p with world.files := fs }
      | .error e => failWith p 1 s!"mkdir: cannot create directory '{path}': {e.reason}")
    (p.withStatus 0)

def rmdir (arguments : List String) (p : Process) : Process :=
  arguments.foldl
    (fun p path =>
      match p.world.files.resolveSelf p.world.cwd path with
      | .error e => failWith p 1 s!"rmdir: failed to remove '{path}': {e.reason}"
      | .ok place =>
        if p.world.files.node? place ≠ some .directory then
          failWith p 1 s!"rmdir: failed to remove '{path}': {OsError.notDirectory.reason}"
        else if (p.world.files.list place).isEmpty then
          { p with world.files := p.world.files.drop place }
        else failWith p 1 s!"rmdir: failed to remove '{path}': Directory not empty")
    (p.withStatus 0)

def touch (arguments : List String) (p : Process) : Process :=
  arguments.foldl
    (fun p path =>
      match p.world.files.append p.world.cwd path [] with
      | .ok fs => { p with world.files := fs }
      | .error .isDirectory => p
      | .error e => failWith p 1 s!"touch: cannot touch '{path}': {e.reason}")
    (p.withStatus 0)

/-! ### Texts -/

/-- The last name of a path, without a suffix. -/
def baseName (path suffix : String) : String :=
  let trimmed := Text.trimEndSlashes path
  if trimmed.isEmpty then (if path.isEmpty then "" else "/")
  else
    let name := String.ofList ((trimmed.toList.reverse.takeWhile (· != '/')).reverse)
    if name != suffix && !suffix.isEmpty && name.endsWith suffix then
      String.ofList (name.toList.take (name.length - suffix.length))
    else name

def directoryName (path : String) : String :=
  let trimmed := (Text.trimEndSlashes path).toList.reverse
  let above := (trimmed.dropWhile (· != '/')).dropWhile (· == '/')
  if above.isEmpty then (if path.startsWith "/" then "/" else ".") else String.ofList above.reverse

/-- The lines of the input or of a file, as bytes. -/
def input (paths : List String) (p : Process) : Bytes × Process :=
  match paths with
  | [] =>
    let inner := Process.copyLines lineFuel { p with out := .capture, captured := [] }
    (inner.captured.reverse.flatten, { inner with out := p.out, captured := p.captured })
  | path :: _ =>
    match p.world.contentOf path with
    | .ok data => (data, p)
    | .error e => ([], failWith p 1 s!"{path}: {e.reason}")

/-- The lines of some bytes, each with its end. -/
def lines : (fuel : Nat) → Bytes → List Bytes
  | 0, _ => []
  | _, [] => []
  | fuel + 1, data =>
    match Process.splitLine data with
    | (line, true, rest) => (line ++ [10]) :: lines fuel rest
    | (line, false, _) => [line]

/-- The parts of the stream editor's arguments: whether it is quiet, its script, and the files. -/
def sedArguments : (quiet : Bool) → (script : Option String) → List String →
    Bool × String × List String
  | _, script, "-n" :: rest => sedArguments true script rest
  | quiet, script, "-e" :: s :: rest =>
    sedArguments quiet (some ((script.map (· ++ "\n")).getD "" ++ s)) rest
  | quiet, script, a :: rest =>
    if a.startsWith "-" && a.length > 1 then sedArguments quiet script rest
    else
      match script with
      | some s => (quiet, s, a :: rest)
      | none => (quiet, a, rest)
  | quiet, script, [] => (quiet, script.getD "", [])

def sed (arguments : List Bytes) (p : Process) : Process :=
  let (quiet, script, paths) := sedArguments false none (texts arguments)
  let script := Filter.byteChars (Text.Utf8.encode script)
  match Filter.rules (script.length + 1) script with
  | .error c => failWith p 1 s!"sed: -e expression #1, char 1: unknown command: `{c}'"
  | .ok rules =>
    let (data, p) := input paths (p.withStatus 0)
    let edited := Filter.joined (Filter.edit quiet rules 1 (Filter.linesOf data))
    let whole := data.isEmpty || data.getLast? = some 10
    p.write (if whole then edited else edited.dropLast)

/-- The first or last lines, or bytes. -/
def ends (fromEnd : Bool) (arguments : List String) (p : Process) : Process :=
  let number (a : String) (from_ : Nat) := (String.ofList (a.toList.drop from_)).toNat?.getD 10
  let (byBytes, count, paths) :=
    match arguments with
    | "-n" :: n :: rest => (false, n.toNat?.getD 10, rest)
    | "-c" :: n :: rest => (true, n.toNat?.getD 10, rest)
    | a :: rest =>
      if a.startsWith "-n" then (false, number a 2, rest)
      else if a.startsWith "-c" then (true, number a 2, rest)
      else if a.startsWith "-" then (false, number a 1, rest)
      else (false, 10, a :: rest)
    | [] => (false, 10, [])
  -- The device of zeros never ends.
  let (data, p) := if byBytes && paths = ["/dev/zero"] then (List.replicate count 0, p.withStatus 0)
    else input paths (p.withStatus 0)
  if byBytes then p.write (if fromEnd then data.drop (data.length - count) else data.take count)
  else
    let all := lines (data.length + 1) data
    p.write (if fromEnd then all.drop (all.length - count) else all.take count).flatten

def count (arguments : List String) (p : Process) : Process :=
  let (flags, paths) := splitFlags arguments
  let (data, p) := input paths (p.withStatus 0)
  let flags := if flags.isEmpty then ['l', 'w', 'c'] else flags
  let numbers :=
    (if flags.contains 'l' then [data.count 10] else [])
      ++ (if flags.contains 'w' then [Filter.countWords data] else [])
      ++ (if flags.contains 'c' || flags.contains 'm' then [data.length] else [])
  let width := if numbers.length = 1 then 0
    else if paths.isEmpty then 7 else (toString data.length).length
  let name := match paths with
    | path :: _ => " " ++ path
    | [] => ""
  p.say (" ".intercalate (numbers.map (Filter.column width)) ++ name ++ "\n")

def grep (arguments : List Bytes) (p : Process) : Process :=
  let (flags, words) := splitFlags (texts arguments)
  match words with
  | [] => p.withStatus 2
  | pattern :: paths =>
    let (data, p) := input paths (p.withStatus 0)
    let all := Filter.linesOf data
    let numbered := (List.range all.length).zip all
    let chosen := numbered.filter fun l =>
      Filter.chooses flags (Text.Utf8.encode pattern) l.2
    let shown := chosen.map fun (i, l) =>
      if flags.contains 'n' then Text.Utf8.encode s!"{i + 1}:" ++ l else l
    let p := if flags.contains 'q' then p
      else if flags.contains 'c' then p.say s!"{chosen.length}\n"
      else p.write (Filter.joined shown)
    p.withStatus (if p.status ≠ 0 then 2 else if chosen.isEmpty then 1 else 0)

def tr (arguments : List Bytes) (p : Process) : Process :=
  let isFlag (a : Bytes) := a.head? = some 45 && a.length > 1
  let flags := (arguments.filter isFlag).flatMap fun a => Filter.byteChars (a.drop 1)
  let (data, p) := input [] (p.withStatus 0)
  p.write (Filter.exchangeBytes flags (arguments.filter (!isFlag ·)) data)

def cut (p : Process) (separator : UInt8) (fields : Option (List (Nat × Option Nat)))
    (characters : Option (List (Nat × Option Nat))) : List String → Process
  | "-d" :: d :: rest => cut p ((Text.Utf8.encode d).headD 9) fields characters rest
  | "-f" :: f :: rest => cut p separator (some (Filter.ranges f)) characters rest
  | "-c" :: c :: rest | "-b" :: c :: rest => cut p separator fields (some (Filter.ranges c)) rest
  | a :: rest =>
    let value := String.ofList (a.toList.drop 2)
    if a.startsWith "-d" then cut p ((Text.Utf8.encode value).headD 9) fields characters rest
    else if a.startsWith "-f" then cut p separator (some (Filter.ranges value)) characters rest
    else if a.startsWith "-c" || a.startsWith "-b" then
      cut p separator fields (some (Filter.ranges value)) rest
    else finish (a :: rest)
  | [] => finish []
where
  /-- Cut, once all flags have been read. -/
  finish (paths : List String) : Process :=
    let (data, p) := input paths (p.withStatus 0)
    let change (line : Bytes) : Bytes :=
      match fields, characters with
      | some rs, _ => Filter.cutFields separator rs line
      | none, some rs => Filter.pick rs line
      | none, none => line
    p.write (Filter.joined ((Filter.linesOf data).map change))

def sort (arguments : List String) (p : Process) : Process :=
  let (flags, paths) := splitFlags arguments
  let (data, p) := input paths (p.withStatus 0)
  p.write (Filter.joined (Filter.sort flags (Filter.linesOf data)))

def uniq (arguments : List String) (p : Process) : Process :=
  let (flags, paths) := splitFlags arguments
  let (data, p) := input paths (p.withStatus 0)
  let found := Filter.runs (Filter.linesOf data)
  let found := if flags.contains 'd' then found.filter (·.1 > 1) else found
  p.write <| Filter.joined <| found.map fun (n, line) =>
    if flags.contains 'c' then Text.Utf8.encode (Filter.column 7 n ++ " ") ++ line else line

/-- Lines with their characters in the other direction. -/
def rev (paths : List String) (p : Process) : Process :=
  let (data, p) := input paths (p.withStatus 0)
  let turn (line : Bytes) :=
    Text.Utf8.encode (String.ofList (Text.Utf8.decodeLossy line).toList.reverse)
  p.write (Filter.joined ((Filter.linesOf data).map turn))

/-- Write the input out and into files. -/
def tee (arguments : List String) (p : Process) : Process :=
  let (flags, paths) := splitFlags arguments
  let (data, p) := input [] (p.withStatus 0)
  paths.foldl
    (fun p path =>
      let written :=
        if flags.contains 'a' then p.world.files.append p.world.cwd path data
        else p.world.files.write p.world.cwd path data
      match written with
      | .ok fs => { p with world.files := fs }
      | .error e => failWith p 1 s!"tee: {path}: {e.reason}")
    (p.write data)

/-- The value of an expression given word by word, from left to right by strength. -/
def calculate (arguments : List String) : Option String :=
  match arguments with
  | [a] => some a
  | ["length", a] => some (toString a.length)
  | [a, o, b] =>
    let truth (t : Bool) := some (if t then "1" else "0")
    match Condition.integer? a, Condition.integer? b with
    | some x, some y =>
      match o with
      | "+" => some (toString (x + y))
      | "-" => some (toString (x - y))
      | "*" => some (toString (x * y))
      | "/" => if y = 0 then none else some (toString (Int.tdiv x y))
      | "%" => if y = 0 then none else some (toString (Int.tmod x y))
      | "=" => truth (x == y)
      | "!=" => truth (x != y)
      | "<" => truth (decide (x < y))
      | "<=" => truth (decide (x ≤ y))
      | ">" => truth (decide (x > y))
      | ">=" => truth (decide (x ≥ y))
      | _ => none
    | _, _ =>
      match o with
      | "=" => truth (a == b)
      | "!=" => truth (a != b)
      | _ => none
  | _ => none

def expr (arguments : List String) (p : Process) : Process :=
  match calculate arguments with
  | some v => (p.say (v ++ "\n")).withStatus (if v = "0" || v.isEmpty then 1 else 0)
  | none => failWith p 2 "expr: syntax error"

/-- The place of a copy: below the target if that is a directory. -/
def targetPath (p : Process) (source target : String) : String :=
  match p.world.files.stat p.world.cwd target with
  | .ok .directory => Path.join target (baseName source "")
  | _ => target

def copy (name : String) (removes : Bool) (arguments : List String) (p : Process) : Process :=
  match (splitFlags arguments).2 with
  | [source, target] =>
    match p.world.files.stat p.world.cwd source with
    | .error e => failWith p 1 s!"{name}: cannot stat '{source}': {e.reason}"
    | .ok .directory => failWith p 1 s!"{name}: -r not specified; omitting directory '{source}'"
    | .ok _ =>
      let place := targetPath p source target
      match p.world.contentOf source, p.world.files.stat p.world.cwd source with
      | .ok data, .ok node =>
        match p.world.files.write p.world.cwd place data,
            p.world.files.resolveNew p.world.cwd place with
        | .ok fs, .ok there =>
          let fs := fs.set there (.file data node.isExecutable)
          let fs := if removes then
            match fs.remove p.world.cwd source with
            | .ok fs => fs
            | .error _ => fs
            else fs
          { p with world.files := fs, status := 0 }
        | .error e, _ | _, .error e =>
          failWith p 1 s!"{name}: cannot create regular file '{place}': {e.reason}"
      | _, _ => p.withStatus 1
  | _ => p.withStatus 1

def modeExecutes (mode : String) (before : Bool) : Bool :=
  if mode.toList.all Char.isDigit then
    mode.toList.any fun c => c == '1' || c == '3' || c == '5' || c == '7'
  else if mode.toList.contains 'x' then !mode.toList.contains '-' else before

def chmod (arguments : List String) (p : Process) : Process :=
  match arguments with
  | mode :: paths =>
    paths.foldl
      (fun p path =>
        match p.world.files.resolve p.world.cwd path with
        | .error e => failWith p 1 s!"chmod: cannot access '{path}': {e.reason}"
        | .ok place =>
          match p.world.files.node? place with
          | some (.file data x) =>
            { p with world.files := p.world.files.set place (.file data (modeExecutes mode x)) }
          | _ => p)
      (p.withStatus 0)
  | [] => p.withStatus 1

/-- The lines of an affirmation without end, as many as anyone reads. -/
def yes (arguments : List String) (p : Process) : Process :=
  let line := (if arguments.isEmpty then "y" else " ".intercalate arguments) ++ "\n"
  (p.write (List.replicate 2000 (Text.Utf8.encode line)).flatten).withStatus 0

def sequence (arguments : List String) (p : Process) : Process :=
  let bounds := arguments.filterMap String.toNat?
  let (first, last) := match bounds with
    | [n] => (1, n)
    | a :: b :: _ => (a, b)
    | [] => (1, 0)
  let lines := (List.range (last + 1 - first)).map fun i => s!"{first + i}\n"
  (p.say (String.join lines)).withStatus 0

/-! ### Time and terminal -/

/-- A number with a fraction and a unit of time, in milliseconds. -/
def milliseconds? (text : String) : Option Nat := do
  let digits (cs : List Char) := cs.foldl (fun n c => n * 10 + (c.toNat - 48)) 0
  let whole := text.toList.takeWhile Char.isDigit
  let rest := text.toList.drop whole.length
  let (fraction, unit) := match rest with
    | '.' :: r => (r.takeWhile Char.isDigit, r.dropWhile Char.isDigit)
    | r => ([], r)
  guard (!(whole.isEmpty && fraction.isEmpty))
  let n := digits whole * 1000 + digits ((fraction ++ ['0', '0', '0']).take 3)
  match unit with
  | [] | ['s'] => some n
  | ['m'] => some (n * 60)
  | ['h'] => some (n * 3600)
  | ['d'] => some (n * 86400)
  | _ => none

/-- Let time pass; a time that is no number is refused. -/
def sleep (arguments : List String) (p : Process) : Process :=
  let help := "\nTry 'sleep --help' for more information."
  match arguments with
  | [] => failWith p 1 ("sleep: missing operand" ++ help)
  | times =>
    match times.find? fun t => (milliseconds? t).isNone with
    | some t => failWith p 1 ("sleep: invalid time interval '" ++ t ++ "'" ++ help)
    | none =>
      (times.foldl (fun p t => p.sleep ((milliseconds? t).getD 0)) p).withStatus 0

def stty (arguments : List String) (p : Process) : Process :=
  if p.source ≠ .terminal then
    failWith p 1 "stty: 'standard input': Inappropriate ioctl for device"
  else
    arguments.foldl
      (fun p a =>
        match a with
        | "size" =>
          match p.size? with
          | some s => p.say s!"{s.rows.toNat} {s.columns.toNat}\n"
          | none => p
        | "echo" => { p with actions := (p.clock, .echo true) :: p.actions }
        | "-echo" => { p with actions := (p.clock, .echo false) :: p.actions }
        | _ => p)
      (p.withStatus 0)

def env (p : Process) : Process :=
  let shown := p.values.filter fun v => p.exported.contains v.1
  (shown.foldl (fun p (n, v) => p.write (Text.Utf8.encode (n ++ "=") ++ v ++ [10])) p).withStatus 0

def run? (name : String) (arguments : List Bytes) (p : Process) : Option Process :=
  let words := texts arguments
  match name with
  | "true" => some (p.withStatus 0)
  | "false" => some (p.withStatus 1)
  | "echo" => some ((p.write (Format.echo arguments)).withStatus 0)
  | "printf" =>
    let (out, complaints) := Format.printf arguments
    let p := complaints.foldl (fun p c => p.complain s!"{p.zero}: {p.line}: {c}\n") p
    some ((p.write out).withStatus (if complaints.isEmpty then 0 else 1))
  | "pwd" => some ((p.say (p.world.cwd.text ++ "\n")).withStatus 0)
  | "cat" => some (cat words p)
  | "ls" => some (ls words p)
  | "rm" => some (rm words p)
  | "mkdir" => some (mkdir words p)
  | "rmdir" => some (rmdir words p)
  | "touch" => some (touch words p)
  | "basename" =>
    some ((p.say (baseName (words.headD "") ((words.drop 1).headD "") ++ "\n")).withStatus 0)
  | "dirname" => some ((p.say (directoryName (words.headD "") ++ "\n")).withStatus 0)
  | "sed" => some (sed arguments p)
  | "head" => some (ends false words p)
  | "tail" => some (ends true words p)
  | "wc" => some (count words p)
  | "seq" => some (sequence words p)
  | "sleep" => some (sleep words p)
  | "stty" => some (stty words p)
  | "env" => some (env p)
  | "grep" => some (grep arguments p)
  | "tr" => some (tr arguments p)
  | "cut" => some (cut p 9 none none words)
  | "sort" => some (sort words p)
  | "uniq" => some (uniq words p)
  | "rev" => some (rev words p)
  | "tee" => some (tee words p)
  | "expr" => some (expr words p)
  | "cp" => some (copy "cp" false words p)
  | "mv" => some (copy "mv" true words p)
  | "chmod" => some (chmod words p)
  | "yes" => some (yes words p)
  | "id" => some ((p.say "0\n").withStatus 0)
  | "whoami" => some ((p.say "root\n").withStatus 0)
  | "uname" => some ((p.say "Linux\n").withStatus 0)
  | _ => none

end CommandAgent.Shell.Utility
