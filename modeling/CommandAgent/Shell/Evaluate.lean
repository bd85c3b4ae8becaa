import CommandAgent.Shell.Arithmetic
import CommandAgent.Shell.Condition
import CommandAgent.Shell.Expansion
import CommandAgent.Shell.Parser

/-!
# Running scripts

Scripts run phrase by phrase on the state of a process. A phrase leaves a status and says how to go
on: with the next phrase, out of some loops, or out of the script. Each sub-run gets less fuel than
the run around it; a script that uses up its fuel counts as one that never ends. A stopped process
does nothing more.
-/

namespace CommandAgent.Shell

/-- How to go on after a phrase. -/
inductive Flow where
  | next
  | exit
  /-- Leave the function. -/
  | back
  /-- Leave so many loops. -/
  | leave (loops : Nat)
  /-- Leave all but one of so many loops, and go on with the next round of that one. -/
  | again (loops : Nat)
deriving DecidableEq, Repr

namespace Process

def separators (p : Process) : Bytes := (p.get? "IFS").getD [32, 9, 10]

/-- The value of a parameter that is one text. -/
def parameter? (p : Process) (name : String) : Option Bytes :=
  let text (s : String) := some (Text.Utf8.encode s)
  match name with
  | "#" => text (toString p.arguments.length)
  | "?" => text (toString p.status)
  | "$" => text (toString p.identity)
  | "!" | "-" => some []
  | "0" => text p.zero
  | "*" | "@" =>
    if p.arguments.isEmpty then none else some (List.intercalate [32] p.arguments)
  | _ =>
    match name.toNat? with
    | some n => p.arguments[n - 1]?
    | none => p.get? name

/-- The value of a variable in arithmetic; one that is unset or blank counts as zero. -/
def integer (p : Process) (name : String) : Except Arithmetic.Fault Int :=
  let text := Text.Utf8.decodeLossy ((p.parameter? name).getD [])
  let (negative, digits) := match Arithmetic.skipBlanks text.toList with
    | '-' :: cs => (true, cs)
    | '+' :: cs => (false, cs)
    | cs => (false, cs)
  if digits.isEmpty then .ok 0
  else
    let (n, rest) := Arithmetic.literal digits
    if (digits.headD ' ').isDigit && (Arithmetic.skipBlanks rest).isEmpty then
      .ok (if negative then -n else n)
    else .error (.illegalNumber text)

def warn (p : Process) (line : Nat) (text : String) : Process :=
  p.complain s!"{p.zero}: {line}: {text}\n"

/-- The script given up with a message. -/
def abandon (p : Process) (text : String) : Process :=
  ((p.warn p.line text).withStatus 2).halt (.left p.identity)

/-- The script given up because a parameter is unset. -/
def abandonFor (p : Process) (name : String) (orEmpty : Bool) (message : Bytes) : Process :=
  let text := Text.Utf8.decodeLossy message
  let text := if !text.isEmpty then text
    else if orEmpty then "parameter not set or null" else "parameter not set"
  p.abandon (name ++ ": " ++ text)

/-- The script given up because an expression has no value. -/
def abandonExpression (p : Process) (expression : String) (e : Arithmetic.Fault) : Process :=
  match e with
  | .expecting what =>
    p.abandon ("arithmetic expression: expecting " ++ what ++ ": \"" ++ expression ++ "\"")
  | .divisionByZero =>
    p.abandon ("arithmetic expression: division by zero: \"" ++ expression ++ "\"")
  | .illegalNumber text => p.abandon ("Illegal number: " ++ text)

/-- The script given up because it sets a variable that keeps its value; `command` is what it used
for that. -/
def abandonSetting (p : Process) (command name : String) : Process :=
  p.abandon (command ++ name ++ ": is read only")

/-- Set variables, unless one of them keeps its value. -/
def setAll (p : Process) (command : String) (values : List (String × Bytes)) : Process :=
  match values.find? fun v => p.frozen.contains v.1 with
  | some (name, _) => p.abandonSetting command name
  | none => values.foldl (fun q (n, v) => q.set n v) p

def environment (p : Process) : List (String × Bytes) :=
  p.values.filter fun v => p.exported.contains v.1

/-- Where a program of a name is: a path as it stands, any other name in the directories of the
search path. -/
def program? (p : Process) (name : String) : Except Bool (String × Node) :=
  let node (path : String) := (p.world.files.stat p.world.cwd path).toOption
  if name.toList.contains '/' then
    match node name with
    | some n => if n.isExecutable then .ok (name, n) else .error true
    | none => .error false
  else
    let path := Text.Utf8.decodeLossy ((p.get? "PATH").getD [])
    let found := (path.splitOn ":").filterMap fun d =>
      (node (Path.join (if d.isEmpty then "." else d) name)).map fun n => (Path.join d name, n)
    match found.find? fun f => f.2.isExecutable, found with
    | some f, _ => .ok f
    | none, f :: _ => .error f.2.isFile
    | none, [] => .error false

def pointTo (p : Process) (descriptor : Nat) (sink : Sink) : Process :=
  match descriptor with
  | 0 => p
  | 1 => { p with out := sink }
  | 2 => { p with err := sink }
  | n => { p with others := (n, sink) :: p.others.filter (·.1 ≠ n) }

/-- Where a descriptor points. -/
def sink? (p : Process) (descriptor : Nat) : Option Sink :=
  match descriptor with
  | 0 => some .nothing
  | 1 => some p.out
  | 2 => some p.err
  | n => (p.others.find? (·.1 = n)).map (·.2)

/-- Point a descriptor where another points, or close it. -/
def pointAlike (p : Process) (descriptor : Nat) (other : String) : Except String Process :=
  if other = "-" then
    if descriptor ≤ 2 then .ok (p.pointTo descriptor .nothing)
    else .ok { p with others := p.others.filter (·.1 ≠ descriptor) }
  else
    match other.toNat? with
    | none => .error "Bad fd number"
    | some n =>
      match p.sink? n with
      | some sink => .ok (p.pointTo descriptor sink)
      | none => .error (other ++ ": Bad file descriptor")

def openOutput (p : Process) (descriptor : Nat) (path : String) (append : Bool) :
    Except String Process :=
  let cannot (e : OsError) :=
    let reason := match e with
      | .noEntry => "Directory nonexistent"
      | e => e.reason
    Except.error s!"cannot create {path}: {reason}"
  match p.world.files.stat p.world.cwd path with
  | .ok .device => .ok (p.pointTo descriptor .nothing)
  | _ =>
    let opened :=
      if append then p.world.files.append p.world.cwd path []
      else p.world.files.write p.world.cwd path []
    match opened, p.world.files.resolveNew p.world.cwd path with
    | .ok fs, .ok place => .ok ({ p with world.files := fs }.pointTo descriptor (.file place))
    | .error e, _ | _, .error e => cannot e

def openInput (p : Process) (path : String) : Except String Process :=
  match p.world.contentOf path with
  | .ok data => .ok { p with source := .bytes data }
  | .error .isDirectory => .ok { p with source := .nothing }
  | .error e =>
    let reason := match e with
      | .noEntry => "No such file"
      | e => e.reason
    .error s!"cannot open {path}: {reason}"

/-- The signals: name, number, and what is said of a program that one has ended. -/
def signals : List (String × Nat × String) :=
  [("HUP", 1, "Hangup"), ("INT", 2, ""), ("QUIT", 3, "Quit"), ("ILL", 4, "Illegal instruction"),
    ("TRAP", 5, "Trace/breakpoint trap"), ("ABRT", 6, "Aborted"), ("BUS", 7, "Bus error"),
    ("FPE", 8, "Floating point exception"), ("KILL", 9, "Killed"),
    ("USR1", 10, "User defined signal 1"), ("SEGV", 11, "Segmentation fault"),
    ("USR2", 12, "User defined signal 2"), ("PIPE", 13, ""), ("ALRM", 14, "Alarm clock"),
    ("TERM", 15, "Terminated")]

def signal (name : String) : Nat :=
  match signals.find? fun s => s.1 = name || "SIG" ++ s.1 = name with
  | some s => s.2.1
  | none => (Condition.integer? name).elim 15 Int.toNat

def signalText (number : Nat) : String :=
  match signals.find? fun s => s.2.1 = number with
  | some s => if s.2.2.isEmpty then "" else s.2.2 ++ "\n"
  | none => ""

/-- The signal that the words of `kill` name, and the processes it is for. -/
def signalOf (words : List String) : Nat × List Nat :=
  let (number, targets) :=
    match words with
    | "-s" :: s :: rest => (signal s, rest)
    | a :: rest => if a.startsWith "-" then (signal (String.ofList (a.toList.drop 1)), rest)
      else (15, a :: rest)
    | [] => (15, [])
  (number, targets.filterMap String.toNat?)

/-- Set, or with no script take away, what is run when the script ends or gets a signal. -/
def setTrap (script : Option String) (p : Process) (condition : String) : Process :=
  if condition = "EXIT" || condition = "0" then { p with atExit := script }
  else
    let number := signal condition
    { p with traps := (script.toList.map fun s => (number, s)) ++ p.traps.filter (·.1 ≠ number) }

/-- Split a line among variables; the last takes the rest. -/
def assignFields (separators : Bytes) : List String → Bytes → Process → Process
  | [], _, p => p
  | [name], line, p =>
    let blank (b : UInt8) := separators.contains b && Atom.isBlank b
    p.set name (((line.dropWhile blank).reverse.dropWhile blank).reverse)
  | name :: names, line, p =>
    let line := line.dropWhile fun b => separators.contains b && Atom.isBlank b
    let field := line.takeWhile (!separators.contains ·)
    assignFields separators names ((line.drop field.length).drop 1) (p.set name field)

def unescapeLine : Bytes → Bytes
  | 92 :: b :: bs => b :: unescapeLine bs
  | b :: bs => b :: unescapeLine bs
  | [] => []

def readInto (p : Process) (words : List String) : Process :=
  let raw := words.head? = some "-r"
  let names := if raw then words.drop 1 else words
  match p.readLine with
  | (none, p) => p
  | (some (line, ended), p) =>
    let p := assignFields p.separators names (if raw then line else unescapeLine line) p
    p.withStatus (if ended then 0 else 1)

/-- The process `p` after a part of it ran as `q` with variables of its own. A part that gave up has
only ended itself. -/
def returned (p q : Process) : Process :=
  let stop := match q.stop with
    | some (.left n) => if n = p.identity then p.stop else q.stop
    | stop => stop
  { p with
    world := { q.world with cwd := p.world.cwd }, status := q.status, clock := q.clock
    actions := q.actions, typed := q.typed, started := q.started, stop := stop }

/-- The process with its streams as they were before some redirections. -/
def restoredStreams (after : Process) (rs : List Redirect) (before : Process) : Process :=
  let source := if rs.isEmpty then after.source else before.source
  { after with out := before.out, err := before.err, others := before.others, source := source }

/-- The process after a command, with the variables that were set only for it put back. -/
def restored (before : Process) (values : List (String × Bytes)) (after : Process) : Process :=
  values.foldl
    (fun q (n, _) =>
      match before.get? n with
      | some v => q.set n v
      | none => q.unset n) after

/-- Change the options, as the letters behind a sign say. -/
def switch (on : Bool) (letters : List Char) (p : Process) : Process :=
  letters.foldl
    (fun p c =>
      match c with
      | 'e' => { p with options.exitOnFailure := on }
      | 'u' => { p with options.demandSet := on }
      | 'x' => { p with options.trace := on }
      | _ => p) p

/-- Show a command before it runs. -/
def announce (settings : List (String × Bytes)) (arguments : List Bytes) (p : Process) : Process :=
  if p.options.trace then
    let shown := settings.map fun (n, v) => Text.Utf8.encode (n ++ "=") ++ v
    p.writeTo p.err (Text.Utf8.encode "+ " ++ List.intercalate [32] (shown ++ arguments) ++ [10])
  else p

def setIntegers (p : Process) (values : List (String × Int)) : Process :=
  p.setAll "" (values.map fun (n, v) => (n, Text.Utf8.encode (toString v)))

def enter (place : Place) (p : Process) : Process :=
  let old := (p.get? "PWD").getD []
  let p := { p with world.cwd := place, exported := "PWD" :: "OLDPWD" :: p.exported }
  (p.set "OLDPWD" old).set "PWD" (Text.Utf8.encode place.text)

/-- The process as a new program finds it. -/
def renewed (p : Process) : Process :=
  { p with
    options := {}, tested := false, functions := [], locals := [], depth := 0, atExit := none
    frozen := [], loops := 0, traps := p.traps.filter (·.2.isEmpty) }

/-- Make a variable local to the function at hand. -/
def makeLocal (p : Process) (word : String) : Process :=
  let name := String.ofList (word.toList.takeWhile (· != '='))
  let p := { p with locals := (name, p.get? name) :: p.locals }
  if word.toList.contains '=' then
    p.set name (Text.Utf8.encode (String.ofList (word.toList.drop (name.length + 1))))
  else p

/-- The process after a function, with the arguments and the local variables of `before`. -/
def leaveFunction (before after : Process) : Process :=
  let restored := after.locals.foldl
    (fun (q : Process) (n, v) =>
      match v with
      | some v => q.set n v
      | none => q.unset n) after
  { restored with
    arguments := before.arguments, locals := before.locals, depth := before.depth
    loops := before.loops }

/-- End the script after a command that failed, where the options say so. -/
def checked (r : Flow × Process) : Flow × Process :=
  match r with
  | (.next, p) =>
    if p.options.exitOnFailure && !p.tested && p.status ≠ 0 then (.exit, p) else (.next, p)
  | other => other

end Process

/-- The commands that the shell runs itself. -/
def builtins : List String :=
  [":", "true", "false", "echo", "printf", "test", "[", "cd", "pwd", "exit", "export", "unset",
    "set", "shift", "read", "kill", "break", "continue", "eval", ".", "trap", "umask", "wait",
    "command", "exec", "return", "local", "type", "readonly"]

/-- The name that a word of the form `name=value` sets. -/
def nameOf (word : String) : String := String.ofList (word.toList.takeWhile (· != '='))

/-- The name and value that a word sets, if it has the form `name=value`. -/
def settingOf? (word : String) : Option (String × Bytes) :=
  if word.toList.contains '=' then
    some (nameOf word,
      Text.Utf8.encode (String.ofList (word.toList.drop ((nameOf word).length + 1))))
  else none

/-- A mask of permissions as four octal digits. -/
def maskText (mask : Nat) : String :=
  let digits := Nat.toDigits 8 mask
  String.ofList (List.replicate (4 - digits.length) '0' ++ digits)

def maskWords (mask : Nat) : String :=
  let shown (who : String) (bits : Nat) : String :=
    let left := 7 - bits
    who ++ (if left / 4 % 2 = 1 then "r" else "") ++ (if left / 2 % 2 = 1 then "w" else "")
      ++ (if left % 2 = 1 then "x" else "")
  ",".intercalate
    [shown "u=" (mask / 64 % 8), shown "g=" (mask / 8 % 8), shown "o=" (mask % 8)]

/-- A value in quotes, as the shell lists it. -/
def shellQuoted (value : Option Bytes) : String :=
  "'" ++ Text.Utf8.decodeLossy (value.getD []) ++ "'"

/-- Say what a name stands for. -/
def Process.explain (p : Process) (name : String) : Process :=
  if builtins.contains name then p.say (name ++ " is a shell builtin\n")
  else if p.functions.any (·.1 = name) then p.say (name ++ " is a shell function\n")
  else
    match p.program? name with
    | .ok (path, _) => p.say (name ++ " is " ++ path ++ "\n")
    | .error _ => (p.say (name ++ ": not found\n")).withStatus 127

def isShell (name : String) : Bool := name == "sh" || name == "dash" || name == "bash"

/-- The interpreter line of a script: the interpreter and its argument. -/
def interpreter? (data : Bytes) : Option (String × Option String) :=
  match data with
  | 35 :: 33 :: rest =>
    let line := Text.Utf8.decodeLossy (rest.takeWhile (· != 10))
    let words := Text.trim line
    let name := String.ofList (words.toList.takeWhile fun c => c != ' ' && c != '\t')
    let argument := Text.trim (String.ofList (words.toList.drop name.length))
    if name.isEmpty then none else some (name, if argument.isEmpty then none else some argument)
  | _ => none

mutual

def expandPiece : (fuel : Nat) → Piece → Process → List Atom × Process
  | 0, _, p => ([], p.halt .waiting)
  | fuel + 1, piece, p =>
    match piece with
    | .text s quoted =>
      ((if quoted then [.quote] else [])
        ++ (Text.Utf8.encode s).map fun b => Atom.byte b false quoted, p)
    | .output script quoted =>
      let (data, p) := capture fuel script p
      (Atom.ofBytes data (!quoted) quoted, p)
    | .arithmetic expression quoted =>
      let (text, p) := expandSource fuel expression p
      let source := Text.Utf8.decodeLossy (Atom.bytes text)
      match Arithmetic.evaluate p.integer source with
      | .ok (n, set) =>
        (Atom.ofBytes (Text.Utf8.encode (toString n)) (!quoted) quoted, p.setIntegers set)
      | .error e => ([], p.abandonExpression source e)
    | .parameter "@" .plain true =>
      (List.intercalate [.border]
        (p.arguments.map fun a => .quote :: a.map fun b => .byte b false true), p)
    | .parameter name treatment quoted =>
      let value := p.parameter? name
      let present (orEmpty : Bool) := value.any fun v => !(orEmpty && v.isEmpty)
      let plain := (Atom.ofBytes (value.getD []) (!quoted) quoted, p)
      let demanded := p.options.demandSet && value.isNone && name != "@" && name != "*"
      match treatment with
      | .plain => if demanded then ([], p.abandonFor name false []) else plain
      | .demand orEmpty message =>
        if present orEmpty then plain
        else
          let (atoms, p) := expandSource fuel message p
          ([], p.abandonFor name orEmpty (Atom.bytes atoms))
      | .length =>
        let n := (Text.Utf8.decodeLossy (value.getD [])).length
        (Atom.ofBytes (Text.Utf8.encode (toString n)) (!quoted) quoted, p)
      | .otherwise orEmpty text => if present orEmpty then plain else expandSource fuel text p
      | .assign orEmpty text =>
        if present orEmpty then plain
        else
          let (atoms, p) := expandSource fuel text p
          (atoms, p.set name (Atom.bytes atoms))
      | .instead orEmpty text => if present orEmpty then expandSource fuel text p else ([], p)
      | .dropFront longest pattern =>
        let (atoms, p) := expandSource fuel pattern p
        let cut := cutFront longest (Atom.pattern atoms) (Filter.byteChars (value.getD []))
        (Atom.ofBytes (Filter.charBytes cut) (!quoted) quoted, p)
      | .dropBack longest pattern =>
        let (atoms, p) := expandSource fuel pattern p
        let cut := cutBack longest (Atom.pattern atoms) (Filter.byteChars (value.getD []))
        (Atom.ofBytes (Filter.charBytes cut) (!quoted) quoted, p)

def expandWord : (fuel : Nat) → Word → Process → List Atom × Process
  | 0, _, p => ([], p.halt .waiting)
  | _, [], p => ([], p)
  | fuel + 1, piece :: rest, p =>
    let (atoms, p) := expandPiece fuel piece p
    let (more, p) := expandWord fuel rest p
    (atoms ++ more, p)

/-- Expand a text that is kept as written. -/
def expandSource : (fuel : Nat) → String → Process → List Atom × Process
  | 0, _, p => ([], p.halt .waiting)
  | fuel + 1, text, p =>
    match Word.parse text with
    | .ok word => expandWord fuel word p
    | .error _ => ([], p)

/-- The bytes of a word that is not split. -/
def expandText : (fuel : Nat) → Word → Process → Bytes × Process
  | 0, _, p => ([], p.halt .waiting)
  | fuel + 1, word, p =>
    let (atoms, p) := expandWord fuel word p
    (Atom.bytes atoms, p)

def expandFields : (fuel : Nat) → List Word → Process → List Bytes × Process
  | 0, _, p => ([], p.halt .waiting)
  | _, [], p => ([], p)
  | fuel + 1, word :: rest, p =>
    let (atoms, p) := expandWord fuel word p
    -- An empty list of arguments in quotes is no field.
    let vanishes := p.arguments.isEmpty && word.contains (.parameter "@" .plain true)
      && (Atom.bytes atoms).isEmpty
    let fields := if vanishes then [] else Atom.fields p.separators none atoms
    let found := fields.flatMap (Atom.names p.world)
    let (more, p) := expandFields fuel rest p
    (found ++ more, p)

/-- The output of a script, without the line ends at its end. -/
def capture : (fuel : Nat) → String → Process → Bytes × Process
  | 0, _, p => ([], p.halt .waiting)
  | fuel + 1, text, p =>
    match Script.parse text with
    | .error e => ([], (p.warn e.line s!"Syntax error: {e.message}").withStatus 2)
    | .ok script =>
      let (_, q) := runPhrases fuel script { p with out := .capture, captured := [] }
      let data := q.captured.reverse.flatten
      let trimmed := (data.reverse.dropWhile (· = 10)).reverse
      (trimmed, p.returned q)

/-- Perform the redirections of a command. -/
def redirectAll : (fuel : Nat) → List Redirect → Process → Except String Process × Process
  | 0, _, p => (.ok p, p.halt .waiting)
  | _, [], p => (.ok p, p)
  | fuel + 1, r :: rest, p =>
    let word := match r.action with
      | .input w | .output w | .append w | .same w | .document w => w
    let (target, p) := expandText fuel word p
    let path := Text.Utf8.decodeLossy target
    let redirected : Except String Process := match r.action with
      | .document _ => .ok { p with source := .bytes target }
      | .input _ => p.openInput path
      | .output _ => p.openOutput r.descriptor path false
      | .append _ => p.openOutput r.descriptor path true
      | .same _ => p.pointAlike r.descriptor path
    match redirected with
    | .ok p => redirectAll fuel rest p
    | .error e => (.error e, p)

def runRedirected : (fuel : Nat) → List Redirect → (line : Nat) → List Phrase → Process →
    Flow × Process
  | 0, _, _, _, p => (.next, p.halt .waiting)
  | fuel + 1, rs, line, body, p =>
    match redirectAll fuel rs p with
    | (.error e, p) => (.next, (p.warn line e).withStatus 2)
    | (.ok q, _) =>
      let (flow, q) := runPhrases fuel body q
      (flow, q.restoredStreams rs p)

def runPhrases : (fuel : Nat) → List Phrase → Process → Flow × Process
  | 0, _, p => (.next, p.halt .waiting)
  | _, [], p => (.next, p)
  | fuel + 1, phrase :: rest, p =>
    match runPhrase fuel phrase p with
    | (.next, p) => if p.stop.isSome then (.next, p) else runPhrases fuel rest p
    | (flow, p) => (flow, p)

def runPhrase : (fuel : Nat) → Phrase → Process → Flow × Process
  | 0, _, p => (.next, p.halt .waiting)
  | fuel + 1, phrase, p =>
    if p.stop.isSome then (.next, p)
    else
      match phrase with
      | .simple line settings words rs =>
        Process.checked (runSimple fuel line settings words rs p)
      | .define name body =>
        (.next, { p with functions := (name, body) :: p.functions, status := 0 })
      | .pipeline negated parts =>
        match parts with
        | [part] =>
          let (flow, q) := runPhrase fuel part { p with tested := p.tested || negated }
          (flow, { (if negated then q.withStatus (if q.status = 0 then 1 else 0) else q) with
            tested := p.tested })
        | parts =>
          let q := runPipeline fuel parts { p with tested := true }
          let q := { q with tested := p.tested }
          if negated then (.next, q.withStatus (if q.status = 0 then 1 else 0))
          else Process.checked (.next, q)
      | .both a b =>
        match runPhrase fuel a { p with tested := true } with
        | (.next, q) =>
          let q := { q with tested := p.tested }
          if q.status = 0 then runPhrase fuel b q else (.next, q)
        | (flow, q) => (flow, { q with tested := p.tested })
      | .either a b =>
        match runPhrase fuel a { p with tested := true } with
        | (.next, q) =>
          let q := { q with tested := p.tested }
          if q.status = 0 then (.next, q) else runPhrase fuel b q
        | (flow, q) => (flow, { q with tested := p.tested })
      | .group body rs line => runRedirected fuel rs line body p
      | .subshell body rs line =>
        let traps := p.traps.filter (·.2.isEmpty)
        let (_, q) := runRedirected fuel rs line body { p with atExit := none, traps := traps }
        let q := runAtExit fuel q
        Process.checked (.next, { p.returned q with captured := q.captured })
      | .branch condition body otherwise rs line =>
        match redirectAll fuel rs p with
        | (.error e, p) => (.next, (p.warn line e).withStatus 2)
        | (.ok q, _) =>
          let (flow, q) :=
            match runPhrases fuel condition { q with tested := true } with
            | (.next, q) =>
              let q := { q with tested := p.tested }
              if q.stop.isSome then (Flow.next, q)
              else if q.status = 0 then runPhrases fuel body q
              else runPhrases fuel otherwise (q.withStatus 0)
            | other => other
          (flow, q.restoredStreams rs p)
      | .loop negated condition body rs line =>
        match redirectAll fuel rs p with
        | (.error e, p) => (.next, (p.warn line e).withStatus 2)
        | (.ok q, _) =>
          let (flow, q) := runLoop fuel negated condition body 0 { q with loops := p.loops + 1 }
          (flow, { q with loops := p.loops }.restoredStreams rs p)
      | .each name words body rs line =>
        match redirectAll fuel rs p with
        | (.error e, p) => (.next, (p.warn line e).withStatus 2)
        | (.ok q, _) =>
          let (values, q) := match words with
            | some ws => expandFields fuel ws q
            | none => (q.arguments, q)
          let q := if q.frozen.contains name then q.abandonSetting "" name else q
          let (flow, q) := runEach fuel name values body
            { q with status := if q.stop.isSome then q.status else 0, loops := p.loops + 1 }
          (flow, { q with loops := p.loops }.restoredStreams rs p)
      | .select word clauses rs line =>
        match redirectAll fuel rs p with
        | (.error e, p) => (.next, (p.warn line e).withStatus 2)
        | (.ok q, _) =>
          let (value, q) := expandText fuel word q
          let (flow, q) := runClauses fuel (Filter.byteChars value) clauses (q.withStatus 0)
          (flow, q.restoredStreams rs p)

/-- Run the clause whose pattern matches. -/
def runClauses : (fuel : Nat) → List Char → List (List Word × List Phrase) → Process →
    Flow × Process
  | 0, _, _, p => (.next, p.halt .waiting)
  | _, _, [], p => (.next, p)
  | fuel + 1, value, (patterns, body) :: rest, p =>
    let (found, p) := anyMatches fuel value patterns p
    if found then runPhrases fuel body p else runClauses fuel value rest p

def anyMatches : (fuel : Nat) → List Char → List Word → Process → Bool × Process
  | 0, _, _, p => (false, p.halt .waiting)
  | _, _, [], p => (false, p)
  | fuel + 1, value, word :: rest, p =>
    let (atoms, p) := expandWord fuel word p
    if matchesGlob (Atom.pattern atoms) value then (true, p) else anyMatches fuel value rest p

/-- Run a loop; `status` is that of the last round. -/
def runLoop : (fuel : Nat) → (negated : Bool) → (condition body : List Phrase) → (status : Nat) →
    Process → Flow × Process
  | 0, _, _, _, _, p => (.next, p.halt .waiting)
  | fuel + 1, negated, condition, body, status, p =>
    match runPhrases fuel condition { p with tested := true } with
    | (.next, q) =>
      let p := { q with tested := p.tested }
      if p.stop.isSome then (.next, p)
      else if (p.status = 0) = negated then (.next, p.withStatus status)
      else
        match runPhrases fuel body p with
        | (.next, p) | (.again 0, p) | (.again 1, p) =>
          if p.stop.isSome then (.next, p) else runLoop fuel negated condition body p.status p
        | (.leave n, p) => (if n ≤ 1 then .next else .leave (n - 1), p.withStatus 0)
        | (.again n, p) => (.again (n - 1), p)
        | other => other
    | (.leave n, p) => (if n ≤ 1 then .next else .leave (n - 1), p)
    | other => other

def runEach : (fuel : Nat) → String → List Bytes → List Phrase → Process → Flow × Process
  | 0, _, _, _, p => (.next, p.halt .waiting)
  | _, _, [], _, p => (.next, p)
  | fuel + 1, name, value :: rest, body, p =>
    match runPhrases fuel body (p.set name value) with
    | (.next, p) | (.again 0, p) | (.again 1, p) =>
      if p.stop.isSome then (.next, p) else runEach fuel name rest body p
    | (.leave n, p) => (if n ≤ 1 then .next else .leave (n - 1), p.withStatus 0)
    | (.again n, p) => (.again (n - 1), p)
    | other => other

/-- Run the parts of a pipeline, each on the output of the one before. -/
def runPipeline : (fuel : Nat) → List Phrase → Process → Process
  | 0, _, p => p.halt .waiting
  | _, [], p => p
  | fuel + 1, [part], p =>
    let (_, q) := runPhrase fuel part p
    { p.returned q with captured := q.captured }
  | fuel + 1, part :: rest, p =>
    let (_, q) := runPhrase fuel part { p with out := .capture, captured := [] }
    let data := q.captured.reverse.flatten
    let q := p.returned q
    if q.stop.isSome then q
    else
      let r := runPipeline fuel rest { q with source := .bytes data }
      { r with source := p.source }

def runSimple : (fuel line : Nat) → List (String × Word) → List Word → List Redirect → Process →
    Flow × Process
  | 0, _, _, _, _, p => (.next, p.halt .waiting)
  | fuel + 1, line, settings, words, rs, p =>
    let (arguments, p) := expandFields fuel words { p with line := line }
    if p.stop.isSome then (.next, p)
    else
      let (values, p) := expandSettings fuel settings
        (if arguments.isEmpty then p.withStatus 0 else p)
      if p.stop.isSome then (.next, p)
      else
        match redirectAll fuel rs (p.announce values arguments) with
        | (.error e, q) => (.next, ({ p with world := q.world }.warn line e).withStatus 2)
        | (.ok q, _) =>
          let prepared := q.setAll "" values
          match arguments with
          | [] =>
            (.next, { prepared with
              out := p.out, err := p.err, others := p.others, source := p.source })
          | name :: rest =>
            let command := Text.Utf8.decodeLossy name
            if prepared.stop.isSome then (.next, prepared)
            else
              let (flow, r) := runNamed fuel line command rest values p q prepared
              -- Redirections of `exec` without a program are there to stay.
              if command = "exec" && rest.isEmpty then (flow, r)
              else (flow, r.restoredStreams rs p)

/-- Run what a name stands for, a function first, then a command of the shell, then a program.
`before` is the process before the redirections and `prepared` the one with the variables that are
set for the command. -/
def runNamed : (fuel line : Nat) → String → List Bytes → List (String × Bytes) →
    (before redirected prepared : Process) → Flow × Process
  | 0, _, _, _, _, _, _, p => (.next, p.halt .waiting)
  | fuel + 1, line, command, rest, values, before, redirected, prepared =>
    match redirected.functions.find? (·.1 = command) with
    | some (_, body) =>
      let inner :=
        { prepared with
          arguments := rest, locals := [], depth := redirected.depth + 1, loops := 0 }
      let (flow, r) := runPhrase fuel body inner
      (if flow = .back then .next else flow, before.restored values (redirected.leaveFunction r))
    | none =>
      if builtins.contains command then
        let (flow, r) := runBuiltin fuel line command rest prepared
        (flow, before.restored values r)
      else (.next, runProgram fuel line command rest values redirected)

def expandSettings : (fuel : Nat) → List (String × Word) → Process →
    List (String × Bytes) × Process
  | 0, _, p => ([], p.halt .waiting)
  | _, [], p => ([], p)
  | fuel + 1, (name, word) :: rest, p =>
    let (value, p) := expandText fuel word p
    let (more, p) := expandSettings fuel rest p
    ((name, value) :: more, p)

def runBuiltin : (fuel line : Nat) → String → List Bytes → Process → Flow × Process
  | 0, _, _, _, p => (.next, p.halt .waiting)
  | fuel + 1, line, name, arguments, p =>
    let words := Utility.texts arguments
    let done (n : Nat) (p : Process) : Flow × Process := (.next, p.withStatus n)
    match name with
    | ":" | "wait" => done 0 p
    | "umask" =>
      match words with
      | [] => done 0 (p.say (maskText p.mask ++ "\n"))
      | "-S" :: _ => done 0 (p.say (maskWords p.mask ++ "\n"))
      | m :: _ =>
        if m.toList.all (fun c => '0' ≤ c && c ≤ '7') then
          done 0 { p with mask := (Arithmetic.number 8 m.toList).toNat % 512 }
        else (.exit, (p.warn line s!"umask: Illegal number: {m}").withStatus 2)
    | "readonly" =>
      let p := p.setAll "readonly: " (words.filterMap settingOf?)
      if p.stop.isSome then (.next, p)
      else if words.isEmpty || words = ["-p"] then
        done 0 (p.frozen.foldl
          (fun p n => p.say s!"readonly {n}={shellQuoted (p.get? n)}\n") p)
      else done 0 { p with frozen := words.map nameOf ++ p.frozen }
    | "trap" =>
      match words with
      | [] => done 0 p
      | [condition] => done 0 (p.setTrap none condition)
      | script :: conditions =>
        done 0 (conditions.foldl (Process.setTrap (if script = "-" then none else some script)) p)
    | "local" =>
      if p.depth = 0 then (.exit, (p.warn line "local: not in a function").withStatus 2)
      else done 0 (words.foldl Process.makeLocal p)
    | "type" =>
      (.next, words.foldl Process.explain (p.withStatus 0))
    | "test" | "[" =>
      let inner := if name = "[" then words.dropLast else words
      if name = "[" && words.getLast? ≠ some "]" then done 2 (p.warn line "[: missing ]")
      else
        match Condition.evaluate p.world inner with
        | .ok true => done 0 p
        | .ok false => done 1 p
        | .error e => done 2 (p.warn line s!"{name}: {e}")
    | "cd" =>
      let target := match words with
        | d :: _ => d
        | [] => Text.Utf8.decodeLossy ((p.get? "HOME").getD [])
      match p.world.files.resolve p.world.cwd target with
      | .ok place =>
        if p.world.files.node? place = some .directory then
          done 0 (p.enter place)
        else done 2 (p.warn line s!"cd: can't cd to {target}")
      | .error _ => done 2 (p.warn line s!"cd: can't cd to {target}")
    | "exit" | "return" =>
      let flow : Flow := if name = "return" then .back else .exit
      match words with
      | [] => (flow, p)
      | n :: _ =>
        match n.toNat? with
        | some n => (flow, p.withStatus (n % 256))
        | none => (.exit, (p.warn line s!"{name}: Illegal number: {n}").withStatus 2)
    | "export" =>
      let p := p.setAll "export: " (words.filterMap settingOf?)
      if p.stop.isSome then (.next, p)
      else done 0 { p with exported := words.map nameOf ++ p.exported }
    | "unset" =>
      match words.find? p.frozen.contains with
      | some n => (.next, p.abandonSetting "unset: " n)
      | none => done 0 (words.foldl Process.unset p)
    | "set" =>
      match words with
      | "--" :: _ => done 0 { p with arguments := arguments.drop 1 }
      | w :: rest =>
        if w.startsWith "-" || w.startsWith "+" then
          let p := p.switch (w.startsWith "-") (w.toList.drop 1)
          let rest := if rest.head? = some "--" then rest.drop 1 else rest
          if rest.isEmpty then done 0 p
          else done 0 { p with arguments := arguments.drop (arguments.length - rest.length) }
        else done 0 { p with arguments := arguments }
      | [] => done 0 p
    | "shift" =>
      let n := match words with
        | w :: _ => w.toNat?.getD 1
        | [] => 1
      if n ≤ p.arguments.length then done 0 { p with arguments := p.arguments.drop n }
      else (.exit, (p.warn line "shift: can't shift that many").withStatus 2)
    | "read" =>
      match words.find? p.frozen.contains with
      | some n => done 2 (p.warn line s!"read: {n}: is read only")
      | none => (.next, p.readInto words)
    | "kill" =>
      match Process.signalOf words with
      | (_, []) => done 1 p
      | (0, _) => done 0 p
      | (number, target :: _) =>
        match if target = p.identity then p.traps.find? (·.1 = number) else none with
        | some (_, script) => runText fuel script (p.withStatus 0)
        | none => (.next, (p.withStatus 0).halt (.killed target number))
    | "break" | "continue" =>
      let n := min ((words.head?.bind String.toNat?).getD 1) p.loops
      (if p.loops = 0 then .next else if name = "break" then .leave n else .again n,
        p.withStatus 0)
    | "eval" => runText fuel (" ".intercalate words) p
    | "." =>
      match words with
      | path :: _ =>
        match p.world.contentOf path with
        | .ok data =>
          let (flow, p) := runText fuel (Text.Utf8.decodeLossy data) p
          (if flow = .back then .next else flow, p)
        | .error _ => (.exit, (p.warn line s!".: cannot open {path}: No such file").withStatus 2)
      | [] => done 0 p
    | "command" | "exec" =>
      match words with
      | [] => done 0 p
      | "-v" :: c :: _ =>
        if builtins.contains c || p.functions.any (·.1 = c) then done 0 (p.say (c ++ "\n"))
        else
          match p.program? c with
          | .ok (path, _) => done 0 (p.say (path ++ "\n"))
          | .error _ => done 127 p
      | c :: _ =>
        let (flow, p) :=
          if builtins.contains c then runBuiltin fuel line c (arguments.drop 1) p
          else (.next, runProgram fuel line c (arguments.drop 1) [] p)
        (if name = "exec" then .exit else flow, p)
    | _ =>
      match Utility.run? name arguments p with
      | some p => (.next, p)
      | none => done 127 p

/-- Run a text as a script in the same process. -/
def runText : (fuel : Nat) → String → Process → Flow × Process
  | 0, _, p => (.next, p.halt .waiting)
  | fuel + 1, text, p =>
    match Script.parse text with
    | .ok script => runPhrases fuel script p
    | .error e => (.exit, (p.warn e.line s!"Syntax error: {e.message}").withStatus 2)

def runAtExit : (fuel : Nat) → Process → Process
  | 0, p => p.halt .waiting
  | fuel + 1, p =>
    match p.atExit, p.stop with
    | some text, none =>
      match runText fuel text { p with atExit := none } with
      | (.exit, q) => q
      | (_, q) => q.withStatus p.status
    | _, _ => p

/-- Find a program and run it with further variables. -/
def runProgram : (fuel line : Nat) → String → List Bytes → List (String × Bytes) → Process → Process
  | 0, _, _, _, _, p => p.halt .waiting
  | fuel + 1, line, name, arguments, values, p =>
    match p.program? name with
    | .error false => (p.warn line s!"{name}: not found").withStatus 127
    | .error true => (p.warn line s!"{name}: Permission denied").withStatus 126
    | .ok (path, node) =>
      let inner := values.foldl
        (fun (q : Process) (n, v) => { q.set n v with exported := n :: q.exported }) p
      let inner :=
        { inner.renewed with
          values := inner.environment, arguments := [], zero := name
          identity := p.started + 1, started := p.started + 1 }
      let q := runNode fuel path name node arguments inner
      let r := { p.returned q with captured := q.captured, source := q.source }
      match q.stop with
      | some (.killed n s) =>
        if n = inner.identity then
          ({ r with stop := p.stop }.complain (Process.signalText s)).withStatus (128 + s)
        else r
      | some (.left n) => if n = inner.identity then { r with stop := p.stop } else r
      | _ => r

def runNode : (fuel : Nat) → (path name : String) → Node → List Bytes → Process → Process
  | 0, _, _, _, _, p => p.halt .waiting
  | fuel + 1, path, name, node, arguments, p =>
    match node with
    | .program program =>
      if isShell program then runShell fuel arguments p
      else
        match Utility.run? program arguments p with
        | some p => p
        | none => p.withStatus 127
    | .file data _ =>
      match interpreter? data with
      | some (interpreter, argument) =>
        let front := argument.toList.map Text.Utf8.encode
        match p.program? interpreter with
        | .ok (found, node) =>
          runNode fuel found interpreter node (front ++ Text.Utf8.encode path :: arguments)
            { p with zero := interpreter }
        | .error _ => (p.warn 1 s!"{name}: not found").withStatus 127
      | none =>
        let p := { p with zero := path, arguments := arguments }
        runAtExit fuel (runText fuel (Text.Utf8.decodeLossy data) p).2
    | _ => p.withStatus 126

def runShell : (fuel : Nat) → List Bytes → Process → Process
  | 0, _, p => p.halt .waiting
  | fuel + 1, arguments, p =>
    match Utility.texts arguments with
    | "-c" :: script :: rest =>
      let zero := rest.headD p.zero
      runAtExit fuel (runText fuel script { p with zero := zero, arguments := arguments.drop 3 }).2
    | [] =>
      let (data, p) := Utility.input [] p
      if p.stop.isSome then p
      else runAtExit fuel (runText fuel (Text.Utf8.decodeLossy data) p).2
    | path :: _ =>
      if path.startsWith "-" && path.length > 1 then
        let letters := path.toList.drop 1
        let rest := arguments.drop 1
        runShell fuel (if letters.contains 'c' then Text.Utf8.encode "-c" :: rest else rest)
          (p.switch true letters)
      else
        match p.world.contentOf path with
        | .ok data =>
          runAtExit fuel (runText fuel (Text.Utf8.decodeLossy data)
            { p with zero := path, arguments := arguments.drop 1 }).2
        | .error .isDirectory => p.withStatus 0
        | .error e =>
          let reason := if e = .noEntry then "No such file" else e.reason
          (p.complain s!"{p.zero}: 0: cannot open {path}: {reason}\n").withStatus 2

end

end CommandAgent.Shell
