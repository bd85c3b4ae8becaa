import CommandAgent.Host.World
import CommandAgent.Shell.Syntax

/-!
# Running programs

The state of a program that runs: the files it sees, its variables and arguments, where its input
comes from and where its output goes. What it writes is kept with the time of writing, so that a
terminal can show it in order; the lines that are typed at a terminal come with their times as well,
and a program that asks for a line that has not been typed yet is stopped there.
-/

namespace CommandAgent.Shell

inductive Sink where
  /-- The output of the program as a whole. -/
  | main
  | file (place : Place)
  /-- The text that a surrounding command waits for. -/
  | capture
  | nothing
deriving DecidableEq, Repr

inductive Source where
  | nothing
  /-- The bytes of a file or of another program. -/
  | bytes (data : Bytes)
  | terminal
deriving DecidableEq, Repr

/-- Why a program goes no further. -/
inductive Stop where
  | killed (process signal : Nat)
  /-- It gave up, with its status. -/
  | left (process : Nat)
  /-- It waits for a line of the terminal, or never ends. -/
  | waiting
deriving DecidableEq, Repr

/-- What a program does to a terminal. -/
inductive Action where
  | wrote (data : Bytes)
  | echo (on : Bool)
deriving Repr

structure Typed where
  time : Nat
  /-- The line without its end. -/
  line : Bytes
  /-- Whether the line has an end; the end of the input cuts it off. -/
  ended : Bool
deriving Repr

/-- The size of a terminal from a time on. -/
structure Sized where
  time : Nat
  columns : UInt16
  rows : UInt16
deriving Repr

structure Options where
  /-- A command that fails ends the script. -/
  exitOnFailure : Bool := false
  /-- A parameter that is unset ends the script. -/
  demandSet : Bool := false
  /-- Commands are shown before they run. -/
  trace : Bool := false
deriving DecidableEq, Repr

structure Process where
  world : World
  /-- The variables with their values. -/
  values : List (String × Bytes)
  exported : List String := []
  zero : String := "sh"
  arguments : List Bytes := []
  status : Nat := 0
  identity : Nat := 1
  started : Nat := 1
  clock : Nat := 0
  /-- What was done, the latest first. -/
  actions : List (Nat × Action) := []
  typed : List Typed := []
  sizes : List Sized := []
  source : Source := .nothing
  out : Sink := .main
  err : Sink := .main
  /-- What was written to the innermost capture, the latest first. -/
  captured : List Bytes := []
  /-- The line of the command at hand. -/
  line : Nat := 1
  options : Options := {}
  /-- Whether the command at hand is a condition, so that it may fail. -/
  tested : Bool := false
  functions : List (String × Phrase) := []
  /-- The variables that keep their values. -/
  frozen : List String := []
  /-- How many loops are at hand. -/
  loops : Nat := 0
  /-- The descriptors beyond those of output and error output. -/
  others : List (Nat × Sink) := []
  /-- The permissions that new files go without. -/
  mask : Nat := 18
  /-- The variables of the functions at hand, with their values outside. -/
  locals : List (String × Option Bytes) := []
  /-- How many functions are at hand. -/
  depth : Nat := 0
  /-- What is run at the end. -/
  atExit : Option String := none
  /-- What is run when a signal comes; a signal with an empty script is ignored. -/
  traps : List (Nat × String) := []
  stop : Option Stop := none
deriving Repr

namespace Process

def writeTo (p : Process) (sink : Sink) (data : Bytes) : Process :=
  if data.isEmpty then p
  else
    match sink with
    | .main => { p with actions := (p.clock, .wrote data) :: p.actions }
    | .capture => { p with captured := data :: p.captured }
    | .nothing => p
    | .file place =>
      match p.world.files.node? place with
      | some (.file old x) =>
        { p with world.files := p.world.files.set place (.file (old ++ data) x) }
      | _ => p

def write (p : Process) (data : Bytes) : Process := p.writeTo p.out data

def say (p : Process) (text : String) : Process := p.write (Text.Utf8.encode text)

def complain (p : Process) (text : String) : Process := p.writeTo p.err (Text.Utf8.encode text)

def withStatus (p : Process) (n : Nat) : Process := { p with status := n }

/-- The process stopped; the first reason stays. -/
def halt (p : Process) (s : Stop) : Process := { p with stop := p.stop.or (some s) }

def get? (p : Process) (name : String) : Option Bytes :=
  (p.values.find? (·.1 = name)).map (·.2)

def set (p : Process) (name : String) (value : Bytes) : Process :=
  let values :=
    if p.values.any (·.1 = name) then
      p.values.map fun e => if e.1 = name then (name, value) else e
    else p.values ++ [(name, value)]
  { p with values := values }

def unset (p : Process) (name : String) : Process :=
  { p with values := p.values.filter (·.1 ≠ name) }

def sleep (p : Process) (milliseconds : Nat) : Process :=
  { p with clock := p.clock + milliseconds }

/-- The size of the terminal now. -/
def size? (p : Process) : Option Sized := (p.sizes.filter (·.time ≤ p.clock)).getLast?

/-- The first line of some bytes, with whether it ended, and the rest. -/
def splitLine : Bytes → Bytes × Bool × Bytes
  | [] => ([], false, [])
  | b :: bs =>
    if b = 10 then ([], true, bs)
    else
      let (line, ended, rest) := splitLine bs
      (b :: line, ended, rest)

/-- Read a line: the line and whether its end was there. At a terminal the process waits until the
line is typed. -/
def readLine (p : Process) : Option (Bytes × Bool) × Process :=
  match p.source with
  | .nothing => (some ([], false), p)
  | .bytes data =>
    let (line, ended, rest) := splitLine data
    (some (line, ended), { p with source := .bytes rest })
  | .terminal =>
    match p.typed with
    | [] => (none, p.halt .waiting)
    | t :: rest =>
      (some (t.line, t.ended), { p with typed := rest, clock := max p.clock t.time })

/-- All lines up to the end of input, each written to the output as it comes. -/
def copyLines : (fuel : Nat) → Process → Process
  | 0, p => p.halt .waiting
  | fuel + 1, p =>
    match p.readLine with
    | (none, p) => p
    | (some (line, true), p) => copyLines fuel (p.write (line ++ [10]))
    | (some (line, false), p) => p.write line

def output (p : Process) : Bytes :=
  (p.actions.reverse.map fun (_, a) =>
    match a with
    | .wrote data => data
    | .echo _ => []).flatten

end Process
end CommandAgent.Shell
