import CommandAgent.Terminal.Console
import CommandAgent.Terminal.Discipline
import CommandAgent.Terminal.Spawn

/-!
# Terminals

A terminal with a program on it. The program is a function of what has been typed so far: it is run
again from its start whenever its actions are needed, and what it did before the last key was typed
comes out the same. Each action has its time, so the terminal can put the program's output and the
echo of the keys into one stream: at every use the actions that are due are settled, and only then
does the use take effect.
-/

namespace CommandAgent

open Terminal Shell

structure Terminal where
  started : Started
  session : Session := {}
  /-- The line that is being typed. -/
  line : Line := {}
  /-- The lines that have been typed. -/
  typed : List Typed := []
  /-- The column in which the output so far ends. -/
  column : Nat := 0
  /-- The sizes the terminal has had. -/
  sizes : List Sized
  /-- How many of the program's actions are settled. -/
  settled : Nat := 0
  /-- Portions that have come and have not been asked for, each with its time. -/
  unread : List (Nat × Bytes) := []
  echoes : Bool := true
  /-- When the program was killed, by closing the terminal or by a key. -/
  killed : Option Nat := none

namespace Terminal

def launch (program : String) (arguments : List String) (columns rows : UInt16) (w : World) :
    Except Fault Terminal :=
  match start program arguments w with
  | .error reason => .error (.spawn program reason)
  | .ok s => .ok { started := s, sizes := [⟨w.clock, columns, rows⟩] }

/-! ### The program -/

/-- The program as far as it goes with what has been typed. -/
def process (t : Terminal) : Process := t.started.run t.typed t.sizes

/-- The exit code of a program that a signal ended. -/
def signalCode : Nat := 1

/-- When the program ended of itself, and its exit code. -/
def ownEnd? (p : Process) : Option (Nat × Nat) :=
  match p.stop with
  | some .waiting => none
  | some (.killed ..) => some (p.clock, signalCode)
  | some (.left _) | none => some (p.clock, p.status % 256)

def ended? (t : Terminal) : Option (Nat × Nat) :=
  match ownEnd? t.process, t.killed with
  | some (time, code), some cut => if time ≤ cut then some (time, code) else some (cut, signalCode)
  | some e, none => some e
  | none, some cut => some (cut, signalCode)
  | none, none => none

/-- What the program does that has not been settled. -/
def pending (t : Terminal) : List (Nat × Action) :=
  let actions := match t.killed with
    | none => t.process.actions.reverse
    | some cut => t.process.actions.reverse.filter fun a => a.1 ≤ cut
  actions.drop t.settled

/-! ### Settling what is due -/

def portionsOf : Nat × Action → List (Nat × Bytes)
  | (time, .wrote data) => (chunks (cooked data)).map fun c => (time, c)
  | (_, .echo _) => []

def echoesAfter (before : Bool) : Nat × Action → Bool
  | (_, .wrote _) => before
  | (_, .echo on) => on

/-- Settle all actions up to a time, and take note of the program's end. -/
def settle (now : Nat) (t : Terminal) : Terminal :=
  let due := t.pending.takeWhile fun a => a.1 ≤ now
  let session := match t.ended? with
    | some (time, code) =>
      if time ≤ now && !t.session.exited then t.session.watch (some code) else t.session
    | none => t.session
  { t with
    session := session
    settled := t.settled + due.length
    unread := t.unread ++ due.flatMap portionsOf
    column := (due.flatMap portionsOf).foldl (fun column p => columnAfter column p.2) t.column
    echoes := due.foldl echoesAfter t.echoes }

/-! ### Use -/

/-- The portions that will come, with their times. -/
def timed (t : Terminal) : List (Nat × Bytes) := t.unread ++ t.pending.flatMap portionsOf

/-- The portions that will come. -/
def upcoming (t : Terminal) : List Bytes := t.timed.map (·.2)

/-- Ask for portions. To ask for more than will come is to wait for the end of the program. -/
def advance (n : Nat) (t : Terminal) (w : World) : Terminal × World :=
  let last := if n ≤ t.timed.length then (t.timed[n - 1]?).map (·.1) else t.ended?.map (·.1)
  let w := { w with clock := max w.clock (last.getD 0) }
  let t := t.settle w.clock
  ({ t with unread := t.unread.drop n }, w)

def write (data : Bytes) (t : Terminal) (w : World) : Except Fault Nat × Terminal :=
  let t := t.settle w.clock
  match t.session.use with
  | .error e => (.error e, t)
  | .ok _ =>
    let effect := t.line.pressAll t.echoes t.column data
    let ends := effect.signals.any endsProgram
    (.ok data.length,
      { t with
        line := effect.line
        typed := t.typed ++ effect.lines.map fun (line, ended) => ⟨w.clock, line, ended⟩
        column := columnAfter t.column effect.shown
        unread := t.unread ++ (chunks effect.shown).map fun c => (w.clock, c)
        killed := t.killed.or (if ends then some w.clock else none) })

def resize (columns rows : UInt16) (t : Terminal) (w : World) : Except Fault Unit × Terminal :=
  let t := t.settle w.clock
  match t.session.use with
  | .error e => (.error e, t)
  | .ok _ => (.ok (), { t with sizes := t.sizes ++ [⟨w.clock, columns, rows⟩] })

/-- Close the terminal; a program that still runs is killed. -/
def close (t : Terminal) (w : World) : Terminal :=
  let t := t.settle w.clock
  if t.session.exited then t
  else { t with session := t.session.close, killed := t.killed.or (some w.clock) }

def waitExit (t : Terminal) (w : World) : Terminal × World :=
  let w := { w with clock := max w.clock ((t.ended?.map (·.1)).getD 0) }
  (t.settle w.clock, w)

def console : Console Terminal := ⟨launch, upcoming, advance, write, close⟩

end Terminal
end CommandAgent
