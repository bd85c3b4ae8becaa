import CommandAgent.Host.Base

/-!
# The line discipline

What a terminal does to the bytes that pass through it. Output gets a carriage return before each
line end. Input is kept back until its line is complete, may be edited meanwhile, and is shown as it
comes unless the echo is off.
-/

namespace CommandAgent.Terminal

/-- Output as it arrives at the other end. -/
def cooked (data : Bytes) : Bytes := data.flatMap fun b => if b = 10 then [13, 10] else [b]

/-- What is read at once. -/
def portion : Nat := 1024

def portions : (fuel : Nat) → Bytes → List Bytes
  | 0, _ => []
  | fuel + 1, data =>
    if data.isEmpty then [] else data.take portion :: portions fuel (data.drop portion)

def chunks (data : Bytes) : List Bytes := portions (data.length + 1) data

/-- The column behind some output that starts in a column. -/
def columnAfter (column : Nat) (shown : Bytes) : Nat :=
  shown.foldl
    (fun column b =>
      if b = 10 || b = 13 then 0
      else if b = 9 then column + (8 - column % 8)
      else if b = 8 then column - 1
      else if b < 32 || b = 127 then column
      else column + 1)
    column

/-! ### Keys -/

/-- The longest line; what is typed beyond it is lost. -/
def maxLine : Nat := 4095

/-- What an input byte means. -/
inductive Key where
  | text (b : UInt8)
  | lineEnd
  | inputEnd
  | erase
  | eraseWord
  | eraseLine
  /-- The next byte stands for itself. -/
  | quote
  /-- Show the line again. -/
  | reprint
  /-- Hold the output back, or let it go on. -/
  | flow
  /-- A signal for the program. -/
  | signal (number : Nat)
deriving DecidableEq, Repr

/-- The key of a byte. A line is shown again only where keys are shown at all. -/
def Key.ofByte (echoes : Bool) (b : UInt8) : Key :=
  if b = 10 || b = 13 then lineEnd
  else if b = 4 then inputEnd
  else if b = 127 then erase
  else if b = 23 then eraseWord
  else if b = 21 then eraseLine
  else if b = 22 then quote
  else if b = 18 && echoes then reprint
  else if b = 17 || b = 19 then flow
  else if b = 3 then signal 2
  else if b = 28 then signal 3
  else if b = 26 then signal 20
  else text b

def endsProgram (signal : Nat) : Bool := signal == 2 || signal == 3

/-- Whether a byte belongs to a word. Of the bytes beyond ASCII those do that are letters in the
Latin alphabet number one. -/
def isWordByte (b : UInt8) : Bool :=
  (48 ≤ b && b ≤ 57) || (65 ≤ b && b ≤ 90) || (97 ≤ b && b ≤ 122) || b == 95
    || (192 ≤ b && b != 215 && b != 247)

/-! ### What is shown -/

/-- A byte as it is shown: a control character by a caret and a letter. -/
def visible (b : UInt8) : Bytes :=
  if (b < 32 && b != 9) || b = 127 then [94, b ^^^ 64] else [b]

/-- How many columns bytes without a tab cover. -/
def covered (bs : Bytes) : Nat := (bs.flatMap visible).length

/-- What wipes the last byte; `before` are the bytes before it, the last one first, the first of
which stands in the column `start`. A tab is left by going back as far as it reached. -/
def wipeByte (start : Nat) (before : Bytes) (b : UInt8) : Bytes :=
  if b = 9 then
    let column := covered (before.takeWhile (· != 9)) + if before.contains 9 then 0 else start
    List.replicate (8 - column % 8) 8
  else (visible b).flatMap fun _ => [8, 32, 8]

/-- What wipes the last bytes of a line, the last one first. -/
def wipe (start : Nat) : (count : Nat) → Bytes → Bytes
  | count + 1, b :: before => wipeByte start before b ++ wipe start count before
  | _, _ => []

/-! ### The line that is typed -/

structure Line where
  /-- What was handed over early and can no longer be edited, the last byte first. -/
  sent : Bytes := []
  /-- What can be edited, the last byte first. -/
  typed : Bytes := []
  /-- The column in which the part that can be edited starts. -/
  start : Nat := 0
  /-- Whether the next byte stands for itself. -/
  quoted : Bool := false
deriving DecidableEq, Repr

/-- What keys bring about. -/
structure Effect where
  /-- The line as it is now. -/
  line : Line
  /-- What is shown for the keys. -/
  shown : Bytes := []
  /-- The lines that are complete, and whether each has its end; the last may be cut off by the end
  of the input. -/
  lines : List (Bytes × Bool) := []
  signals : List Nat := []
deriving Repr

namespace Line

/-- All bytes of the line in the order in which they were typed. -/
def bytes (l : Line) : Bytes := l.sent.reverse ++ l.typed.reverse

/-- The line with a byte that stands for itself, typed in a column. -/
def add (l : Line) (column : Nat) (b : UInt8) : Line :=
  { l with
    typed := b :: l.typed
    start := if l.typed.isEmpty then column else l.start
    quoted := false }

/-- Take bytes off from the end. -/
def takeOff (l : Line) (count : Nat) : Effect :=
  { line := { l with typed := l.typed.drop count }, shown := wipe l.start count l.typed }

/-- How many bytes the key that erases a word takes off: the last word with what stands
behind it. -/
def lastWord (l : Line) : Nat :=
  l.typed.length - ((l.typed.dropWhile (!isWordByte ·)).dropWhile isWordByte).length

/-- The lines that a complete line consists of; line ends that stand for themselves split it. -/
def pieces (l : Line) (ended : Bool) : List (Bytes × Bool) :=
  let parts := (l.bytes.take maxLine).splitOn 10
  parts.dropLast.map (·, true) ++ [(parts.getLastD [], ended)]

/-- What a key brings about, if it is shown. -/
def press (l : Line) (echoes : Bool) (column : Nat) (b : UInt8) : Effect :=
  if l.quoted then { line := l.add column b, shown := visible b }
  else
    match Key.ofByte echoes b with
    | .text b => { line := l.add column b, shown := visible b }
    | .lineEnd => { line := {}, shown := [13, 10], lines := l.pieces true }
    | .inputEnd =>
      if l.typed.isEmpty then { line := {}, lines := l.pieces false }
      else { line := { sent := l.typed ++ l.sent } }
    | .erase => l.takeOff 1
    | .eraseWord => l.takeOff l.lastWord
    | .eraseLine => l.takeOff l.typed.length
    | .quote => { line := { l with quoted := true }, shown := [94, 8] }
    | .reprint => { line := l, shown := visible b ++ [13, 10] ++ l.typed.reverse.flatMap visible }
    | .flow => { line := l }
    | .signal n => { line := {}, shown := visible b, signals := [n] }

/-- What keys bring about, one after the other; the output so far ends in a column. -/
def pressAll (echoes : Bool) : (column : Nat) → Line → Bytes → Effect
  | _, l, [] => { line := l }
  | column, l, b :: bs =>
    let first := l.press echoes column b
    let shown := if echoes then first.shown else []
    let rest := pressAll echoes (columnAfter column shown) first.line bs
    { line := rest.line
      shown := shown ++ rest.shown
      lines := first.lines ++ rest.lines
      signals := first.signals ++ rest.signals }

end Line
end CommandAgent.Terminal
