import CommandAgent.Shell.Format
import CommandAgent.Shell.Pattern

/-!
# Filters

What the programs that read lines and write lines do to their input: choosing lines by a pattern,
exchanging characters, cutting out fields, sorting. Everything is on bytes; a pattern sees each byte
as the character of that number.
-/

namespace CommandAgent.Shell.Filter

def byteChars (data : Bytes) : List Char := data.map fun b => Char.ofNat b.toNat

/-- Characters as bytes of the same number. -/
def charBytes (cs : List Char) : Bytes := cs.map fun c => UInt8.ofNat c.toNat

/-- The lines of some bytes, each without its end. -/
def linesOf : Bytes → List Bytes
  | [] => []
  | b :: bs =>
    if b = 10 then [] :: linesOf bs
    else
      match linesOf bs with
      | line :: rest => (b :: line) :: rest
      | [] => [[b]]

/-- Lines with their ends. -/
def joined (lines : List Bytes) : Bytes := lines.flatMap (· ++ [10])

/-! ### Exchanging characters -/

/-- The bytes between two, both included. -/
def range (a b : UInt8) : Bytes :=
  (List.range (b.toNat + 1 - a.toNat)).map fun i => UInt8.ofNat (a.toNat + i)

def classes : List (String × Bytes) :=
  [("[:upper:]", range 65 90), ("[:lower:]", range 97 122), ("[:digit:]", range 48 57),
    ("[:alpha:]", range 65 90 ++ range 97 122),
    ("[:alnum:]", range 48 57 ++ range 65 90 ++ range 97 122),
    ("[:space:]", range 9 13 ++ [32]), ("[:blank:]", [9, 32]), ("[:cntrl:]", range 0 31 ++ [127]),
    ("[:punct:]", range 33 47 ++ range 58 64 ++ range 91 96 ++ range 123 126),
    ("[:print:]", range 32 126), ("[:graph:]", range 33 126)]

def set : (fuel : Nat) → Bytes → Bytes
  | 0, _ => []
  | _, [] => []
  | fuel + 1, b :: bs =>
    match classes.find? fun c => (Format.ofText c.1).isPrefixOf (b :: bs) with
    | some c => c.2 ++ set fuel ((b :: bs).drop c.1.length)
    | none =>
      let (first, rest) := single b bs
      match rest with
      | 45 :: e :: more =>
        let (last, more) := single e more
        range first last ++ set fuel more
      | rest => first :: set fuel rest
where
  /-- One character, perhaps behind a backslash. -/
  single (b : UInt8) (bs : Bytes) : UInt8 × Bytes :=
    if b = 92 then
      let digits := (bs.take 3).takeWhile Format.isOctal
      if digits.isEmpty then
        match bs with
        | e :: rest => ((Format.escape? e).getD e, rest)
        | [] => (b, [])
      else (Format.octal digits, bs.drop digits.length)
    else (b, bs)

/-- A character exchanged for the one at its place in another set, whose last one goes on. -/
def exchange (source target : Bytes) (b : UInt8) : UInt8 :=
  match source.reverse.idxOf? b with
  | none => b
  | some i => (target[source.length - 1 - i]?).getD (target.getLast?.getD b)

/-- Repetitions of the same character of a set left out. -/
def squeeze (repeated : Bytes) : Bytes → Bytes
  | a :: b :: bs =>
    if a = b && repeated.contains a then squeeze repeated (b :: bs)
    else a :: squeeze repeated (b :: bs)
  | bs => bs

/-- What `tr` makes of its input. -/
def exchangeBytes (flags : List Char) (sets : List Bytes) (data : Bytes) : Bytes :=
  let expand (s : Bytes) := set (s.length + 1) s
  let first := expand (sets.headD [])
  let first := if flags.contains 'c' || flags.contains 'C' then
    (range 0 255).filter (!first.contains ·) else first
  let second := expand ((sets.drop 1).headD [])
  if flags.contains 'd' then
    let kept := data.filter (!first.contains ·)
    if flags.contains 's' then squeeze second kept else kept
  else if flags.contains 's' then
    if second.isEmpty then squeeze first data
    else squeeze second (data.map (exchange first second))
  else data.map (exchange first second)

/-! ### Choosing lines -/

/-- The alternatives of a pattern. -/
def alternatives (extended : Bool) : (fuel : Nat) → List Char → List (List Char)
  | 0, _ => [[]]
  | _, [] => [[]]
  | fuel + 1, '\\' :: '|' :: cs =>
    if extended then prepend ['\\', '|'] (alternatives extended fuel cs)
    else [] :: alternatives extended fuel cs
  | fuel + 1, '\\' :: c :: cs => prepend ['\\', c] (alternatives extended fuel cs)
  | fuel + 1, c :: cs =>
    if c = '|' && extended then [] :: alternatives extended fuel cs
    else prepend [c] (alternatives extended fuel cs)
where
  /-- Characters in front of the first alternative. -/
  prepend (front : List Char) : List (List Char) → List (List Char)
    | a :: rest => (front ++ a) :: rest
    | [] => [front]

/-- Whether a pattern matches somewhere in a line. -/
def occurs (regex : List Regex) : (atStart : Bool) → List Char → Bool
  | atStart, [] => (Regex.longest atStart regex []).isSome
  | atStart, c :: cs => (Regex.longest atStart regex (c :: cs)).isSome || occurs regex false cs

def holds (text : List Char) : List Char → Bool
  | [] => text.isEmpty
  | c :: cs => text.isPrefixOf (c :: cs) || holds text cs

def chooses (flags : List Char) (pattern line : Bytes) : Bool :=
  let fold (cs : List Char) := if flags.contains 'i' then cs.map Char.toLower else cs
  let pattern := fold (byteChars pattern)
  let line := fold (byteChars line)
  let whole (p : List Char) := if flags.contains 'x' then '^' :: p ++ ['$'] else p
  let found :=
    if flags.contains 'F' then
      if flags.contains 'x' then pattern == line else holds pattern line
    else
      (alternatives (flags.contains 'E') (pattern.length + 1) pattern).any fun p =>
        occurs (Regex.parse (p.length * 4 + 9) true (whole p)) true line
  found != flags.contains 'v'

/-! ### Editing lines -/

/-- The lines that a rule of the stream editor is for. -/
inductive Address where
  | every
  | line (number : Nat)
  | last
  | matching (regex : List Regex)
deriving Repr

/-- What a rule does to a line. -/
inductive Action where
  | substitute (regex : List Regex) (replacement flags : List Char)
  | delete
  | print
  | quit
deriving Repr

structure Rule where
  address : Address
  negated : Bool
  action : Action
deriving Repr

/-- The text up to a delimiter that is not escaped, and what follows it. -/
def upTo (d : Char) : (fuel : Nat) → List Char → List Char × List Char
  | 0, _ => ([], [])
  | _, [] => ([], [])
  | fuel + 1, '\\' :: c :: cs =>
    let (a, b) := upTo d fuel cs
    if c = d then (c :: a, b) else ('\\' :: c :: a, b)
  | fuel + 1, c :: cs =>
    if c = d then ([], cs)
    else
      let (a, b) := upTo d fuel cs
      (c :: a, b)

def regexOf (cs : List Char) : List Regex := Regex.parse (cs.length * 4 + 1) true cs

def address (cs : List Char) : Address × List Char :=
  match cs with
  | '$' :: rest => (.last, rest)
  | '/' :: rest =>
    let (pattern, rest) := upTo '/' (rest.length + 1) rest
    (.matching (regexOf pattern), rest)
  | cs =>
    let digits := cs.takeWhile Char.isDigit
    if digits.isEmpty then (.every, cs)
    else (.line ((String.ofList digits).toNat?.getD 0), cs.drop digits.length)

def action? : List Char → Option (Action × List Char)
  | 's' :: d :: cs =>
    let (pattern, rest) := upTo d (cs.length + 1) cs
    let (replacement, rest) := upTo d (rest.length + 1) rest
    let flags := rest.takeWhile Char.isAlphanum
    some (.substitute (regexOf pattern) replacement flags, rest.drop flags.length)
  | 'd' :: cs => some (.delete, cs)
  | 'p' :: cs => some (.print, cs)
  | 'q' :: cs => some (.quit, cs)
  | _ => none

/-- The rules of a script, or the first character that makes no sense. -/
def rules : (fuel : Nat) → List Char → Except Char (List Rule)
  | 0, _ => .ok []
  | _, [] => .ok []
  | fuel + 1, c :: cs =>
    if c = ' ' || c = ';' || c = '\n' then rules fuel cs
    else
      let (a, rest) := address (c :: cs)
      let rest := rest.dropWhile (· == ' ')
      let (negated, rest) := match rest with
        | '!' :: rest => (true, rest)
        | rest => (false, rest)
      match action? rest with
      | some (action, rest) => do return ⟨a, negated, action⟩ :: (← rules fuel rest)
      | none => .error (rest.headD c)

/-- A line at hand: its text, what has been printed, and how to go on. -/
structure Edited where
  line : List Char
  printed : List (List Char) := []
  deleted : Bool := false
  stopped : Bool := false

def Rule.applies (r : Rule) (number : Nat) (isLast : Bool) (line : List Char) : Bool :=
  let addressed := match r.address with
    | .every => true
    | .line n => n == number
    | .last => isLast
    | .matching regex => occurs regex true line
  addressed != r.negated

def Rule.apply (number : Nat) (isLast : Bool) (e : Edited) (r : Rule) : Edited :=
  if e.deleted || e.stopped || !r.applies number isLast e.line then e
  else
    match r.action with
    | .substitute regex replacement flags =>
      let changed :=
        Regex.replace regex replacement (flags.contains 'g') (e.line.length + 1) true e.line
      let printed := if flags.contains 'p' && changed != e.line then [changed] else []
      { e with line := changed, printed := e.printed ++ printed }
    | .delete => { e with deleted := true }
    | .print => { e with printed := e.printed ++ [e.line] }
    | .quit => { e with stopped := true }

def edit (quiet : Bool) (rs : List Rule) : (number : Nat) → List Bytes → List Bytes
  | _, [] => []
  | number, line :: rest =>
    let e := rs.foldl (Rule.apply number rest.isEmpty) { line := byteChars line }
    let shown := e.printed ++ if quiet || e.deleted then [] else [e.line]
    shown.map charBytes ++ if e.stopped then [] else edit quiet rs (number + 1) rest

/-! ### Cutting -/

/-- The ranges of a list such as `1,3-5,7-`. -/
def ranges (text : String) : List (Nat × Option Nat) :=
  (text.splitOn ",").map fun part =>
    match part.splitOn "-" with
    | [a] => (a.toNat?.getD 0, some (a.toNat?.getD 0))
    | [a, b] => (a.toNat?.getD 1, b.toNat?)
    | _ => (0, some 0)

/-- Whether a number, counted from one, is in a list of ranges. -/
def inRanges (rs : List (Nat × Option Nat)) (n : Nat) : Bool :=
  rs.any fun (a, b) => a ≤ n && b.all fun b => decide (n ≤ b)

/-- The elements whose numbers, counted from one, are in a list of ranges. -/
def pick {α : Type} (rs : List (Nat × Option Nat)) (xs : List α) : List α :=
  ((List.range xs.length).zip xs).filterMap fun (i, x) =>
    if inRanges rs (i + 1) then some x else none

/-- The fields of a line; a line without the separator stays whole. -/
def cutFields (separator : UInt8) (rs : List (Nat × Option Nat)) (line : Bytes) : Bytes :=
  if line.contains separator then
    List.intercalate [separator] (pick rs (line.splitOn separator))
  else line

/-! ### Order -/

/-- Whether one text comes before another or is the same, byte by byte. -/
def precedes : Bytes → Bytes → Bool
  | [], _ => true
  | _ :: _, [] => false
  | a :: as, b :: bs => a < b || (a == b && precedes as bs)

/-- Whether one line comes before another by the numbers at their fronts. -/
def precedesNumerically (a b : Bytes) : Bool :=
  let x := Format.integer (a.dropWhile (· = 32))
  let y := Format.integer (b.dropWhile (· = 32))
  x < y || (x == y && precedes a b)

/-- Lines without those that are the same as the one before, each with how often it came. -/
def runs : List Bytes → List (Nat × Bytes)
  | [] => []
  | a :: rest =>
    match runs rest with
    | (n, b) :: more => if a = b then (n + 1, b) :: more else (1, a) :: (n, b) :: more
    | [] => [(1, a)]

def sort (flags : List Char) (lines : List Bytes) : List Bytes :=
  let before := if flags.contains 'n' then precedesNumerically else precedes
  let sorted := lines.mergeSort before
  let sorted := if flags.contains 'r' then sorted.reverse else sorted
  if flags.contains 'u' then (runs sorted).map (·.2) else sorted

/-! ### Counting -/

def countWords (data : Bytes) : Nat :=
  let blank (b : UInt8) := b = 32 || (9 ≤ b && b ≤ 13)
  ((data.zip (32 :: data)).filter fun (b, before) => !blank b && blank before).length

/-- A number at the right end of a column. -/
def column (width n : Nat) : String :=
  let digits := toString n
  String.ofList (List.replicate (width - digits.length) ' ') ++ digits

end CommandAgent.Shell.Filter
