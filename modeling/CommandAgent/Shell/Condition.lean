import CommandAgent.Host.World

/-!
# Conditions

What stands between the brackets of a test: comparisons of texts and numbers, and questions about
files.
-/

namespace CommandAgent.Shell.Condition

def natural? (cs : List Char) : Option Nat :=
  if cs.isEmpty || !cs.all Char.isDigit then none
  else some (cs.foldl (fun n c => n * 10 + (c.toNat - 48)) 0)

def integer? (s : String) : Option Int :=
  match s.toList.dropWhile (· == ' ') with
  | '-' :: cs => (natural? cs).map fun n => -(n : Int)
  | '+' :: cs => (natural? cs).map Int.ofNat
  | cs => (natural? cs).map Int.ofNat

/-- A question about one text. -/
def unary? (w : World) : String → String → Option Bool
  | "-z", a => some a.isEmpty
  | "-n", a => some !a.isEmpty
  | "-e", a => some (node w a).isSome
  | "-f", a => some ((node w a).any Node.isFile)
  | "-d", a => some (node w a == some .directory)
  | "-h", a | "-L", a => some (isLink w a)
  | "-x", a => some ((node w a).any fun n => n.isExecutable || n == .directory)
  | "-r", a | "-w", a => some (node w a).isSome
  | "-s", a => some ((w.contentOf a).toOption.any fun d => !d.isEmpty)
  | "-t", _ => some false
  | _, _ => none
where
  /-- What a path names. -/
  node (w : World) (path : String) : Option Node := (w.files.stat w.cwd path).toOption
  /-- Whether a path names a link. -/
  isLink (w : World) (path : String) : Bool :=
    match w.files.statSelf w.cwd path with
    | .ok (.link _) => true
    | _ => false

/-- A comparison of two texts; `none` if it is none, an error if a number is wanted. -/
def binary? (a operator b : String) : Option (Except String Bool) :=
  let numbers (f : Int → Int → Bool) : Option (Except String Bool) :=
    some <|
      match integer? a, integer? b with
      | some x, some y => .ok (f x y)
      | none, _ => .error s!"Illegal number: {a}"
      | _, none => .error s!"Illegal number: {b}"
  match operator with
  | "=" | "==" => some (.ok (a == b))
  | "!=" => some (.ok (a != b))
  | "-eq" => numbers (· == ·)
  | "-ne" => numbers (· != ·)
  | "-lt" => numbers (decide <| · < ·)
  | "-le" => numbers (decide <| · ≤ ·)
  | "-gt" => numbers (decide <| · > ·)
  | "-ge" => numbers (decide <| · ≥ ·)
  | _ => none

def single (w : World) : List String → Except String Bool
  | [] => .ok false
  | [a] => .ok !a.isEmpty
  | ["!", a] => .ok a.isEmpty
  | [o, a] =>
    match unary? w o a with
    | some b => .ok b
    | none => .error s!"{o}: unexpected operator"
  | [a, o, b] =>
    match binary? a o b with
    | some r => r
    | none =>
      if o = "-a" then .ok (!a.isEmpty && !b.isEmpty)
      else if o = "-o" then .ok (!a.isEmpty || !b.isEmpty)
      else if a = "!" then (single w [o, b]).map (!·)
      else .error s!"{o}: unexpected operator"
  | "!" :: rest => (single w rest).map (!·)
  | a :: _ => .error s!"{a}: unexpected operator"
termination_by arguments => arguments.length

def partsBetween (separator : String) : List String → List (List String)
  | [] => [[]]
  | a :: rest =>
    match partsBetween separator rest with
    | part :: parts => if a = separator then [] :: part :: parts else (a :: part) :: parts
    | [] => [[a]]

/-- The truth of a condition, or what is wrong with it. Conditions are joined by `-o`, and more
tightly by `-a`. -/
def evaluate (w : World) (arguments : List String) : Except String Bool := do
  if arguments.length ≤ 3 then single w arguments
  else
    let either ← (partsBetween "-o" arguments).mapM fun part => do
      return (← (partsBetween "-a" part).mapM (single w)).all id
    return either.any id

end CommandAgent.Shell.Condition
