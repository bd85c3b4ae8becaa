/-!
# Arithmetic

The value of an expression over integers, as it stands between `$((` and `))`. Operators bind in ten
levels; a comparison is one or zero. An expression may set a variable, or choose between two others.
A variable's value may be no number, so looking it up may fail as well.
-/

namespace CommandAgent.Shell.Arithmetic

/-- The binary operators, from the loosest level to the tightest. -/
def levels : List (List String) :=
  [["||"], ["&&"], ["|"], ["^"], ["&"], ["==", "!="], ["<=", ">=", "<", ">"], ["<<", ">>"],
    ["+", "-"], ["*", "/", "%"]]

inductive Fault where
  /-- Something else had to stand where reading stopped. -/
  | expecting (what : String)
  | divisionByZero
  | illegalNumber (text : String)
deriving DecidableEq, Repr

def ofBool (b : Bool) : Int := if b then 1 else 0

def bitwise (f : UInt64 → UInt64 → UInt64) (a b : Int) : Int :=
  (f (Int64.ofInt a).toUInt64 (Int64.ofInt b).toUInt64).toInt64.toInt

def compute : String → Int → Int → Except Fault Int
  | "||", a, b => .ok (ofBool (a != 0 || b != 0))
  | "&&", a, b => .ok (ofBool (a != 0 && b != 0))
  | "==", a, b => .ok (ofBool (a == b))
  | "!=", a, b => .ok (ofBool (a != b))
  | "<=", a, b => .ok (ofBool (a ≤ b))
  | ">=", a, b => .ok (ofBool (a ≥ b))
  | "<", a, b => .ok (ofBool (a < b))
  | ">", a, b => .ok (ofBool (a > b))
  | "+", a, b => .ok (a + b)
  | "-", a, b => .ok (a - b)
  | "*", a, b => .ok (a * b)
  | "/", a, b => if b = 0 then .error .divisionByZero else .ok (Int.tdiv a b)
  | "%", a, b => if b = 0 then .error .divisionByZero else .ok (Int.tmod a b)
  | "<<", a, b => .ok (a * Nat.pow 2 (b % 64).toNat)
  | ">>", a, b => .ok (a >>> (b % 64).toNat)
  | "&", a, b => .ok (bitwise (· &&& ·) a b)
  | "|", a, b => .ok (bitwise (· ||| ·) a b)
  | "^", a, b => .ok (bitwise (· ^^^ ·) a b)
  | _, _, _ => .error (.expecting "EOF")

def skipBlanks (cs : List Char) : List Char :=
  cs.dropWhile fun c => c == ' ' || c == '\t' || c == '\n'

/-- Whether an operator goes on in what follows, so that it is another one. -/
def goesOn (operator : String) (next : Option Char) : Bool :=
  match operator, next with
  | "|", some '|' | "&", some '&' | "<", some '<' | ">", some '>' => true
  | "==", _ | "!=", _ | "<=", _ | ">=", _ => false
  | _, some '=' => true
  | _, _ => false

def operator? (level : List String) (cs : List Char) : Option (String × List Char) :=
  (level.find? fun o =>
    o.toList.isPrefixOf cs && !goesOn o (cs.drop o.length).head?).map fun o =>
      (o, cs.drop o.length)

def number (base : Nat) (digits : List Char) : Int :=
  digits.foldl
    (fun n c =>
      let d := if c.isDigit then c.toNat - 48 else c.toLower.toNat - 87
      n * base + d) 0

/-- The number at the front of a text that starts with a digit, and what follows it. -/
def literal (cs : List Char) : Int × List Char :=
  match cs with
  | '0' :: x :: rest =>
    if x = 'x' || x = 'X' then
      let isHex (c : Char) := c.isDigit || ('a' ≤ c.toLower && c.toLower ≤ 'f')
      (number 16 (rest.takeWhile isHex), rest.dropWhile isHex)
    else
      let isOctal (c : Char) := '0' ≤ c && c ≤ '7'
      (number 8 ((x :: rest).takeWhile isOctal), (x :: rest).dropWhile isOctal)
  | cs => (number 10 (cs.takeWhile Char.isDigit), cs.dropWhile Char.isDigit)

def inName (c : Char) : Bool := c.isAlphanum || c == '_'

mutual

/-- An expression of operators from the given levels, and what follows it. -/
def expression (value : String → Except Fault Int) : (fuel : Nat) → List (List String) →
    List Char → Except Fault (Int × List Char)
  | 0, _, _ => .error (.expecting "primary")
  | fuel + 1, [], cs => operand value fuel (skipBlanks cs)
  | fuel + 1, level :: tighter, cs => do
    let (a, rest) ← expression value fuel tighter cs
    further value fuel level tighter a rest

def further (value : String → Except Fault Int) : (fuel : Nat) → List String →
    List (List String) → Int → List Char → Except Fault (Int × List Char)
  | 0, _, _, _, _ => .error (.expecting "primary")
  | fuel + 1, level, tighter, a, cs =>
    match operator? level (skipBlanks cs) with
    | none => .ok (a, cs)
    | some (o, rest) => do
      let (b, rest) ← expression value fuel tighter rest
      further value fuel level tighter (← compute o a b) rest

/-- A choice between two expressions by a third, or just an expression. -/
def choice (value : String → Except Fault Int) : (fuel : Nat) → List Char →
    Except Fault (Int × List Char)
  | 0, _ => .error (.expecting "primary")
  | fuel + 1, cs => do
    let (a, rest) ← expression value fuel levels cs
    match skipBlanks rest with
    | '?' :: rest => do
      let (b, rest) ← choice value fuel rest
      match skipBlanks rest with
      | ':' :: rest => do
        let (c, rest) ← choice value fuel rest
        return (if a = 0 then c else b, rest)
      | _ => .error (.expecting "':'")
    | _ => .ok (a, rest)

/-- A number, a variable, a sign or an expression in brackets. -/
def operand (value : String → Except Fault Int) : (fuel : Nat) → List Char →
    Except Fault (Int × List Char)
  | 0, _ => .error (.expecting "primary")
  | fuel + 1, '(' :: cs => do
    let (a, rest) ← choice value fuel cs
    match skipBlanks rest with
    | ')' :: rest => .ok (a, rest)
    | _ => .error (.expecting "')'")
  | fuel + 1, '-' :: cs => do
    let (a, rest) ← operand value fuel (skipBlanks cs)
    return (-a, rest)
  | fuel + 1, '+' :: cs => operand value fuel (skipBlanks cs)
  | fuel + 1, '!' :: cs => do
    let (a, rest) ← operand value fuel (skipBlanks cs)
    return (ofBool (a == 0), rest)
  | fuel + 1, '~' :: cs => do
    let (a, rest) ← operand value fuel (skipBlanks cs)
    return (-a - 1, rest)
  | _ + 1, c :: cs =>
    if c.isDigit then .ok (literal (c :: cs))
    else
      let name := (c :: cs).takeWhile inName
      if name.isEmpty then .error (.expecting "primary")
      else do
        let a ← value (String.ofList name)
        return (a, (c :: cs).dropWhile inName)
  | _, [] => .error (.expecting "primary")

end

/-- The operators that set a variable, with what they compute from its old value. -/
def assignments : List (String × Option String) :=
  [("=", none), ("+=", some "+"), ("-=", some "-"), ("*=", some "*"), ("/=", some "/"),
    ("%=", some "%"), ("<<=", some "<<"), (">>=", some ">>"), ("&=", some "&"), ("|=", some "|"),
    ("^=", some "^")]

/-- The variable that an expression sets, with the operator and the expression for its value. -/
def assignment? (cs : List Char) : Option (String × Option String × List Char) :=
  let name := cs.takeWhile inName
  let rest := skipBlanks (cs.drop name.length)
  if name.isEmpty || (name.headD '0').isDigit || "==".toList.isPrefixOf rest then none
  else
    (assignments.find? fun a => a.1.toList.isPrefixOf rest).map fun a =>
      (String.ofList name, a.2, rest.drop a.1.length)

/-- The value of an expression and the variables that it sets. -/
def evaluateFrom (value : String → Except Fault Int) : (fuel : Nat) → List Char →
    Except Fault (Int × List (String × Int))
  | 0, _ => .error (.expecting "primary")
  | fuel + 1, cs =>
    let cs := skipBlanks cs
    match assignment? cs with
    | some (name, operator, rest) => do
      let (a, set) ← evaluateFrom value fuel rest
      let a ← match operator with
        | none => .ok a
        | some o => do compute o (← value name) a
      return (a, set ++ [(name, a)])
    | none => do
      let (a, rest) ← choice value (32 * cs.length + 32) cs
      if (skipBlanks rest).isEmpty then return (a, []) else throw (.expecting "EOF")

/-- The value of an expression and the variables that it sets; an empty one is zero. -/
def evaluate (value : String → Except Fault Int) (text : String) :
    Except Fault (Int × List (String × Int)) :=
  if (skipBlanks text.toList).isEmpty then .ok (0, [])
  else evaluateFrom value (text.length + 1) text.toList

end CommandAgent.Shell.Arithmetic
