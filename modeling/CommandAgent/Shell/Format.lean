import CommandAgent.Number.Binary64
import CommandAgent.Text.Utf8
import CommandAgent.Host.Environment

/-!
# Formatted output

What `echo` and `printf` write. Both know escapes, that is a backslash with a letter or with octal
digits; `printf` repeats its format as long as there are arguments.
-/

namespace CommandAgent.Shell.Format

def ofText (s : String) : Bytes := Text.Utf8.encode s

def isOctal (b : UInt8) : Bool := 48 ≤ b && b ≤ 55

def octal (digits : Bytes) : UInt8 :=
  UInt8.ofNat ((digits.foldl (fun n d => n * 8 + (d.toNat - 48)) 0) % 256)

/-- The byte that a letter behind a backslash stands for. -/
def escape? (b : UInt8) : Option UInt8 :=
  match Char.ofNat b.toNat with
  | 'a' => some 7
  | 'b' => some 8
  | 'f' => some 12
  | 'n' => some 10
  | 'r' => some 13
  | 't' => some 9
  | 'v' => some 11
  | '\\' => some 92
  | _ => none

/-- A text with its escapes replaced, and whether `\c` ended the output. An octal number has up to
three digits, which follow a zero if `zeroed` says so. -/
def unescape (zeroed : Bool) : (fuel : Nat) → Bytes → Bytes × Bool
  | 0, _ => ([], false)
  | _, [] => ([], false)
  | fuel + 1, 92 :: b :: bs =>
    let more (front : Bytes) (rest : Bytes) :=
      let (out, stop) := unescape zeroed fuel rest
      (front ++ out, stop)
    if b = 99 then ([], true)
    else
      let digits := if zeroed then (if b = 48 then (bs.take 3).takeWhile isOctal else [])
        else ((b :: bs).take 3).takeWhile isOctal
      if zeroed && b = 48 then more [octal digits] (bs.drop digits.length)
      else if !zeroed && !digits.isEmpty then more [octal digits] ((b :: bs).drop digits.length)
      else
        match escape? b with
        | some e => more [e] bs
        | none => more [92, b] bs
  | fuel + 1, b :: bs =>
    let (out, stop) := unescape zeroed fuel bs
    (b :: out, stop)

/-- What `echo` writes: the arguments with blanks between them, and a line end unless `-n` comes
first or `\c` occurs. -/
def echo (arguments : List Bytes) : Bytes :=
  let (arguments, ends) :=
    match arguments with
    | a :: rest => if a = ofText "-n" then (rest, false) else (a :: rest, true)
    | [] => ([], true)
  let text := List.intercalate [32] arguments
  let (out, stopped) := unescape true (text.length + 1) text
  if ends && !stopped then out ++ [10] else out

/-! ### `printf` -/

/-- The parts of a conversion between the percent sign and its letter. -/
structure Spec where
  left : Bool
  zero : Bool
  width : Nat
  precision : Option Nat
  letter : UInt8

def number (digits : Bytes) : Nat := digits.foldl (fun n d => n * 10 + (d.toNat - 48)) 0

def isDigit (b : UInt8) : Bool := 48 ≤ b && b ≤ 57

def spec? (bs : Bytes) : Option (Spec × Bytes) :=
  let flags := bs.takeWhile fun b => b = 45 || b = 48 || b = 43 || b = 32 || b = 35
  let rest := bs.drop flags.length
  let width := rest.takeWhile isDigit
  let rest := rest.drop width.length
  let (precision, rest) :=
    match rest with
    | 46 :: r => (some (number (r.takeWhile isDigit)), r.dropWhile isDigit)
    | r => (none, r)
  match rest with
  | letter :: rest =>
    some (⟨flags.contains 45, flags.contains 48, number width, precision, letter⟩, rest)
  | [] => none

def pad (s : Spec) (fill : UInt8) (text : Bytes) : Bytes :=
  let missing := List.replicate (s.width - text.length) fill
  if s.left then text ++ List.replicate (s.width - text.length) 32 else missing ++ text

def integer (argument : Bytes) : Int :=
  match argument with
  | 45 :: digits => -(number (digits.takeWhile isDigit) : Int)
  | 43 :: digits => number (digits.takeWhile isDigit)
  | 39 :: c :: _ | 34 :: c :: _ => c.toNat
  | digits => number (digits.takeWhile isDigit)

/-- A decimal numeral: whether it is negative, its digits as one number, the power of ten that its
last digit counts, and what follows it. -/
structure Numeral where
  negative : Bool
  digits : Nat
  power : Int
  rest : Bytes

def numeral? (argument : Bytes) : Option Numeral :=
  let negative := argument.head? = some 45
  let body := if negative || argument.head? = some 43 then argument.drop 1 else argument
  let whole := body.takeWhile isDigit
  let behind := body.drop whole.length
  let (fraction, behind) := match behind with
    | 46 :: r => (r.takeWhile isDigit, r.dropWhile isDigit)
    | r => ([], r)
  if whole.isEmpty && fraction.isEmpty then none
  else
    let (power, rest) := exponent behind
    some ⟨negative, number (whole ++ fraction), power - fraction.length, rest⟩
where
  /-- The exponent at the front, zero if there is none. -/
  exponent (bs : Bytes) : Int × Bytes :=
    match bs with
    | e :: r =>
      let negative := r.head? = some 45
      let digits := if negative || r.head? = some 43 then r.drop 1 else r
      let ds := digits.takeWhile isDigit
      if (e = 101 || e = 69) && !ds.isEmpty then
        (if negative then -(number ds : Int) else number ds, digits.drop ds.length)
      else (0, bs)
    | [] => (0, [])

/-- The double nearest to a numeral, with so many digits behind the point. -/
def Numeral.fixed (n : Numeral) (places : Nat) : String :=
  let x := (Binary64.ofRatio n.negative (n.digits * Nat.pow 10 n.power.toNat)
    (Nat.pow 10 (-n.power).toNat)).magnitude
  let units := Binary64.divRound (x.num * Nat.pow 10 places) x.den
  let ds := Nat.toDigits 10 units
  let ds := List.replicate (places + 1 - ds.length) '0' ++ ds
  let (whole, fraction) := ds.splitAt (ds.length - places)
  (if n.negative then "-" else "")
    ++ String.ofList (if places = 0 then whole else whole ++ '.' :: fraction)

def digits (base n : Nat) : Bytes := ofText (String.ofList (Nat.toDigits base n))

def convert (s : Spec) (argument : Bytes) : Bytes :=
  let fill : UInt8 := if s.zero && !s.left then 48 else 32
  match Char.ofNat s.letter.toNat with
  | 's' => pad s 32 (match s.precision with | some n => argument.take n | none => argument)
  | 'b' => pad s 32 (unescape true (argument.length + 1) argument).1
  | 'c' => pad s 32 (argument.take 1)
  | 'd' | 'i' => pad s fill (ofText (toString (integer argument)))
  | 'f' =>
    let n := (numeral? argument).getD ⟨false, 0, 0, []⟩
    pad s fill (ofText (n.fixed (s.precision.getD 6)))
  | 'u' => pad s fill (ofText (toString (integer argument).toNat))
  | 'o' => pad s fill (digits 8 (integer argument).toNat)
  | 'x' => pad s fill (digits 16 (integer argument).toNat)
  | 'X' =>
    pad s fill ((digits 16 (integer argument).toNat).map fun b => if b ≥ 97 then b - 32 else b)
  | _ => []

/-- What is wrong with an argument of a conversion to a number. -/
def complaint? (s : Spec) (argument : Bytes) : Option String :=
  let letter := Char.ofNat s.letter.toNat
  let text := Text.Utf8.decodeLossy argument
  if argument.isEmpty then none
  else if letter = 'f' then
    match numeral? argument with
    | none => some s!"printf: {text}: expected numeric value"
    | some n => if n.rest.isEmpty then none else some s!"printf: {text}: not completely converted"
  else if !"diuoxX".toList.contains letter then none
  else
    let body := match argument with
      | 45 :: rest | 43 :: rest => rest
      | body => body
    match body with
    | 39 :: _ | 34 :: _ => none
    | body =>
      if !isDigit (body.headD 0) then some s!"printf: {text}: expected numeric value"
      else if body.all isDigit then none
      else some s!"printf: {text}: not completely converted"

structure Formatted where
  out : Bytes := []
  /-- The arguments left. -/
  rest : List Bytes
  /-- Whether any argument was used. -/
  used : Bool := false
  complaints : List String := []

/-- A format with something written in front. -/
def Formatted.after (front : Bytes) (f : Formatted) : Formatted := { f with out := front ++ f.out }

def pass : (fuel : Nat) → Bytes → List Bytes → Formatted
  | 0, _, arguments => { rest := arguments }
  | _, [], arguments => { rest := arguments }
  | fuel + 1, 37 :: 37 :: bs, arguments => (pass fuel bs arguments).after [37]
  | fuel + 1, 37 :: bs, arguments =>
    match spec? bs with
    | some (s, bs) =>
      let argument := arguments.headD []
      let f := (pass fuel bs (arguments.drop 1)).after (convert s argument)
      { f with used := true, complaints := (complaint? s argument).toList ++ f.complaints }
    | none => { out := [37], rest := arguments }
  | fuel + 1, 92 :: b :: bs, arguments =>
    let octalDigits := ((b :: bs).take 3).takeWhile isOctal
    if !octalDigits.isEmpty then
      (pass fuel ((b :: bs).drop octalDigits.length) arguments).after [octal octalDigits]
    else
      match escape? b with
      | some e => (pass fuel bs arguments).after [e]
      | none => (pass fuel bs arguments).after [92, b]
  | fuel + 1, b :: bs, arguments => (pass fuel bs arguments).after [b]

/-- The passes over a format until the arguments are used up: what they write, and complaints. -/
def passes (format : Bytes) : (fuel : Nat) → List Bytes → Bytes × List String
  | 0, _ => ([], [])
  | fuel + 1, arguments =>
    let f := pass (format.length + 1) format arguments
    if f.used && !f.rest.isEmpty then
      let (out, complaints) := passes format fuel f.rest
      (f.out ++ out, f.complaints ++ complaints)
    else (f.out, f.complaints)

def printf (arguments : List Bytes) : Bytes × List String :=
  match arguments with
  | format :: rest => passes format (rest.length + 1) rest
  | [] => ([], [])

end CommandAgent.Shell.Format
