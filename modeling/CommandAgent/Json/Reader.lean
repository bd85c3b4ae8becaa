import CommandAgent.Json.Basic
import CommandAgent.Text.Utf8
import CommandAgent.Text.Quote

/-!
# Reading JSON text

A document is read from its bytes, from left to right, and every fault is reported with its line and
column. The readers work on a `Cursor`: what is left of the bytes and how many have been read. A
`Fault` keeps the number of bytes up to which its position counts; `Fault.message` turns that into a
line and a column of the whole text.

`value` reads any value, `ignored` passes over one without keeping it, and `flag`, `text` and
`sequence` read what a fixed place of a document must hold. Arrays and objects may be nested 127
deep (`nesting`); the readers recurse on fuel, of which one unit for each byte suffices.
-/

namespace CommandAgent.Json

/-! ### Faults -/

inductive Cause where
  | eofInList | eofInObject | eofInString | eofInValue
  | expectedColon | expectedCommaOrBracket | expectedCommaOrBrace
  | expectedWord | expectedValue
  | invalidEscape | invalidNumber | numberOutOfRange | invalidCodePoint
  | controlInString | keyNotString | loneSurrogate | unfinishedEscape
  | trailingComma | trailingText | tooDeep
  /-- A value of the wrong kind, or a member given twice. -/
  | unfit (text : String)
deriving DecidableEq, Repr

def Cause.text : Cause → String
  | eofInList => "EOF while parsing a list"
  | eofInObject => "EOF while parsing an object"
  | eofInString => "EOF while parsing a string"
  | eofInValue => "EOF while parsing a value"
  | expectedColon => "expected `:`"
  | expectedCommaOrBracket => "expected `,` or `]`"
  | expectedCommaOrBrace => "expected `,` or `\x7d`"
  | expectedWord => "expected ident"
  | expectedValue => "expected value"
  | invalidEscape => "invalid escape"
  | invalidNumber => "invalid number"
  | numberOutOfRange => "number out of range"
  | invalidCodePoint => "invalid unicode code point"
  | controlInString => "control character (\\u0000-\\u001F) found while parsing a string"
  | keyNotString => "key must be a string"
  | loneSurrogate => "lone leading surrogate in hex escape"
  | unfinishedEscape => "unexpected end of hex escape"
  | trailingComma => "trailing comma"
  | trailingText => "trailing characters"
  | tooDeep => "recursion limit exceeded"
  | unfit text => text

/-- A cause and the number of bytes before the place that is blamed. -/
structure Fault where
  cause : Cause
  index : Nat
deriving DecidableEq, Repr

/-- The line of a position, from one, and the number of bytes before it on that line. -/
def lineColumn (input : Bytes) (index : Nat) : Nat × Nat :=
  (input.take index).foldl
    (fun (p : Nat × Nat) b => if b = 10 then (p.1 + 1, 0) else (p.1, p.2 + 1)) (1, 0)

def Fault.message (input : Bytes) (f : Fault) : String :=
  let (line, column) := lineColumn input f.index
  s!"{f.cause.text} at line {line} column {column}"

/-- What is left to read, and how many bytes have been read. -/
structure Cursor where
  index : Nat
  rest : Bytes
deriving Repr

namespace Cursor

def start (input : Bytes) : Cursor := ⟨0, input⟩

def advance (c : Cursor) : Cursor :=
  match c.rest with
  | [] => c
  | _ :: rest => ⟨c.index + 1, rest⟩

/-- A fault that blames what has been read. -/
def fault (c : Cursor) (cause : Cause) : Fault := ⟨cause, c.index⟩

/-- A fault that blames the byte to come. -/
def peekFault (c : Cursor) (cause : Cause) : Fault := ⟨cause, c.advance.index⟩

end Cursor

def code (c : Char) : UInt8 := UInt8.ofNat c.toNat

/-- Blank, tab, line feed and carriage return may stand between tokens. -/
def isJsonBlank (b : UInt8) : Bool := b == 32 || b == 10 || b == 9 || b == 13

def skipBlanks (c : Cursor) : Cursor := go c.index c.rest
where
  /-- Count the blanks that are passed. -/
  go : Nat → Bytes → Cursor
    | i, [] => ⟨i, []⟩
    | i, b :: rest => if isJsonBlank b then go (i + 1) rest else ⟨i, b :: rest⟩

/-- Read the remaining letters of `null`, `true` or `false`. -/
def word : List Char → Cursor → Except Fault Cursor
  | [], c => .ok c
  | e :: es, c =>
    match c.rest with
    | [] => .error (c.fault .eofInValue)
    | b :: _ => if b = code e then word es c.advance else .error (c.advance.fault .expectedWord)

/-! ### Strings -/

def hexValue? (b : UInt8) : Option Nat :=
  if 48 ≤ b ∧ b ≤ 57 then some (b.toNat - 48)
  else if 97 ≤ b ∧ b ≤ 102 then some (b.toNat - 87)
  else if 65 ≤ b ∧ b ≤ 70 then some (b.toNat - 55)
  else none

def hex4? (a b c d : UInt8) : Option Nat := do
  return (((← hexValue? a) * 16 + (← hexValue? b)) * 16 + (← hexValue? c)) * 16 + (← hexValue? d)

/-- The byte that a backslash and a letter stand for. -/
def escaped? (b : UInt8) : Option UInt8 :=
  if b = code '"' then some (code '"')
  else if b = code '\\' then some (code '\\')
  else if b = code '/' then some (code '/')
  else if b = code 'b' then some 8
  else if b = code 'f' then some 12
  else if b = code 'n' then some 10
  else if b = code 'r' then some 13
  else if b = code 't' then some 9
  else none

/-- The bytes of a code point, in reverse order before those read so far. -/
def pushChar (n : Nat) (acc : Bytes) : Bytes :=
  (String.utf8EncodeChar (Char.ofNat n)).reverse ++ acc

/-- The bytes of a string up to its closing quotation mark; `acc` holds in reverse those read so
far. -/
def stringBytes (acc : Bytes) (i : Nat) : Bytes → Except Fault (Bytes × Cursor)
  | [] => .error ⟨.eofInString, i⟩
  | b :: rest =>
    if b = code '"' then .ok (acc.reverse, ⟨i + 1, rest⟩)
    else if b = code '\\' then
      match rest with
      | [] => .error ⟨.eofInString, i + 1⟩
      | e :: rest1 =>
        if e = code 'u' then
          match rest1 with
          | a :: b :: c :: d :: rest2 =>
            match hex4? a b c d with
            | none => .error ⟨.invalidEscape, i + 6⟩
            | some n =>
              if 0xDC00 ≤ n ∧ n ≤ 0xDFFF then .error ⟨.loneSurrogate, i + 6⟩
              else if n < 0xD800 ∨ 0xDBFF < n then stringBytes (pushChar n acc) (i + 6) rest2
              else
                -- a leading surrogate must be followed by a trailing one
                match rest2 with
                | [] => .error ⟨.eofInString, i + 6⟩
                | s :: rest3 =>
                  if s ≠ code '\\' then .error ⟨.unfinishedEscape, i + 7⟩
                  else
                    match rest3 with
                    | [] => .error ⟨.eofInString, i + 7⟩
                    | u :: rest4 =>
                      if u ≠ code 'u' then .error ⟨.unfinishedEscape, i + 8⟩
                      else
                        match rest4 with
                        | a :: b :: c :: d :: rest5 =>
                          match hex4? a b c d with
                          | none => .error ⟨.invalidEscape, i + 12⟩
                          | some m =>
                            if m < 0xDC00 ∨ 0xDFFF < m then .error ⟨.loneSurrogate, i + 12⟩
                            else
                              stringBytes
                                (pushChar ((n - 0xD800) * 0x400 + (m - 0xDC00) + 0x10000) acc)
                                (i + 12) rest5
                        | short => .error ⟨.eofInString, i + 8 + short.length⟩
          | short => .error ⟨.eofInString, i + 2 + short.length⟩
        else
          match escaped? e with
          | some x => stringBytes (x :: acc) (i + 2) rest1
          | none => .error ⟨.invalidEscape, i + 2⟩
    else if b < 32 then .error ⟨.controlInString, i + 1⟩
    else stringBytes (b :: acc) (i + 1) rest

/-- The text of a string whose opening quotation mark has been read. Its bytes, escapes resolved,
must be UTF-8; if they are not, the place that is blamed lies as far before the end of the string as
the first broken character lies before the end of those bytes. -/
def stringTail (c : Cursor) : Except Fault (String × Cursor) := do
  let (bytes, c) ← stringBytes [] c.index c.rest
  match Text.Utf8.firstInvalid? bytes with
  | some valid => throw ⟨.invalidCodePoint, c.index - (bytes.length - valid)⟩
  | none =>
    match Text.Utf8.decode? bytes with
    | some s => return (s, c)
    | none => throw (c.fault .invalidCodePoint)

/-- Pass over a string whose opening quotation mark has been read. Its escapes are checked for their
form only. -/
def ignoredString (i : Nat) : Bytes → Except Fault Cursor
  | [] => .error ⟨.eofInString, i⟩
  | b :: rest =>
    if b = code '"' then .ok ⟨i + 1, rest⟩
    else if b = code '\\' then
      match rest with
      | [] => .error ⟨.eofInString, i + 1⟩
      | e :: rest1 =>
        if e = code 'u' then
          match rest1 with
          | a :: b :: c :: d :: rest2 =>
            if (hex4? a b c d).isSome then ignoredString (i + 6) rest2
            else .error ⟨.invalidEscape, i + 6⟩
          | short => .error ⟨.eofInString, i + 2 + short.length⟩
        else if (escaped? e).isSome then ignoredString (i + 2) rest1
        else .error ⟨.invalidEscape, i + 2⟩
    else if b < 32 then .error ⟨.controlInString, i⟩
    else ignoredString (i + 1) rest

/-! ### Numbers -/

def isDigit (b : UInt8) : Bool := 48 ≤ b && b ≤ 57

/-- The digits at the cursor, and the cursor behind them. -/
def digits (c : Cursor) : List Nat × Cursor := go c.index c.rest
where
  /-- Collect the values of the digits. -/
  go : Nat → Bytes → List Nat × Cursor
    | i, [] => ([], ⟨i, []⟩)
    | i, b :: rest =>
      if isDigit b then
        let (ds, c) := go (i + 1) rest
        ((b.toNat - 48) :: ds, c)
      else ([], ⟨i, b :: rest⟩)

/-- The largest integer of 64 bits without sign. -/
def maxWord : Nat := Nat.pow 2 64 - 1

/-- Append digits to a significand as long as it fits in 64 bits: the significand and the number of
digits that did not fit. -/
def gather : Nat → List Nat → Nat × Nat
  | s, [] => (s, 0)
  | s, d :: ds => if s * 10 + d ≤ maxWord then gather (s * 10 + d) ds else (s, ds.length + 1)

/-- Read an exponent whose `e` is at the cursor: its sign and its digits. -/
def exponentPart (c : Cursor) : Except Fault ((Bool × List Nat) × Cursor) := do
  let c := c.advance
  let (negative, c) :=
    match c.rest with
    | b :: _ =>
      if b = code '+' then (false, c.advance)
      else if b = code '-' then (true, c.advance)
      else (false, c)
    | [] => (false, c)
  match c.rest with
  | [] => throw (c.fault .eofInValue)
  | b :: _ =>
    if isDigit b then
      let (ds, c) := digits c
      return ((negative, ds), c)
    else throw (c.advance.fault .invalidNumber)

/-- The exponents that are told apart end here. -/
def maxExponent : Nat := Nat.pow 2 31 - 1

/-- The number of digits after which an exponent exceeds `maxExponent`, if it does. -/
def exponentOverflow? : Nat → Nat → List Nat → Option Nat
  | _, _, [] => none
  | n, e, d :: ds =>
    if e * 10 + d > maxExponent then some (n + 1) else exponentOverflow? (n + 1) (e * 10 + d) ds

/-- A number with an exponent, from its significand and the exponent that its point gives it. -/
def withExponent (negative : Bool) (significand : Nat) (shift : Int) (c : Cursor) :
    Except Fault (Number × Cursor) := do
  let ((below, ds), c') ← exponentPart c
  let zero : Number := .double (if negative then Binary64.neg ⟨0⟩ else ⟨0⟩)
  match exponentOverflow? 0 0 ds with
  | some n =>
    if significand ≠ 0 ∧ ¬ below then throw ⟨.numberOutOfRange, c'.index - ds.length + n⟩
    else return (zero, c')
  | none =>
    let e : Nat := ds.foldl (fun e d => e * 10 + d) 0
    match Binary64.ofDecimal? negative significand (if below then shift - e else shift + e) with
    | some x => return (.double x, c')
    | none => throw (c'.fault .numberOutOfRange)

/-- A number that has no exponent, as a double. -/
def plainDouble (negative : Bool) (significand : Nat) (shift : Int) (c : Cursor) :
    Except Fault (Number × Cursor) :=
  match Binary64.ofDecimal? negative significand shift with
  | some x => .ok (.double x, c)
  | none => .error (c.fault .numberOutOfRange)

def atExponent (c : Cursor) : Bool :=
  match c.rest with
  | b :: _ => b == code 'e' || b == code 'E'
  | [] => false

def atPoint (c : Cursor) : Bool :=
  match c.rest with
  | b :: _ => b == code '.'
  | [] => false

/-- The part of a number behind its point, which is at the cursor. -/
def fractionPart (negative : Bool) (significand : Nat) (shift : Int) (c : Cursor) :
    Except Fault (Number × Cursor) :=
  let c := c.advance
  let (ds, c') := digits c
  if ds.isEmpty then
    .error (c.peekFault (if c.rest.isEmpty then .eofInValue else .invalidNumber))
  else
    let (s, dropped) := gather significand ds
    let shift := shift - (ds.length - dropped : Nat)
    if atExponent c' then withExponent negative s shift c' else plainDouble negative s shift c'

/-- A number whose sign, if any, has been read. Integers beyond 64 bits, and the zero with a sign,
are doubles. -/
def numberTail (negative : Bool) (c : Cursor) : Except Fault (Number × Cursor) :=
  match c.rest with
  | [] => .error (c.fault .eofInValue)
  | b :: rest =>
    if ¬ isDigit b then .error (c.advance.fault .invalidNumber)
    else
      let leadingZero := b == 48 && (match rest with | d :: _ => isDigit d | [] => false)
      if leadingZero then .error (c.advance.peekFault .invalidNumber)
      else
        let (ds, c') := digits c
        let (s, dropped) := gather 0 ds
        if atPoint c' then fractionPart negative s dropped c'
        else if atExponent c' then withExponent negative s dropped c'
        else if dropped ≠ 0 then plainDouble negative s dropped c'
        else if ¬ negative then .ok (.integer s, c')
        else if s ≠ 0 ∧ s ≤ Nat.pow 2 63 then .ok (.integer (-s), c')
        else .ok (.double (Binary64.ofNat s).neg, c')

/-! ### Values -/

/-- How deep arrays and objects may be nested, counting one more that is refused. -/
def nesting : Nat := 128

/-- Behind the opening bracket or a comma of an array: is there another item? -/
def hasItem (first : Bool) (c : Cursor) : Except Fault (Bool × Cursor) :=
  let c := skipBlanks c
  match c.rest with
  | [] => .error (c.peekFault .eofInList)
  | b :: _ =>
    if b = code ']' then .ok (false, c)
    else if first then .ok (true, c)
    else if b = code ',' then
      let c := skipBlanks c.advance
      match c.rest with
      | [] => .error (c.peekFault .eofInValue)
      | b :: _ => if b = code ']' then .error (c.peekFault .trailingComma) else .ok (true, c)
    else .error (c.peekFault .expectedCommaOrBracket)

/-- Behind the opening brace or a comma of an object: is there another key? -/
def hasKey (first : Bool) (c : Cursor) : Except Fault (Bool × Cursor) :=
  let c := skipBlanks c
  match c.rest with
  | [] => .error (c.peekFault .eofInObject)
  | b :: _ =>
    if b = code '\x7d' then .ok (false, c)
    else if first then
      if b = code '"' then .ok (true, c) else .error (c.peekFault .keyNotString)
    else if b = code ',' then
      let c := skipBlanks c.advance
      match c.rest with
      | [] => .error (c.peekFault .eofInValue)
      | b :: _ =>
        if b = code '"' then .ok (true, c)
        else if b = code '\x7d' then .error (c.peekFault .trailingComma)
        else .error (c.peekFault .keyNotString)
    else .error (c.peekFault .expectedCommaOrBrace)

def colon (c : Cursor) : Except Fault Cursor :=
  let c := skipBlanks c
  match c.rest with
  | [] => .error (c.peekFault .eofInObject)
  | b :: _ => if b = code ':' then .ok c.advance else .error (c.peekFault .expectedColon)

def closeArray (c : Cursor) : Except Fault Cursor :=
  let c := skipBlanks c
  match c.rest with
  | [] => .error (c.peekFault .eofInList)
  | b :: _ =>
    if b = code ']' then .ok c.advance
    else if b = code ',' then
      let c := skipBlanks c.advance
      match c.rest with
      | b :: _ => .error (c.peekFault (if b = code ']' then .trailingComma else .trailingText))
      | [] => .error (c.peekFault .trailingText)
    else .error (c.peekFault .trailingText)

def closeObject (c : Cursor) : Except Fault Cursor :=
  let c := skipBlanks c
  match c.rest with
  | [] => .error (c.peekFault .eofInObject)
  | b :: _ =>
    if b = code '\x7d' then .ok c.advance
    else if b = code ',' then .error (c.peekFault .trailingComma)
    else .error (c.peekFault .trailingText)

def items {α : Type} (item : Cursor → Except Fault (α × Cursor)) :
    Nat → Bool → Cursor → Except Fault (List α × Cursor)
  | 0, _, c => .error (c.peekFault .eofInList)
  | fuel + 1, first, c => do
    let (more, c) ← hasItem first c
    if more then
      let (x, c) ← item c
      let (xs, c) ← items item fuel false c
      return (x :: xs, c)
    else return ([], c)

/-- The members of an object, each value read by `item`, in the order of the text. -/
def members {α : Type} (item : Cursor → Except Fault (α × Cursor)) :
    Nat → Bool → Cursor → Except Fault (List (String × α) × Cursor)
  | 0, _, c => .error (c.peekFault .eofInObject)
  | fuel + 1, first, c => do
    let (more, c) ← hasKey first c
    if more then
      let (key, c) ← stringTail c.advance
      let c ← colon c
      let (x, c) ← item c
      let (xs, c) ← members item fuel false c
      return ((key, x) :: xs, c)
    else return ([], c)

/-- Read a value nested at most `room` deep; one unit of fuel for each byte is enough. -/
def value : (fuel room : Nat) → Cursor → Except Fault (Json × Cursor)
  | 0, _, c => .error (c.peekFault .eofInValue)
  | fuel + 1, room, c =>
    let c := skipBlanks c
    match c.rest with
    | [] => .error (c.peekFault .eofInValue)
    | b :: _ =>
      if b = code 'n' then (word ['u', 'l', 'l'] c.advance).map fun c => (.null, c)
      else if b = code 't' then (word ['r', 'u', 'e'] c.advance).map fun c => (.bool true, c)
      else if b = code 'f' then (word ['a', 'l', 's', 'e'] c.advance).map fun c => (.bool false, c)
      else if b = code '-' then (numberTail true c.advance).map fun (n, c) => (.number n, c)
      else if isDigit b then (numberTail false c).map fun (n, c) => (.number n, c)
      else if b = code '"' then (stringTail c.advance).map fun (s, c) => (.string s, c)
      else if b = code '[' then
        if room ≤ 1 then .error (c.peekFault .tooDeep)
        else do
          let (xs, c) ← items (value fuel (room - 1)) (fuel + 1) true c.advance
          let c ← closeArray c
          return (.array xs, c)
      else if b = code '\x7b' then
        if room ≤ 1 then .error (c.peekFault .tooDeep)
        else do
          let (ms, c) ← members (value fuel (room - 1)) (fuel + 1) true c.advance
          let c ← closeObject c
          return (ofMembers ms, c)
      else .error (c.peekFault .expectedValue)

/-- Nothing but blanks may follow the value of a document. -/
def finish {α : Type} (r : Except Fault (α × Cursor)) : Except Fault α := do
  let (x, c) ← r
  let c := skipBlanks c
  if c.rest.isEmpty then return x else throw (c.peekFault .trailingText)

def parse (input : Bytes) : Except Fault Json :=
  finish (value (input.length + 1) nesting (Cursor.start input))

/-- Read a whole document, or say what is wrong with it and where. -/
def parseOrExplain (input : Bytes) : Except String Json :=
  (parse input).mapError (Fault.message input)

end CommandAgent.Json
