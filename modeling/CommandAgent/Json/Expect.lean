import CommandAgent.Json.Reader

/-!
# Reading documents of a known form

A place of a document that must hold a text, a truth value or an integer of limited size refuses any
other value and says what it found and what it expected. Two kinds of readers share these words:
those of `Json.Expect` take a value that has been parsed, those of `Json.Stream` take the text, stop
at the first fault and report its position.

A record is written as an object or as an array that lists its fields in order; fields that are left
out keep their defaults, and members that are not fields are passed over.
-/

namespace CommandAgent.Json

/-- How a value that is out of place is named. -/
def describe : Json → String
  | .null => "null"
  | .bool b => s!"boolean `{b}`"
  | .number (.integer n) => s!"integer `{n}`"
  | .number (.double x) => s!"floating point `{x.toText}`"
  | .string s => "string " ++ Text.quote s
  | .array _ => "sequence"
  | .object _ => "map"

def wrongType (found : Json) (expected : String) : String :=
  s!"invalid type: {found.describe}, expected {expected}"

/-- The words for an integer out of range. -/
def wrongValue (found : Json) (expected : String) : String :=
  s!"invalid value: {found.describe}, expected {expected}"

def duplicateField (name : String) : String := s!"duplicate field `{name}`"

namespace Expect

def text : Json → Except String String
  | .string s => .ok s
  | j => .error (wrongType j "a string")

def flag : Json → Except String Bool
  | .bool b => .ok b
  | j => .error (wrongType j "a boolean")

/-- An integer of 16 bits without sign. -/
def word16 : Json → Except String UInt16
  | .number (.integer n) =>
    if 0 ≤ n ∧ n < 65536 then .ok (UInt16.ofNat n.toNat)
    else .error (wrongValue (.int n) "u16")
  | j => .error (wrongType j "u16")

def integer64 : Json → Except String Int
  | .number (.integer n) =>
    if n < Nat.pow 2 63 then .ok n else .error (wrongValue (.int n) "i64")
  | j => .error (wrongType j "i64")

def optional {α : Type} (read : Json → Except String α) : Json → Except String (Option α)
  | .null => .ok none
  | j => (read j).map some

def list {α : Type} (read : Json → Except String α) : Json → Except String (List α)
  | .array items => items.mapM read
  | j => .error (wrongType j "a sequence")

/-- A field of a record: its name, and how its value changes the record. -/
structure Field (ρ : Type) where
  name : String
  store : Json → ρ → Except String ρ

def field? {ρ : Type} (fields : List (Field ρ)) (name : String) : Option (Field ρ) :=
  fields.find? (·.name = name)

def storeMembers {ρ : Type} (fields : List (Field ρ)) : Members → ρ → Except String ρ
  | [], r => .ok r
  | (k, j) :: rest, r =>
    match field? fields k with
    | some f => (f.store j r).bind (storeMembers fields rest)
    | none => storeMembers fields rest r

/-- Store the items of an array, one for each field; the number of items without a field. -/
def storeItems {ρ : Type} : List (Field ρ) → List Json → ρ → Except String (Nat × ρ)
  | [], items, r => .ok (items.length, r)
  | _ :: _, [], r => .ok (0, r)
  | f :: fs, j :: js, r => (f.store j r).bind (storeItems fs js)

/-- A record, starting from its defaults. -/
def record {ρ : Type} (name : String) (fields : List (Field ρ)) (default : ρ) :
    Json → Except String ρ
  | .object ms => storeMembers fields ms default
  | .array items => do
    let (extra, r) ← storeItems fields items default
    if extra = 0 then return r
    else throw s!"invalid length {items.length}, expected fewer elements in array"
  | j => .error (wrongType j ("struct " ++ name))

end Expect

namespace Stream

/-- The fault for a value of the wrong kind. A scalar is read first, so that the position lies
behind it; an array or an object is not. -/
def misplaced (c : Cursor) (expected : String) : Fault :=
  let scalar (r : Except Fault (Json × Cursor)) : Fault :=
    match r with
    | .ok (j, c) => c.fault (.unfit (wrongType j expected))
    | .error f => f
  match c.rest with
  | [] => c.peekFault .expectedValue
  | b :: _ =>
    if b = code 'n' then scalar ((word ['u', 'l', 'l'] c.advance).map fun c => (.null, c))
    else if b = code 't' then scalar ((word ['r', 'u', 'e'] c.advance).map fun c => (.bool true, c))
    else if b = code 'f' then
      scalar ((word ['a', 'l', 's', 'e'] c.advance).map fun c => (.bool false, c))
    else if b = code '-' then
      scalar ((numberTail true c.advance).map fun (n, c) => (.number n, c))
    else if isDigit b then scalar ((numberTail false c).map fun (n, c) => (.number n, c))
    else if b = code '"' then scalar ((stringTail c.advance).map fun (s, c) => (.string s, c))
    else if b = code '[' then c.fault (.unfit (wrongType (.array []) expected))
    else if b = code '\x7b' then c.fault (.unfit (wrongType (.object []) expected))
    else c.peekFault .expectedValue

def flag (c : Cursor) : Except Fault (Bool × Cursor) :=
  let c := skipBlanks c
  match c.rest with
  | [] => .error (c.peekFault .eofInValue)
  | b :: _ =>
    if b = code 't' then (word ['r', 'u', 'e'] c.advance).map fun c => (true, c)
    else if b = code 'f' then (word ['a', 'l', 's', 'e'] c.advance).map fun c => (false, c)
    else .error (misplaced c "a boolean")

def text (c : Cursor) : Except Fault (String × Cursor) :=
  let c := skipBlanks c
  match c.rest with
  | [] => .error (c.peekFault .eofInValue)
  | b :: _ =>
    if b = code '"' then stringTail c.advance else .error (misplaced c "a string")

def list {α : Type} (item : Cursor → Except Fault (α × Cursor)) (c : Cursor) :
    Except Fault (List α × Cursor) :=
  let c := skipBlanks c
  match c.rest with
  | [] => .error (c.peekFault .eofInValue)
  | b :: rest =>
    if b = code '[' then do
      let (xs, c) ← items item (rest.length + 1) true c.advance
      let c ← closeArray c
      return (xs, c)
    else .error (misplaced c "a sequence")

/-! ### Passing over a value

An unknown member may hold any value, nested to any depth. The enclosing arrays and objects are kept
on a list, the innermost first. -/

/-- What encloses a value that is passed over. -/
inductive Frame where
  | array
  | object
deriving DecidableEq

def skipDigits (c : Cursor) : Cursor := (digits c).2

/-- Pass over the exponent of a number, whose `e` is at the cursor. -/
def skipExponent (c : Cursor) : Except Fault Cursor :=
  let c := c.advance
  let c :=
    match c.rest with
    | b :: _ => if b = code '+' ∨ b = code '-' then c.advance else c
    | [] => c
  match c.rest with
  | b :: _ => if isDigit b then .ok (skipDigits c) else .error (c.advance.fault .invalidNumber)
  | [] => .error (c.fault .invalidNumber)

/-- Pass over a number whose sign, if any, has been read. -/
def skipNumber (c : Cursor) : Except Fault Cursor :=
  let behindInteger (c : Cursor) : Except Fault Cursor :=
    if atPoint c then
      let c := c.advance
      let c' := skipDigits c
      if c'.index = c.index then .error (c.peekFault .invalidNumber)
      else if atExponent c' then skipExponent c' else .ok c'
    else if atExponent c then skipExponent c
    else .ok c
  match c.rest with
  | [] => .error (c.fault .invalidNumber)
  | b :: rest =>
    if b = 48 then
      match rest with
      | d :: _ =>
        if isDigit d then .error (c.advance.peekFault .invalidNumber) else behindInteger c.advance
      | [] => behindInteger c.advance
    else if isDigit b then behindInteger (skipDigits c)
    else .error (c.advance.fault .invalidNumber)

/-- Pass over a scalar or the opening of an array or object. -/
def skipToken (c : Cursor) : Except Fault (Option Frame × Cursor) :=
  match c.rest with
  | [] => .error (c.peekFault .eofInValue)
  | b :: _ =>
    let done (r : Except Fault Cursor) : Except Fault (Option Frame × Cursor) := r.map (none, ·)
    if b = code 'n' then done (word ['u', 'l', 'l'] c.advance)
    else if b = code 't' then done (word ['r', 'u', 'e'] c.advance)
    else if b = code 'f' then done (word ['a', 'l', 's', 'e'] c.advance)
    else if b = code '-' then done (skipNumber c.advance)
    else if isDigit b then done (skipNumber c)
    else if b = code '"' then done (ignoredString (c.index + 1) c.advance.rest)
    else if b = code '[' then .ok (some .array, c.advance)
    else if b = code '\x7b' then .ok (some .object, c.advance)
    else .error (c.peekFault .expectedValue)

/-- Behind a value or an opening: close what ends here, and come to the next value. The result is
the enclosing frames of the value to come, or none when the outermost value has ended. -/
def skipSeparators : (fuel : Nat) → (afterValue : Bool) → List Frame → Cursor →
    Except Fault (List Frame × Cursor)
  | 0, _, _, c => .error (c.peekFault .eofInValue)
  | _ + 1, _, [], c => .ok ([], c)
  | fuel + 1, afterValue, frame :: frames, c =>
    let c := skipBlanks c
    match c.rest with
    | [] => .error (c.peekFault (if frame = .array then .eofInList else .eofInObject))
    | b :: _ =>
      if afterValue ∧ b = code ',' then .ok (frame :: frames, c.advance)
      else if (b = code ']' ∧ frame = .array) ∨ (b = code '\x7d' ∧ frame = .object) then
        skipSeparators fuel true frames c.advance
      else if afterValue then
        .error (c.peekFault
          (if frame = .array then .expectedCommaOrBracket else .expectedCommaOrBrace))
      else .ok (frame :: frames, c)

/-- Pass over the key before a value inside an object. -/
def skipKey (c : Cursor) : Except Fault Cursor := do
  let c := skipBlanks c
  match c.rest with
  | [] => throw (c.peekFault .eofInObject)
  | b :: _ =>
    if b = code '"' then
      let c ← ignoredString (c.index + 1) c.advance.rest
      colon c
    else throw (c.peekFault .keyNotString)

/-- Pass over a value enclosed by `frames` and over all that follows it inside them. -/
def skipValues : (fuel : Nat) → List Frame → Cursor → Except Fault Cursor
  | 0, _, c => .error (c.peekFault .eofInValue)
  | fuel + 1, frames, c => do
    let (opened, c) ← skipToken (skipBlanks c)
    let (frames, c) ←
      match opened with
      | some f => skipSeparators (frames.length + 2) false (f :: frames) c
      | none => skipSeparators (frames.length + 2) true frames c
    match frames with
    | [] => return c
    | .array :: _ => skipValues fuel frames c
    | .object :: _ => skipValues fuel frames (← skipKey c)

def ignored (c : Cursor) : Except Fault Cursor := skipValues (c.rest.length + 1) [] c

/-! ### Records -/

/-- A field of a record: its name, and how it is read into the record. -/
structure Field (ρ : Type) where
  name : String
  read : Cursor → ρ → Except Fault (ρ × Cursor)

/-- Read the members of an object into a record; `seen` holds the names of the fields read so far.
A field given twice is refused where its key ends, or behind the brace that follows. -/
def fieldsOfObject {ρ : Type} (fields : List (Field ρ)) : Nat → (seen : List String) → Bool → ρ →
    Cursor → Except Fault (ρ × Cursor)
  | 0, _, _, _, c => .error (c.peekFault .eofInObject)
  | fuel + 1, seen, first, r, c => do
    let (more, c) ← hasKey first c
    if more then
      let (key, c) ← stringTail c.advance
      match fields.find? (·.name = key) with
      | some f =>
        if seen.contains key then
          let behind := match closeObject c with
            | .ok c => c
            | .error _ => skipBlanks c
          throw (behind.fault (.unfit (duplicateField key)))
        else
          let c ← colon c
          let (r, c) ← f.read c r
          fieldsOfObject fields fuel (key :: seen) false r c
      | none =>
        let c ← ignored (← colon c)
        fieldsOfObject fields fuel seen false r c
    else return (r, c)

/-- Read the items of an array into the fields of a record, in order. -/
def fieldsOfArray {ρ : Type} : List (Field ρ) → Bool → ρ → Cursor → Except Fault (ρ × Cursor)
  | [], _, r, c => .ok (r, c)
  | f :: fs, first, r, c => do
    let (more, c) ← hasItem first c
    if more then
      let (r, c) ← f.read c r
      fieldsOfArray fs false r c
    else return (r, c)

/-- A record, starting from its defaults. -/
def record {ρ : Type} (name : String) (fields : List (Field ρ)) (default : ρ) (c : Cursor) :
    Except Fault (ρ × Cursor) :=
  let c := skipBlanks c
  match c.rest with
  | [] => .error (c.peekFault .eofInValue)
  | b :: rest =>
    if b = code '[' then do
      let (r, c) ← fieldsOfArray fields true default c.advance
      let c ← closeArray c
      return (r, c)
    else if b = code '\x7b' then do
      let (r, c) ← fieldsOfObject fields (rest.length + 1) [] true default c.advance
      let c ← closeObject c
      return (r, c)
    else .error (misplaced c ("struct " ++ name))

/-- Read a whole document with a reader of this kind. -/
def document {α : Type} (read : Cursor → Except Fault (α × Cursor)) (input : Bytes) :
    Except String α :=
  (finish (read (Cursor.start input))).mapError (Fault.message input)

end Stream
end CommandAgent.Json
