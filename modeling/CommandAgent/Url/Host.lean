import CommandAgent.Url.DomainName

/-!
# Hosts

The host of a URL with a special scheme is a domain name, an IPv4 address in any of its spellings,
or an IPv6 address between brackets. Whether a name is an address is seen only in the form in which
it is looked up. A URL with another scheme has an opaque host, which is only checked for forbidden
characters.
-/

namespace CommandAgent.Url

inductive Host where
  | domain (name : String)
  | ipv4 (address : Nat)
  | ipv6 (pieces : List Nat)
deriving DecidableEq, Repr

/-! ### IPv4 -/

/-- A part of an IPv4 address: decimal, octal after a zero, hexadecimal after `0x`. The outer none
says that it is no number. -/
def ipv4Number? (cs : List Char) : Option Nat :=
  let digits (base : Nat) (cs : List Char) : Option Nat :=
    cs.foldlM (fun n c =>
      match hexDigit? c with
      | some d => if d < base then some (n * base + d) else none
      | none => none) 0
  match cs with
  | [] => none
  | '0' :: 'x' :: rest | '0' :: 'X' :: rest => digits 16 rest
  | '0' :: c :: rest => digits 8 (c :: rest)
  | cs => digits 10 cs

/-- Whether a domain must be read as an IPv4 address: its last part is a number. -/
def endsInNumber (cs : List Char) : Bool :=
  let last :=
    match (cs.splitOn '.').reverse with
    | [] :: p :: _ => p
    | p :: _ => p
    | [] => []
  (!last.isEmpty && last.all Char.isDigit) || (ipv4Number? last).isSome

/-- An IPv4 address of one to four parts; the last part fills the bytes that are left. -/
def parseIpv4 (cs : List Char) : Except Fault Nat :=
  let parts := cs.splitOn '.'
  let parts := if parts.getLast? = some [] then parts.dropLast else parts
  if parts.length > 4 then .error .invalidIpv4
  else
    match parts.mapM ipv4Number? with
    | none => .error .invalidIpv4
    | some numbers =>
      let last := numbers.getLastD 0
      let before := numbers.dropLast
      if last ≥ Nat.pow 256 (4 - before.length) ∨ before.any (· > 255) then .error .invalidIpv4
      else .ok (before.zipIdx.foldl (fun sum (n, i) => sum + n * Nat.pow 256 (3 - i)) last)

/-! ### IPv6 -/

/-- The state of reading an IPv6 address: the pieces so far and how many of them stand before the
gap. -/
structure Ipv6 where
  pieces : List Nat
  gap : Option Nat

/-- Up to four hexadecimal digits. -/
def hexPiece : Nat → Nat → List Char → Nat × List Char
  | 0, n, cs => (n, cs)
  | _, n, [] => (n, [])
  | k + 1, n, c :: cs =>
    match hexDigit? c with
    | some d => hexPiece k (n * 16 + d) cs
    | none => (n, c :: cs)

/-- A part of a dotted address: no leading zero, at most 255. -/
def dottedPart? (cs : List Char) : Option Nat :=
  let n := cs.foldl (fun n c => n * 10 + (c.toNat - 48)) 0
  if cs.isEmpty ∨ ¬ cs.all Char.isDigit ∨ n > 255 ∨ (cs.length > 1 ∧ cs.head? = some '0') then none
  else some n

/-- The two pieces of a dotted address at the end. -/
def dottedPieces? (cs : List Char) : Option (List Nat) :=
  match (cs.splitOn '.').mapM dottedPart? with
  | some [a, b, c, d] => some [a * 256 + b, c * 256 + d]
  | _ => none

/-- Read pieces until the end; one unit of fuel for each character. -/
def ipv6Pieces : Nat → Ipv6 → List Char → Option Ipv6
  | _, st, [] => some st
  | 0, _, _ => none
  | fuel + 1, st, c :: cs =>
    if st.pieces.length ≥ 8 then none
    else if c = ':' then
      if st.gap.isSome then none
      else ipv6Pieces fuel ⟨st.pieces ++ [0], some (st.pieces.length + 1)⟩ cs
    else
      let (n, rest) := hexPiece 4 0 (c :: cs)
      match rest with
      | [] => some ⟨st.pieces ++ [n], st.gap⟩
      | '.' :: _ =>
        if rest.length = (c :: cs).length ∨ st.pieces.length > 6 then none
        else (dottedPieces? (c :: cs)).map fun ps => ⟨st.pieces ++ ps, st.gap⟩
      | ':' :: rest =>
        if rest.isEmpty then none else ipv6Pieces fuel ⟨st.pieces ++ [n], st.gap⟩ rest
      | _ => none

def parseIpv6 (cs : List Char) : Except Fault (List Nat) :=
  let start : Option (Ipv6 × List Char) :=
    match cs with
    | ':' :: ':' :: rest => some (⟨[0], some 1⟩, rest)
    | ':' :: _ => none
    | cs => if cs.length < 2 then none else some (⟨[], none⟩, cs)
  match start.bind fun (st, rest) => ipv6Pieces (rest.length + 1) st rest with
  | none => .error .invalidIpv6
  | some ⟨pieces, none⟩ => if pieces.length = 8 then .ok pieces else .error .invalidIpv6
  | some ⟨pieces, some g⟩ =>
    if pieces.length > 8 then .error .invalidIpv6
    else .ok (pieces.take g ++ List.replicate (8 - pieces.length) 0 ++ pieces.drop g)

/-- The start and length of the first longest run of zeros. -/
def zeroRun (pieces : List Nat) : Nat × Nat :=
  let runs := (List.range 8).map fun i => (i, ((pieces.drop i).takeWhile (· == 0)).length)
  runs.foldl (fun best r => if r.2 > best.2 then r else best) (0, 0)

/-- An IPv6 address with its longest run of zeros left out. -/
def ipv6Text (pieces : List Nat) : String :=
  let hex (ps : List Nat) : String :=
    ":".intercalate (ps.map fun n => String.ofList (Nat.toDigits 16 n))
  let (start, length) := zeroRun pieces
  if length < 2 then hex pieces
  else hex (pieces.take start) ++ "::" ++ hex (pieces.drop (start + length))

/-! ### Hosts -/

/-- The text between brackets, if the text is in brackets. -/
def unbracket? : List Char → Option (Except Fault (List Char))
  | '[' :: rest =>
    match rest.reverse with
    | ']' :: back => some (.ok back.reverse)
    | _ => some (.error .invalidIpv6)
  | _ => none

/-- The host of a URL with a special scheme. -/
def parseHost (cs : List Char) : Except Fault Host :=
  match unbracket? cs with
  | some inner => do return .ipv6 (← parseIpv6 (← inner))
  | none => do
    let name ← domainName cs
    if name.isEmpty then throw .emptyHost
    else if endsInNumber name then return .ipv4 (← parseIpv4 name)
    else return .domain (String.ofList name)

def forbiddenInHost (c : Char) : Bool :=
  ['\x00', '\t', '\n', '\r', ' ', '#', '/', ':', '<', '>', '?', '@', '[', '\\', ']', '^',
    '|'].contains c

/-- The host of a URL with another scheme. -/
def parseOpaqueHost (cs : List Char) : Except Fault Host :=
  match unbracket? cs with
  | some inner => do return .ipv6 (← parseIpv6 (← inner))
  | none =>
    if cs.any forbiddenInHost then .error .invalidDomainCharacter
    else .ok (.domain (String.ofList (encodeWith isControl cs)))

def Host.text : Host → String
  | domain name => name
  | ipv4 n =>
    ".".intercalate ([(n >>> 24) % 256, (n >>> 16) % 256, (n >>> 8) % 256, n % 256].map toString)
  | ipv6 pieces => "[" ++ ipv6Text pieces ++ "]"

end CommandAgent.Url
