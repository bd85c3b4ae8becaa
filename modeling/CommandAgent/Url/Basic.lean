import CommandAgent.Url.Host

/-!
# URLs

A URL is read into its parts and written back from them. The schemes `http`, `https`, `ws`, `wss`,
`ftp` and `file` are special: backslashes count as slashes, the host is a domain name or an address,
and the path is never empty. Blanks and controls around the text and tabs and line breaks inside it
are left out.

A path is read as a list of segments; `.` and `..`, also in their encoded spellings, are worked off
while it is read (`Path.push`).
-/

namespace CommandAgent

/-- A URL by its parts; the texts are percent-encoded. -/
structure Url where
  scheme : String
  /-- Whether there is an authority, so that the path is a list of segments. -/
  hierarchical : Bool
  username : String
  password : Option String
  host : Option Url.Host
  port : Option Nat
  path : String
  query : Option String
  fragment : Option String
deriving DecidableEq, Repr

namespace Url

/-- The special schemes other than `file`, with their default ports. -/
def specialSchemes : List (String × Nat) :=
  [("http", 80), ("https", 443), ("ws", 80), ("wss", 443), ("ftp", 21)]

def isSpecial (scheme : String) : Bool := scheme == "file" || specialSchemes.any (·.1 == scheme)

/-- The port that need not be written. -/
def defaultPort? (scheme : String) : Option Nat := (specialSchemes.find? (·.1 = scheme)).map (·.2)

/-! ### Paths -/

/-- The spellings of a segment that stays where it is. -/
def isSingleDot (s : List Char) : Bool :=
  [".", "%2e", "%2E"].any (·.toList == s)

/-- The spellings of a segment that goes up. -/
def isDoubleDot (s : List Char) : Bool :=
  ["..", "%2e%2e", "%2e%2E", "%2E%2e", "%2E%2E", "%2e.", "%2E.", ".%2e", ".%2E"].any (·.toList == s)

def isDrive : List Char → Bool
  | [c, d] => c.isAlpha && (d == ':' || d == '|')
  | _ => false

/-- Whether a segment starts with a drive; a backslash may follow it. -/
def startsWithDrive : List Char → Bool
  | c :: d :: '\\' :: _ => isDrive [c, d]
  | s => isDrive s

/-- Drop the last segment, unless it starts with a drive. -/
def goUp (segments : List (List Char)) : List (List Char) :=
  match segments.getLast? with
  | none => []
  | some s => if startsWithDrive s then segments else segments.dropLast

/-- The segments of a path that have been completed by a slash, and the one behind the
last slash. -/
structure Segments where
  done : List (List Char)
  last : List Char

/-- Work off a list of raw segments, of which the last has no slash behind it. -/
def workOff : (done : List (List Char)) → List (List Char) → Segments
  | done, [] => ⟨done, []⟩
  | done, [s] =>
    if isDoubleDot s then ⟨goUp done, []⟩ else if isSingleDot s then ⟨done, []⟩ else ⟨done, s⟩
  | done, s :: rest =>
    if isDoubleDot s then workOff (goUp done) rest
    else if isSingleDot s then workOff done rest
    else workOff (done ++ [s]) rest

def Segments.text (p : Segments) : List Char :=
  '/' :: p.done.flatMap (fun s => s ++ ['/']) ++ p.last

/-- Whether a character separates segments. -/
def isSlash (special : Bool) (c : Char) : Bool := c == '/' || (special && c == '\\')

/-- The path read from a text that holds nothing else. It may start with its slash or without; only
where the scheme is not special is an empty text an empty path. -/
def readPath (special : Bool) (cs : List Char) : String :=
  if cs.isEmpty ∧ ¬ special then ""
  else
    let body := match cs with
      | c :: rest => if isSlash special c then rest else cs
      | [] => []
    let raw := (body.splitOnP (isSlash special)).map (encodeWith pathSet)
    String.ofList (workOff [] raw).text

/-! ### Reading -/

/-- Tabs and line breaks are left out wherever they stand. -/
def isDropped (c : Char) : Bool := c == '\t' || c == '\n' || c == '\r'

/-- The text without blanks and controls around it, and without tabs and line breaks. -/
def tidy (cs : List Char) : List Char :=
  let trimmed := cs.dropWhile (·.toNat ≤ 0x20)
  let trimmed := (trimmed.reverse.dropWhile (·.toNat ≤ 0x20)).reverse
  trimmed.filter (!isDropped ·)

/-- The scheme before the first colon, in small letters, and what follows the colon. -/
def scheme? (cs : List Char) : Option (String × List Char) :=
  let isPart (c : Char) : Bool := c.isAlphanum || c == '+' || c == '-' || c == '.'
  match cs with
  | [] => none
  | c :: _ =>
    if c.isAlpha then
      match cs.dropWhile isPart with
      | ':' :: rest => some (String.ofList ((cs.takeWhile isPart).map Char.toLower), rest)
      | _ => none
    else none

/-- The path, query and fragment at the end of a URL. -/
structure Tail where
  path : List Char
  query : Option (List Char)
  fragment : Option (List Char)

/-- Split the end of a URL at its first question mark and hash. -/
def Tail.ofText (cs : List Char) : Tail :=
  let beforeHash := cs.takeWhile (· != '#')
  let fragment := match cs.dropWhile (· != '#') with
    | _ :: rest => some rest
    | [] => none
  let query := match beforeHash.dropWhile (· != '?') with
    | _ :: rest => some rest
    | [] => none
  ⟨beforeHash.takeWhile (· != '?'), query, fragment⟩

def endsAuthority (special : Bool) (c : Char) : Bool :=
  c == '/' || c == '?' || c == '#' || (special && c == '\\')

/-- The user name and password before the last `@` of an authority, and what follows it. -/
def splitUser (special : Bool) (cs : List Char) :
    Except Fault (String × Option String × List Char) :=
  let authority := cs.takeWhile (!endsAuthority special ·)
  let behind := cs.dropWhile (!endsAuthority special ·)
  if authority.contains '@' then
    let back := authority.reverse
    let host := (back.takeWhile (· != '@')).reverse
    let user := ((back.dropWhile (· != '@')).drop 1).reverse
    if user.isEmpty then
      -- nothing before the sign, and no host behind it
      if host.isEmpty ∧ ¬ behind.isEmpty then .error .emptyHost
      else .ok ("", none, host ++ behind)
    else
      let name := user.takeWhile (· != ':')
      let password := match user.dropWhile (· != ':') with
        | _ :: p => if p.isEmpty then none else some (String.ofList (encodeWith userSet p))
        | [] => none
      .ok (String.ofList (encodeWith userSet name), password, host ++ behind)
  else .ok ("", none, cs)

/-- The text of the host, and what follows it. A colon inside brackets does not end the host. -/
def splitHost (special : Bool) : (bracket : Bool) → List Char → List Char × List Char
  | _, [] => ([], [])
  | bracket, c :: cs =>
    if endsAuthority special c ∨ (c = ':' ∧ ¬ bracket) then ([], c :: cs)
    else
      let bracket := if c = '[' then true else if c = ']' then false else bracket
      let (host, rest) := splitHost special bracket cs
      (c :: host, rest)

/-- The digits of a port and what follows them. -/
def readPort (cs : List Char) : Except Fault (Option Nat × List Char) :=
  let digits := cs.takeWhile Char.isDigit
  let rest := cs.dropWhile Char.isDigit
  let n := digits.foldl (fun n c => n * 10 + (c.toNat - 48)) 0
  if n > 65535 then .error .invalidPort
  else
    match rest with
    | c :: _ =>
      if c = '/' ∨ c = '\\' ∨ c = '?' ∨ c = '#' then
        .ok (if digits.isEmpty then none else some n, rest)
      else .error .invalidPort
    | [] => .ok (if digits.isEmpty then none else some n, rest)

def readAuthority (scheme : String) (cs : List Char) : Except Fault Url := do
  let special := isSpecial scheme
  let (username, password, cs) ← splitUser special cs
  let (hostText, cs) := splitHost special false cs
  let host ←
    if hostText.isEmpty then
      if special || cs.head? == some ':' then throw .emptyHost else pure none
    else if special then (parseHost hostText).map some
    else (parseOpaqueHost hostText).map some
  if host.isNone && (username != "" || password.isSome) then throw .emptyHost
  let (port, cs) ←
    match cs with
    | ':' :: rest => readPort rest
    | cs => pure (none, cs)
  let tail := Tail.ofText cs
  return {
    scheme := scheme, hierarchical := true, username := username, password := password, host := host
    port := if port = defaultPort? scheme then none else port
    path := readPath special tail.path
    query := tail.query.map fun q =>
      String.ofList (encodeWith (if special then specialQuerySet else querySet) q)
    fragment := tail.fragment.map fun f => String.ofList (encodeWith fragmentSet f) }

/-- The parts of a URL without an authority. -/
def readOpaque (scheme : String) (cs : List Char) : Url :=
  let tail := Tail.ofText cs
  { scheme := scheme, hierarchical := cs.head? == some '/', username := "", password := none
    host := none, port := none
    path := if cs.head? == some '/' then readPath false tail.path
      else String.ofList (encodeWith isControl tail.path)
    query := tail.query.map fun q => String.ofList (encodeWith querySet q)
    fragment := tail.fragment.map fun f => String.ofList (encodeWith fragmentSet f) }

/-- The parts of a `file` URL. Its host may be missing; a drive is no host. -/
def contentOf (cs : List Char) : Except Fault Url := do
  match cs with
  | a :: b :: rest =>
    if isSlash true a && isSlash true b then
      let hostText := rest.takeWhile (!endsAuthority true ·)
      let after := rest.dropWhile (!endsAuthority true ·)
      if hostText.isEmpty then return readOpaque "file" ('/' :: after)
      else if isDrive hostText then return readOpaque "file" ('/' :: rest)
      else
        let host ← parseHost hostText
        let plain := readOpaque "file" ('/' :: after.drop 1)
        return { plain with host := if host = .domain "localhost" then none else some host }
    else return readOpaque "file" ('/' :: cs)
  | _ => return readOpaque "file" ('/' :: cs)

def parse (text : String) : Except Fault Url :=
  match scheme? (tidy text.toList) with
  | none => .error .noBase
  | some (scheme, rest) =>
    if scheme = "file" then contentOf rest
    else if isSpecial scheme then readAuthority scheme (rest.dropWhile (isSlash true))
    else
      match rest with
      | '/' :: '/' :: rest => readAuthority scheme rest
      | rest => .ok (readOpaque scheme rest)

/-! ### Changing and writing -/

def holdsCredentials (u : Url) : Bool := u.host.isSome && u.scheme != "file"

/-- The URL with a user name. -/
def withUsername? (u : Url) (name : String) : Option Url :=
  if u.holdsCredentials then
    some { u with username := String.ofList (encodeWith userSet name.toList) }
  else none

/-- The URL with a password. -/
def withPassword? (u : Url) (password : String) : Option Url :=
  if u.holdsCredentials then
    some { u with password := some (String.ofList (encodeWith userSet password.toList)) }
  else none

/-- The URL with another path. A text that starts like a query or a fragment gives an empty path
where the scheme is not special. -/
def withPath (u : Url) (path : String) : Url :=
  let cs := path.toList.filter (!isDropped ·)
  let special := isSpecial u.scheme
  if ¬ special ∧ (cs.head? = some '?' ∨ cs.head? = some '#') then { u with path := "" }
  else { u with path := readPath special cs }

def toText (u : Url) : String :=
  let credentials :=
    match u.username, u.password with
    | "", none => ""
    | name, none => name ++ "@"
    | name, some p => name ++ ":" ++ p ++ "@"
  let authority :=
    match u.host with
    | some h =>
      "//" ++ credentials ++ h.text ++ (u.port.map fun p => ":" ++ toString p).getD ""
    | none => if u.hierarchical && u.scheme == "file" then "//" else ""
  u.scheme ++ ":" ++ authority ++ u.path ++ (u.query.map ("?" ++ ·)).getD ""
    ++ (u.fragment.map ("#" ++ ·)).getD ""

end Url
end CommandAgent
