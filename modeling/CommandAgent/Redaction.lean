import CommandAgent.Json.Basic
import CommandAgent.Text.Blank
import CommandAgent.Text.Preview

/-!
# Keeping secrets out of the log

Three things are masked before they are written to a log: the members of an object whose key tells
that they are secret (`redact`), given secrets wherever they occur in a text (`maskSecrets`), and
the password inside the connect string that a database client takes as an argument (`maskArgument`).
-/

namespace CommandAgent.Redaction

/-- What stands in the place of a secret member. -/
def memberMask : String := "[REDACTED]"

/-- What stands in the place of a secret inside a text. -/
def textMask : String := "***REDACTED***"

def secretKeys : List String :=
  ["password", "passwd", "secret", "token", "auth_token", "authorization", "mysql_pwd", "envs"]

/-- A key without outer blanks, in lower case, with underscores for dashes. -/
def normalizeKey (key : String) : String :=
  (Text.lower (Text.trim key)).map fun c => if c = '-' then '_' else c

def isSecretKey (key : String) : Bool := secretKeys.contains (normalizeKey key)

/-- A text bounded by `limit` bytes; the limit zero leaves nothing. -/
def bound (limit : Nat) (s : String) : String :=
  if limit = 0 then "" else Text.shorten s limit

mutual

/-- The value with every secret member masked and every other text bounded. -/
def redact (limit : Nat) : Json → Json
  | .string s => .string (bound limit s)
  | .array items => .array (redactItems limit items)
  | .object ms => .object (redactMembers limit ms)
  | j => j

def redactItems (limit : Nat) : List Json → List Json
  | [] => []
  | j :: rest => redact limit j :: redactItems limit rest

/-- Each member redacted; a secret one keeps its key only. -/
def redactMembers (limit : Nat) : List (String × Json) → Members
  | [] => []
  | (k, j) :: rest =>
    (k, if isSecretKey k then .string memberMask else redact limit j) :: redactMembers limit rest

end

/-- Secrets shorter than this many bytes are not looked for. -/
def minSecret : Nat := 4

def maskSecret (s secret : String) : String :=
  let needle := Text.trim secret
  if Text.Utf8.size needle < minSecret then s else Text.replace s needle textMask

/-- `s` with each of the secrets masked, in their order. -/
def maskSecrets (s : String) (secrets : List String) : String := secrets.foldl maskSecret s

/-- `s` with each of the secrets masked, then bounded. -/
def redactText (s : String) (limit : Nat) (secrets : List String) : String :=
  bound limit (maskSecrets s secrets)

/-! ### Connect strings

A connect string is `user/"password"@address`, with a user name that has neither blanks nor slashes.
-/

/-- The longest prefix without blanks and slashes, and what follows. -/
def splitUser (cs : List Char) : List Char × List Char :=
  cs.span fun c => c ≠ '/' ∧ ¬ Text.isBlank c

/-- An argument of a program with the password of a connect string masked. -/
def maskArgument (arg : String) : String :=
  match splitUser arg.toList with
  | ([], _) => arg
  | (user, '/' :: '"' :: rest) =>
    match rest.dropWhile (· ≠ '"') with
    | '"' :: '@' :: address =>
      String.ofList (user ++ '/' :: '"' :: memberMask.toList ++ '"' :: '@' :: address)
    | _ => arg
  | _ => arg

def maskArguments (args : List String) : List String := args.map maskArgument

end CommandAgent.Redaction
