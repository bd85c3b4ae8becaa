import CommandAgent.Host.Path
import CommandAgent.Text.Blank

/-!
# The environment

A handful of environment variables steer the agent: where the error codes and the logs are, how
long it waits between health reports, whether the log is repeated on the terminal. A variable that
holds nothing usable counts as unset.
-/

namespace CommandAgent

abbrev Environment := List (String × String)

namespace Environment

def get? (env : Environment) (name : String) : Option String :=
  (env.find? (·.1 = name)).map (·.2)

def set (env : Environment) (name value : String) : Environment :=
  if env.any (·.1 = name) then env.map fun e => if e.1 = name then (name, value) else e
  else env ++ [(name, value)]

def unset (env : Environment) (name : String) : Environment := env.filter (·.1 ≠ name)

/-- Whether one of the variables is switched on. -/
def isOn (env : Environment) (names : List String) : Bool :=
  names.any fun n => (env.get? n).any Text.isTruthy

/-- Whether log lines are repeated on standard error. -/
def echoesLog (env : Environment) : Bool := env.isOn ["BEHEMOTH_LOG_STDERR"]

/-! ### The health delay -/

/-- An integer without sign, or with a plus sign, below a bound. -/
def natBelow? (bound : Nat) (s : String) : Option Nat :=
  let digits := match s.toList with
    | '+' :: rest => rest
    | cs => cs
  if digits.isEmpty ∨ ¬ digits.all Char.isDigit then none
  else
    let n := digits.foldl (fun n c => n * 10 + (c.toNat - 48)) 0
    if n < bound then some n else none

/-- The pause between two health reports, in milliseconds, unless another is set. -/
def defaultHealthDelay : Nat := 10000

/-- The pause between two health reports, in milliseconds. -/
def healthDelay (env : Environment) : Nat :=
  ((env.get? "BEHEMOTH_HEALTH_RETRY_DELAY_MS").bind fun v =>
    natBelow? (Nat.pow 2 64) (Text.trim v)).getD defaultHealthDelay

/-! ### Paths -/

/-- A path from a variable: blank values and the words `undefined` and `null` are none. -/
def path? (env : Environment) (name : String) : Option String := do
  let trimmed := Text.trim (← env.get? name)
  let word := Text.lower trimmed
  if trimmed.isEmpty || word == "undefined" || word == "null" then none else some trimmed

def errorCodePath (env : Environment) : String :=
  (env.path? "BEHEMOTH_ERROR_CODE_PATH").getD "/opt/behemoth/data/error_code.json"

def logDirectory (env : Environment) : String :=
  (env.path? "BEHEMOTH_LOG_DIR").getD "/tmp/behemoth/logs"

/-- A task id as part of a file name: letters, digits, dashes and underscores stay. -/
def fileSafe (taskId : String) : String :=
  taskId.map fun c => if c.isAlphanum || c == '-' || c == '_' then c else '_'

def taskLogPath (env : Environment) (taskId : String) : String :=
  Path.join env.logDirectory (fileSafe taskId ++ "-bs.log")

def temporaryDirectory (env : Environment) : String := (env.get? "TMPDIR").getD "/tmp"

/-- A path as the orchestrator gives it: without outer blanks, and with the home directory in place
of a leading tilde. -/
def expandHome (env : Environment) (path : String) : String :=
  let trimmed := Text.trim path
  match trimmed.toList, env.get? "HOME" with
  | '~' :: '/' :: rest, some home => Path.join home (String.ofList rest)
  | ['~'], some home => home
  | _, _ => trimmed

end Environment
end CommandAgent
