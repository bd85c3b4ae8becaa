import CommandAgent.Text.Blank

/-!
# Log levels

A logger has a level and writes the lines of that level and of the more serious ones.
-/

namespace CommandAgent

inductive Level where
  | error
  | warn
  | info
  | debug
deriving DecidableEq, Repr

namespace Level

/-- The more serious a level, the lower its rank. -/
def rank : Level → Nat
  | error => 0
  | warn => 1
  | info => 2
  | debug => 3

/-- Whether a logger of level `l` writes lines of level `other`. -/
def allows (l other : Level) : Bool := other.rank ≤ l.rank

def label : Level → String
  | error => "ERROR"
  | warn => "WARN"
  | info => "INFO"
  | debug => "DEBUG"

def name : Level → String
  | error => "error"
  | warn => "warn"
  | info => "info"
  | debug => "debug"

/-- The level that a word sets; any other word sets `info`. -/
def ofWord (word : String) : Level :=
  match Text.lower word with
  | "error" => error
  | "warn" => warn
  | "debug" => debug
  | _ => info

end Level
end CommandAgent
