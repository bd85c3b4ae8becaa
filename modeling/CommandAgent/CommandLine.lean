import CommandAgent.Agent

/-!
# The command line

The agent is called with `--command` and an envelope. With `--with-env` it runs itself once more,
with the variables of the plan on top of the environment, and passes on the exit code of that second
run. The exit code is 0 if the run came to a conclusion, 1 if it failed, and 2 if the arguments make
no sense.
-/

namespace CommandAgent.CommandLine

/-! ### Arguments -/

inductive Request where
  | help
  | run (encoded : String) (withEnv : Bool)
deriving DecidableEq, Repr

structure Seen where
  command : Option String := none
  withEnv : Bool := false

/-- Whether an argument looks like an option, so that it cannot be the value of one. -/
def looksLikeOption (s : String) : Bool := s.startsWith "-" && s ≠ "-"

/-- Take note of an envelope; there can be only one. -/
def Seen.setCommand? (s : Seen) (encoded : String) : Option Seen :=
  if s.command.isSome then none else some { s with command := some encoded }

/-- Take note of the wish for the plan's variables; it can be said only once. -/
def Seen.setWithEnv? (s : Seen) : Option Seen :=
  if s.withEnv then none else some { s with withEnv := true }

/-- The request, once all arguments have been read. -/
def Seen.request? (s : Seen) : Option Request := s.command.map fun c => .run c s.withEnv

/-- What follows an option's name and the equals sign. -/
def valueOf? (name arg : String) : Option String :=
  let start := (name ++ "=").toList
  if start.isPrefixOf arg.toList then some (String.ofList (arg.toList.drop start.length)) else none

/-- Read the arguments; nothing if they make no sense. -/
def readFrom (s : Seen) : List String → Option Request
  | [] => s.request?
  | "--command" :: value :: rest =>
    if looksLikeOption value then none else do readFrom (← s.setCommand? value) rest
  | "--" :: rest => if rest.isEmpty then s.request? else none
  | arg :: rest =>
    if arg = "--help" || arg.startsWith "-h" then some .help
    else if arg = "--with-env" || arg = "--with_env" then do readFrom (← s.setWithEnv?) rest
    else do readFrom (← s.setCommand? (← valueOf? "--command" arg)) rest

/-- Read the arguments; nothing if they make no sense. -/
def read (args : List String) : Option Request := readFrom {} args

/-! ### Running -/

variable {τ : Type}

def exitCode (r : Except Failure Conclusion) : Nat :=
  match r with
  | .ok _ => 0
  | .error _ => 1

def aborted (f : Failure) : Entry := ⟨.error, "Task aborted", f.logged⟩

/-- Run an agent; a failure is logged. -/
def runAgent (e : Surroundings τ) (a : Agent) (w : World) : Nat × World :=
  let r := a.run e w
  match r.result with
  | .ok _ => (exitCode r.result, r.world)
  | .error f => (exitCode r.result, a.logger.log (aborted f) r.world)

/-- What is printed for an agent that could not be made. -/
def refusal (f : Failure) : String := "behemoth: " ++ f.message ++ " " ++ f.logged.render

def withAgent (encoded : String) (next : Agent → World → Nat × World) (w : World) : Nat × World :=
  match Agent.prepare encoded w with
  | (.error f, w) => (1, { w with stderr := w.stderr ++ [refusal f] })
  | (.ok a, w) => next a w

def setting (key : String) : Entry :=
  ⟨.info, "Set environment variable", .ofMembers [("key", .string key)]⟩

/-- Whether a text could not be handed to another process. -/
def holdsNul (s : String) : Bool := s.toList.contains '\x00'

/-- The world of a second run, which begins with a journal of its own. -/
def relaunched (overlay : List (String × String)) (w : World) : World :=
  { w with
    env := overlay.foldl (fun env (key, value) => env.set key value) w.env
    journal := {} }

/-- Run once more with the variables of the plan. -/
def relaunch (e : Surroundings τ) (encoded : String) (a : Agent) (w : World) : Nat × World :=
  let overlay := a.plan.envOverlay
  let w := overlay.foldl (fun w (key, _) => a.logger.log (setting key) w) w
  if overlay.any fun (key, value) => holdsNul key || holdsNul value then
    let f := Failure.internal ("Failed to relaunch: " ++ OsError.nulInArgument.message)
    (1, a.logger.log ⟨.error, "Relaunch failed", f.logged⟩ w)
  else withAgent encoded (runAgent e) (relaunched overlay w)

/-- Do what the arguments ask for: the exit code, and the world afterwards. -/
def execute (e : Surroundings τ) (args : List String) (w : World) : Nat × World :=
  match read args with
  | none => (2, w)
  | some .help => (0, w)
  | some (.run encoded false) => withAgent encoded (runAgent e) w
  | some (.run encoded true) => withAgent encoded (relaunch e encoded) w

end CommandAgent.CommandLine
