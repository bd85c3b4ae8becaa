import CommandAgent.Handler.Executor
import CommandAgent.Orchestrator.Reporter
import CommandAgent.Task.Event

/-!
# Running a task

A task is run in three steps. First the session is opened; if that fails, the orchestrator is told
so and nothing else happens. Then the orchestrator is told that the task is executing, and the
commands are submitted one by one: each outcome is reported before the next command, and the answer
to the report decides whether there is a next command. In the end the session is closed, and if
nothing stopped the run, the orchestrator is told of its success. Reports on the task as a whole may
be rejected without any consequence but a line in the log; a report on a command must be answered.
-/

namespace CommandAgent

open Http (Exchange)

/-- A task to be run: a plan with the executor for its session and the reporter for its progress. -/
structure Task (σ : Type) where
  plan : Plan
  logger : Logger
  executor : Executor σ
  reporter : Reporter
  orchestrator : Http.Server

structure Progress (σ : Type) where
  session : σ
  world : World
  /-- What has happened, in order. -/
  events : List Event := []

namespace Task

variable {σ : Type}

/-! ### Log lines -/

def starting (t : Task σ) : Entry :=
  ⟨.info, "Start executing the task",
    .ofMembers
      [("task_id", .string t.plan.taskId), ("backend", .string t.executor.handler.backend.name)]⟩

/-- The line for a report on a command that was not answered with a decision. -/
def callbackFailed (c : Command) (f : Failure) : Entry :=
  ⟨.error, "Command callback failed",
    .ofMembers [("command_id", .string c.id), ("error", f.logged)]⟩

def notAllowed (c : Command) (d : Decision) : Entry :=
  ⟨.warn, "Not allowed to continue executing commands",
    .ofMembers [("command_id", .string c.id), ("detail", .string d.detail)]⟩

def rejected (what : String) (f : Failure) : Entry :=
  ⟨.warn, what ++ " report rejected", .ofMembers [("error", .string f.message)]⟩

def failureRejected (f : Failure) : Entry := ⟨.error, "Failure report rejected", f.logged⟩

def finished (submitted : Nat) : Entry :=
  ⟨.info, "Task finished successfully", .ofMembers [("submitted", .nat submitted)]⟩

/-! ### Steps -/

def log (t : Task σ) (e : Entry) (p : Progress σ) : Progress σ :=
  { p with world := t.logger.log e p.world }

/-- Log the failure of a report, if it failed. -/
def logIf (t : Task σ) (entry : Failure → Entry) (r : Except Failure Unit) (p : Progress σ) :
    Progress σ :=
  match r with
  | .ok _ => p
  | .error f => t.log (entry f) p

def connect (t : Task σ) (p : Progress σ) : Except Failure Unit × Progress σ :=
  let (r, s, w) := t.executor.connect p.session p.world
  let failure := match r with
    | .ok _ => none
    | .error f => some f
  (r, ⟨s, w, p.events ++ [.connected failure]⟩)

def execute (t : Task σ) (c : Command) (p : Progress σ) : Outcome × Progress σ :=
  let (o, s, w) := t.executor.execute c p.session p.world
  (o, ⟨s, w, p.events ++ [.submitted c o]⟩)

def close (t : Task σ) (p : Progress σ) : Progress σ :=
  let (s, w) := t.executor.close p.session p.world
  ⟨s, w, p.events ++ [.closed]⟩

def startPings (p : Progress σ) : Progress σ := { p with events := p.events ++ [.pinging] }

def reportStatus (t : Task σ) (status : TaskStatus) (reason : Option String) (p : Progress σ) :
    Except Failure Unit × Progress σ :=
  let (r, e, w) := t.reporter.reportStatus t.orchestrator (Event.exchanges p.events) t.plan.taskId
    status reason p.world
  (r, { p with world := w, events := p.events ++ [.exchanged e] })

def reportCommand (t : Task σ) (c : Command) (o : Outcome) (p : Progress σ) :
    Except Failure Decision × Progress σ :=
  let (r, e, w) := t.reporter.reportCommand t.orchestrator (Event.exchanges p.events) t.plan.taskId
    c o p.world
  (r, { p with world := w, events := p.events ++ [.exchanged e] })

/-! ### The run -/

/-- The end of a run that nothing stopped. -/
def finish (t : Task σ) (submitted : Nat) (p : Progress σ) : Progress σ :=
  let p := t.close p
  let (r, p) := t.reportStatus .success none p
  t.log (finished submitted) (t.logIf (rejected "Success") r p)

/-- Run the commands that are left, after as many as have been submitted. -/
def runCommands (t : Task σ) : List Command → (submitted : Nat) → Progress σ →
    Except Failure Conclusion × Progress σ
  | [], submitted, p => (.ok (.completed submitted), t.finish submitted p)
  | c :: rest, submitted, p =>
    let (o, p) := t.execute c p
    let (answer, p) := t.reportCommand c o p
    match answer with
    | .error f => (.error f, t.close (t.log (callbackFailed c f) p))
    | .ok d =>
      if d.proceed then runCommands t rest (submitted + 1) p
      else
        (.ok (.halted c.id d.detail (submitted + 1)), t.close (t.log (notAllowed c d) p))

def run (t : Task σ) (s : σ) (w : World) : Except Failure Conclusion × Progress σ :=
  let (r, p) := t.connect (t.log t.starting { session := s, world := w })
  match r with
  | .error f =>
    let (r, p) := t.reportStatus .failed (some f.message) p
    (.error f, t.logIf failureRejected r p)
  | .ok _ =>
    let (r, p) := t.reportStatus .executing none p
    t.runCommands t.plan.commands 0 (startPings (t.logIf (rejected "Start") r p))

end Task
end CommandAgent
