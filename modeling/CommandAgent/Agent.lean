import CommandAgent.Batch.Handler
import CommandAgent.Database.Mysql
import CommandAgent.Database.Oracle
import CommandAgent.Interactive.Handler
import CommandAgent.Plan.Load
import CommandAgent.Plan.Overlay
import CommandAgent.Task.Run

/-!
# The agent

An agent is made from the task's envelope: the plan is loaded, the log of the task is attached, the
error codes are read and the reporter is set up, all without contacting anyone. Then it runs the
plan's commands in a session of the plan's backend.
-/

namespace CommandAgent

/-- The surroundings of an agent: whom and what it deals with besides the world's files. -/
structure Surroundings (τ : Type) where
  orchestrator : Http.Server
  mysql : Database.Server
  oracle : Database.Server
  console : Terminal.Console τ
  machine : Machine

/-- An agent ready to run. -/
structure Agent where
  logger : Logger
  plan : Plan
  reporter : Reporter
  codes : ErrorCodes

namespace Agent

/-- Attach the log of a task; where that cannot be done, lines go on to standard error. -/
def attachLog (logger : Logger) (taskId : String) (w : World) : World :=
  let path := w.env.taskLogPath taskId
  match Logger.redirect path w.env.echoesLog w with
  | (.ok _, w) => w
  | (.error e, w) =>
    logger.log
      ⟨.warn, "Task log file unavailable, logging to stderr",
        .ofMembers [("path", .string path), ("error", .string e.message)]⟩ w

def prepare (encoded : String) (w : World) : Except Failure Agent × World :=
  let logger := Logger.root "behemoth" w.env
  match load logger encoded w with
  | (.error f, w) => (.error f, w)
  | (.ok plan, w) =>
    let w := attachLog logger plan.taskId w
    let (codes, w) := ErrorCodes.ofFileOrNone logger w.env.errorCodePath w
    (do return ⟨logger, plan, ← Reporter.ofPlan logger w.env plan, codes⟩, w)

/-- The texts that the log must not show. -/
def secrets (a : Agent) : List String := [a.plan.auth.password, a.plan.token]

/-- The task of running the agent's plan with a handler. -/
def task {σ : Type} (a : Agent) (orchestrator : Http.Server) (h : Handler σ) : Task σ :=
  ⟨a.plan, a.logger, .below a.logger h a.secrets, a.reporter, orchestrator⟩

/-- What is left of a run: its result, its events and the world after it. -/
structure Report where
  result : Except Failure Conclusion
  events : List Event
  world : World

/-- Run the plan with a handler, from its first state. -/
def runWith {σ : Type} (a : Agent) (orchestrator : Http.Server) (h : Handler σ) (s : σ)
    (w : World) : Report :=
  let (result, p) := (a.task orchestrator h).run s w
  ⟨result, p.events, p.world⟩

def run {τ : Type} (a : Agent) (e : Surroundings τ) (w : World) : Report :=
  match a.plan.backend with
  | .mysql => a.runWith e.orchestrator (Database.Mysql.handler e.mysql a.logger a.plan.auth) {} w
  | .oracle => a.runWith e.orchestrator (Database.Oracle.handler e.oracle a.logger a.plan.auth) {} w
  | .script =>
    a.runWith e.orchestrator (Interactive.handler e.console a.logger (.ofPlan a.plan)) {} w
  | .localScript =>
    a.runWith e.orchestrator (Batch.handler e.machine a.logger (.ofPlan a.plan) a.codes) {} w

end Agent
end CommandAgent
