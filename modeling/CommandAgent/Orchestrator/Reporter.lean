import CommandAgent.Handler.Basic
import CommandAgent.Http.Exchange
import CommandAgent.Log.Logger
import CommandAgent.Orchestrator.Decision

/-!
# Reports to the orchestrator

The orchestrator is told when a task begins, fails or succeeds, and of each command's outcome; its
answer to the latter decides whether the next command may run. Besides that it is pinged while the
task runs. Only an answer with code 200 counts; for a command its text must also be a decision.

Every report gives back the exchange that it came to, so that a run can be told by its exchanges.
-/

namespace CommandAgent

open Http (Exchange)

inductive TaskStatus where
  | executing
  | failed
  | success
deriving DecidableEq, Repr

def TaskStatus.name : TaskStatus → String
  | executing => "executing"
  | failed => "failed"
  | success => "success"

def Outcome.status (o : Outcome) : TaskStatus := if o.success then .success else .failed

structure Reporter where
  logger : Logger
  /-- The address of the orchestrator, without slashes at its end. -/
  base : String
  authorization : String
  organization : String
  /-- The pause between two pings, in milliseconds. -/
  healthDelay : Nat
deriving DecidableEq, Repr

namespace Reporter

/-! ### Making a reporter -/

/-- Whether a text may stand in a header: no control characters but the tabulator. -/
def fitsHeader (s : String) : Bool :=
  (Text.Utf8.encode s).all fun b => b = 9 || (32 ≤ b && b ≠ 127)

/-- A text without the slashes at its end. -/
def trimSlashes (s : String) : String :=
  String.ofList ((s.toList.reverse.dropWhile (· == '/')).reverse)

/-- A reporter for an orchestrator; the token and the organization go into headers. -/
def create (parent : Logger) (env : Environment) (base token organization : String) :
    Except Failure Reporter := do
  let authorization := "Bearer " ++ token
  unless fitsHeader authorization do
    throw (.config "token contains characters not allowed in a header")
  unless fitsHeader organization do
    throw (.config "org_id contains characters not allowed in a header")
  return ⟨parent.child "reporter", trimSlashes base, authorization, organization, env.healthDelay⟩

/-- A reporter for a plan. -/
def ofPlan (parent : Logger) (env : Environment) (p : Plan) : Except Failure Reporter :=
  create parent env p.host p.token p.orgId

/-! ### Addresses and bodies -/

def taskAddress (r : Reporter) (taskId : String) : String :=
  r.base ++ "/api/v1/behemoth/executions/" ++ taskId ++ "/"

def commandAddress (r : Reporter) (taskId : String) : String := r.taskAddress taskId ++ "command/"

def healthAddress (r : Reporter) (taskId : String) : String :=
  r.taskAddress taskId ++ "?type=health"

/-- The reason as it is reported; a dash stands for none. -/
def reasonText (reason : Option String) : String :=
  match reason with
  | some r => if r.isEmpty then "-" else r
  | none => "-"

def statusBody (status : TaskStatus) (reason : Option String) : Json :=
  .ofMembers [("status", .string status.name), ("reason", .string (reasonText reason))]

def commandBody (c : Command) (o : Outcome) (seconds : Nat) : Json :=
  .ofMembers
    [("command_id", .string c.id), ("timestamp", .nat seconds), ("output", .string o.output),
      ("status", .string o.status.name)]

def healthBody : Json := .ofMembers [("action", .string "health")]

/-! ### Sending -/

def request (r : Reporter) (method : Http.Method) (address : String) (body : Json) : Http.Request :=
  ⟨method, address, r.authorization, r.organization, body⟩

/-- What an exchange comes to: the text of an answer with code 200, or a failure. -/
def judge (e : Exchange) : Except Failure String :=
  match e.reply with
  | .lost reason => .error (.reporting s!"Request to {e.request.address} failed: {reason}")
  | .answered code text =>
    if code = 200 then .ok text
    else
      .error ((Failure.reporting s!"Orchestrator answered {code}: {text}").withDetails
        (.ofMembers [("url", .string e.request.address), ("status", .nat code)]))

def answered (e : Exchange) (code : Nat) : Entry :=
  ⟨.debug, "Callback answered",
    .ofMembers
      [("method", .string e.request.method.name), ("url", .string e.request.address),
        ("status", .nat code)]⟩

def note (r : Reporter) (e : Exchange) (w : World) : World :=
  match e.reply with
  | .answered code _ => r.logger.log (answered e code) w
  | .lost _ => w

def reportStatus (r : Reporter) (server : Http.Server) (past : List Exchange) (taskId : String)
    (status : TaskStatus) (reason : Option String) (w : World) :
    Except Failure Unit × Exchange × World :=
  let e := (r.request .patch (r.taskAddress taskId) (statusBody status reason)).send server past
  let w := r.note e w
  match judge e with
  | .error f => (.error f, e, w)
  | .ok _ =>
    (.ok (), e, r.logger.log
      ⟨.info, "Task status reported", .ofMembers [("status", .string status.name)]⟩ w)

def readDecision (text : String) : Except Failure Decision :=
  (Decision.parse text).mapError fun reason =>
    (Failure.reporting s!"Unparseable command callback response: {reason}").withDetails
      (.ofMembers [("body", .string text)])

/-- Report the outcome of a command, and learn whether to go on. -/
def reportCommand (r : Reporter) (server : Http.Server) (past : List Exchange) (taskId : String)
    (c : Command) (o : Outcome) (w : World) : Except Failure Decision × Exchange × World :=
  let body := commandBody c o w.seconds
  let e := (r.request .patch (r.commandAddress taskId) body).send server past
  (judge e >>= readDecision, e, r.note e w)

/-! ### Pings -/

/-- How often a ping is tried. -/
def maxAttempts : Nat := 3

def pingFailed (attempt : Nat) (f : Failure) : Entry :=
  ⟨.debug, "Health ping failed",
    .ofMembers [("attempt", .nat attempt), ("error", .string f.message)]⟩

/-- Try a ping as often as is left, from an attempt on. -/
def pingFrom (r : Reporter) (server : Http.Server) (taskId : String) :
    (left attempt : Nat) → (past : List Exchange) → World → List Exchange × World
  | 0, attempt, past, w =>
    (past, r.logger.log
      ⟨.warn, "Health ping gave up", .ofMembers [("attempts", .nat (attempt - 1))]⟩ w)
  | left + 1, attempt, past, w =>
    let e := (r.request .post (r.healthAddress taskId) healthBody).send server past
    let w := r.note e w
    match judge e with
    | .ok _ => (past ++ [e], w)
    | .error f =>
      let w := r.logger.log (pingFailed attempt f) w
      let w := if left = 0 then w else { w with clock := w.clock + r.healthDelay }
      pingFrom r server taskId left (attempt + 1) (past ++ [e]) w

def ping (r : Reporter) (server : Http.Server) (past : List Exchange) (taskId : String)
    (w : World) : List Exchange × World :=
  r.pingFrom server taskId maxAttempts 1 past w

end Reporter
end CommandAgent
