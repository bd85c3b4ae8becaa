import CommandAgent.CommandLine
import CommandAgent.Proofs.Handler.Secrecy
import CommandAgent.Proofs.Orchestrator.Secrecy
import CommandAgent.Proofs.Task.Lifecycle

/-!
# Secrets and the log of a run

The executor masks its secrets in what comes from the plan and from the backend: in the inputs and
the outputs of the commands, and in the message and the details of a failure to connect. So these
may hold a secret, and still no line of the run shows it, as long as the secret can be told from its
surroundings, nothing else in the plan has its sign, and neither the hints of the backend nor the
answers of the orchestrator give it away (`run_keeps_secret`): they are logged as they are.

The line for the end of a failed run is not the executor's, and nothing is masked there but members
with secret keys. It keeps the secret if the session was opened, since the failure is then one of
reporting. A failure to connect, though, is shown with its message and details
(`aborted_shows_secret`).
-/

namespace CommandAgent

open Http (Exchange)
open Json (Distinct)

-- what a request comes to is never looked into here, and its address is long to parse
attribute [local irreducible] Http.Request.send

variable {σ : Type} {sign : Char} {p : List Char} {I : World → Prop}

/-! ### Steps of a run -/

namespace Task

/-- Nothing that the lines of a run are made of has the sign, what is masked apart. -/
structure Lacks (sign : Char) (t : Task σ) : Prop where
  taskId : CommandAgent.Lacks sign t.plan.taskId
  command : ∀ c ∈ t.plan.commands, CommandAgent.Lacks sign c.id
  logger : CommandAgent.Lacks sign t.logger.context
  executor : CommandAgent.Lacks sign t.executor.logger.context
  reporter : CommandAgent.Lacks sign t.reporter.logger.context
  base : CommandAgent.Lacks sign t.reporter.base

/-- No reply to a report of the task has the sign. -/
structure RepliesLack (sign : Char) (t : Task σ) : Prop where
  status : ∀ status reason past,
    ((t.statusRequest status reason).send t.orchestrator past).reply.Lacks sign
  command : ∀ c o seconds past,
    ((t.commandRequest c o seconds).send t.orchestrator past).reply.Lacks sign

/-- All that keeps the log of a run from showing a secret. -/
structure Discreet (sign : Char) (p : List Char) (I : World → Prop) (t : Task σ) : Prop where
  distinct : Distinct sign p
  guarded : Guarded sign p I
  masks : t.executor.Masks p
  lacks : t.Lacks sign
  replies : t.RepliesLack sign
  respects : t.executor.handler.Respects p I

namespace Discreet

variable {t : Task σ} {g : Progress σ}

theorem fixed (h : t.Discreet sign p I) {s : String} (hs : Ordinary s) :
    CommandAgent.Lacks sign s :=
  hs.lacks h.distinct.rare

theorem lacks_taskAddress (h : t.Discreet sign p I) :
    CommandAgent.Lacks sign (t.reporter.taskAddress t.plan.taskId) :=
  .append (.append (.append h.lacks.base (h.fixed (by decide))) h.lacks.taskId)
    (h.fixed (by decide))

theorem lacks_commandAddress (h : t.Discreet sign p I) :
    CommandAgent.Lacks sign (t.reporter.commandAddress t.plan.taskId) :=
  .append h.lacks_taskAddress (h.fixed (by decide))

theorem lacks_status_address (h : t.Discreet sign p I) {status : TaskStatus}
    {reason : Option String} {past : List Exchange} :
    CommandAgent.Lacks sign
      ((t.statusRequest status reason).send t.orchestrator past).request.address := by
  rw [Http.Request.request_send]
  exact h.lacks_taskAddress

theorem lacks_command_address (h : t.Discreet sign p I) {c : Command} {o : Outcome}
    {seconds : Nat} {past : List Exchange} :
    CommandAgent.Lacks sign
      ((t.commandRequest c o seconds).send t.orchestrator past).request.address := by
  rw [Http.Request.request_send]
  exact h.lacks_commandAddress

theorem log (h : t.Discreet sign p I) {e : Entry} (he : e.Keeps sign p) (hg : I g.world) :
    I (t.log e g).world :=
  h.guarded.log_of_keeps h.distinct h.lacks.logger he hg

theorem logIf (h : t.Discreet sign p I) {entry : Failure → Entry} {r : Except Failure Unit}
    (he : ∀ f, r = .error f → (entry f).Keeps sign p) (hg : I g.world) :
    I (t.logIf entry r g).world := by
  cases r with
  | ok u => exact hg
  | error f => exact h.log (he f rfl) hg

theorem connect (h : t.Discreet sign p I) (hg : I g.world) : I (t.connect g).2.world :=
  Executor.connect_guarded h.distinct h.guarded h.masks h.lacks.executor h.respects hg

theorem execute (h : t.Discreet sign p I) {c : Command} (hc : CommandAgent.Lacks sign c.id)
    (hg : I g.world) : I (t.execute c g).2.world :=
  Executor.execute_guarded h.distinct h.guarded h.masks h.lacks.executor h.respects hc hg

theorem close (h : t.Discreet sign p I) (hg : I g.world) : I (t.close g).world :=
  Executor.close_guarded h.distinct h.guarded h.lacks.executor h.respects hg

/-- A report on the task: its line does not show the secret, and neither does its failure. -/
theorem reportStatus (h : t.Discreet sign p I) (status : TaskStatus) (reason : Option String)
    (hg : I g.world) :
    I (t.reportStatus status reason g).2.world ∧
      ∀ f, (t.reportStatus status reason g).1 = .error f → f.Lacks sign := by
  have hreply := h.replies.status status reason (Event.exchanges g.events)
  exact Reporter.reportStatus_guarded h.distinct h.guarded h.lacks.reporter rfl
    h.lacks_status_address hreply hg

/-- A report on a command: its line does not show the secret, and neither does its answer. -/
theorem reportCommand (h : t.Discreet sign p I) (c : Command) (o : Outcome) (hg : I g.world) :
    I (t.reportCommand c o g).2.world ∧
      (∀ f, (t.reportCommand c o g).1 = .error f → f.Lacks sign) ∧
      ∀ d, (t.reportCommand c o g).1 = .ok d → CommandAgent.Lacks sign d.detail := by
  have hreply := h.replies.command c o g.world.seconds (Event.exchanges g.events)
  refine ⟨?_, ?_, ?_⟩
  · exact Reporter.note_guarded h.distinct h.guarded h.lacks.reporter h.lacks_command_address hg
  · exact fun f => Reporter.lacks_of_answer_error h.distinct h.lacks_command_address hreply
  · exact fun d => Reporter.lacks_detail _ hreply

/-! ### Lines of a run -/

theorem keeps_starting (h : t.Discreet sign p I) : t.starting.Keeps sign p := by
  refine .of_members h.distinct (by decide) ?_
  simp only [List.forall_mem_cons]
  exact ⟨h.distinct.hides_text (by decide) h.lacks.taskId,
    h.distinct.hides_ordinary (by decide) (Backend.ordinary_name _), by simp⟩

theorem keeps_callbackFailed (h : t.Discreet sign p I) {c : Command}
    (hc : CommandAgent.Lacks sign c.id) {f : Failure} (hf : f.Lacks sign) :
    (callbackFailed c f).Keeps sign p := by
  refine .of_members h.distinct (by decide) ?_
  simp only [List.forall_mem_cons]
  exact ⟨h.distinct.hides_text (by decide) hc, .of (by decide) (h.distinct.walled_logged hf),
    by simp⟩

theorem keeps_notAllowed (h : t.Discreet sign p I) {c : Command}
    (hc : CommandAgent.Lacks sign c.id) {d : Decision} (hd : CommandAgent.Lacks sign d.detail) :
    (notAllowed c d).Keeps sign p := by
  refine .of_members h.distinct (by decide) ?_
  simp only [List.forall_mem_cons]
  exact ⟨h.distinct.hides_text (by decide) hc, h.distinct.hides_text (by decide) hd, by simp⟩

theorem keeps_rejected (h : t.Discreet sign p I) {what : String}
    (hwhat : Ordinary (what ++ " report rejected")) {f : Failure} (hf : f.Lacks sign) :
    (rejected what f).Keeps sign p := by
  refine .of_members h.distinct hwhat ?_
  simp only [List.forall_mem_cons]
  exact ⟨h.distinct.hides_text (by decide) hf.message, by simp⟩

theorem keeps_failureRejected (h : t.Discreet sign p I) {f : Failure} (hf : f.Lacks sign) :
    (failureRejected f).Keeps sign p :=
  ⟨h.fixed (s := "Failure report rejected") (by decide), h.distinct.walled_logged hf⟩

theorem keeps_finished (h : t.Discreet sign p I) (submitted : Nat) :
    (finished submitted).Keeps sign p := by
  refine .of_members h.distinct (by decide) ?_
  simp only [List.forall_mem_cons]
  exact ⟨h.distinct.hides_nat (by decide) submitted, by simp⟩

theorem keeps_aborted (h : t.Discreet sign p I) {f : Failure} (hf : f.Lacks sign) :
    (CommandLine.aborted f).Keeps sign p :=
  ⟨h.fixed (s := "Task aborted") (by decide), h.distinct.walled_logged hf⟩

/-! ### Runs -/

theorem finish (h : t.Discreet sign p I) (submitted : Nat) (hg : I g.world) :
    I (t.finish submitted g).world := by
  obtain ⟨hreport, hfailure⟩ := h.reportStatus .success none (h.close hg)
  refine h.log (h.keeps_finished submitted) (h.logIf ?_ hreport)
  exact fun f hf => h.keeps_rejected (by decide) (hfailure f hf)

/-- The commands that are left: none of their lines shows the secret, and a failure that ends the
run does not have its sign. -/
theorem runCommands (h : t.Discreet sign p I) {commands : List Command}
    (hc : ∀ c ∈ commands, CommandAgent.Lacks sign c.id) (submitted : Nat) (hg : I g.world) :
    I (t.runCommands commands submitted g).2.world ∧
      ∀ f, (t.runCommands commands submitted g).1 = .error f → f.Lacks sign := by
  induction commands generalizing submitted g with
  | nil =>
    refine ⟨h.finish submitted hg, ?_⟩
    intro f hf
    cases hf
  | cons c rest ih =>
    obtain ⟨hid, hrest⟩ := List.forall_mem_cons.mp hc
    obtain ⟨hreport, hfailure, hdetail⟩ := h.reportCommand c (t.execute c g).1 (h.execute hid hg)
    cases hanswer : (t.reportCommand c (t.execute c g).1 (t.execute c g).2).1 with
    | error f =>
      simp only [Task.runCommands, hanswer]
      have hf := hfailure f hanswer
      refine ⟨h.close (h.log (h.keeps_callbackFailed hid hf) hreport), ?_⟩
      rintro f' ⟨⟩
      exact hf
    | ok d =>
      cases hproceed : d.proceed with
      | true =>
        simp only [Task.runCommands, hanswer, hproceed, if_true]
        exact ih hrest (submitted + 1) hreport
      | false =>
        simp only [Task.runCommands, hanswer, hproceed, Bool.false_eq_true, if_false]
        have hd := hdetail d hanswer
        refine ⟨h.close (h.log (h.keeps_notAllowed hid hd) hreport), ?_⟩
        intro f hf
        cases hf

/-- A run: none of its lines shows the secret, and if the session opens, a failure that ends the
run does not have its sign. -/
theorem run (h : t.Discreet sign p I) {s : σ} {w : World} (hw : I w) :
    I (t.run s w).2.world ∧
      (t.opens s w = true → ∀ f, (t.run s w).1 = .error f → f.Lacks sign) := by
  obtain ⟨g, hconnect, -⟩ := t.connect_start s w
  have hstart : I (t.start s w).world := h.log h.keeps_starting hw
  have hopen : I g.world := by
    have hconnected := h.connect hstart
    rwa [hconnect] at hconnected
  cases hresult : t.connectResult s w with
  | error f =>
    rw [hresult] at hconnect
    obtain ⟨hreport, hfailure⟩ := h.reportStatus .failed (some f.message) hopen
    rw [run_of_error hconnect, opens, hresult]
    refine ⟨h.logIf (fun f hf => h.keeps_failureRejected (hfailure f hf)) hreport, ?_⟩
    intro hopens
    cases hopens
  | ok u =>
    rw [hresult] at hconnect
    obtain ⟨hreport, hfailure⟩ := h.reportStatus .executing none hopen
    rw [run_of_ok hconnect]
    have hstarted : I (startPings (t.logIf (rejected "Start") (t.reportStatus .executing none g).1
        (t.reportStatus .executing none g).2)).world :=
      h.logIf (fun f hf => h.keeps_rejected (by decide) (hfailure f hf)) hreport
    obtain ⟨hrun, hlacks⟩ := h.runCommands h.lacks.command 0 hstarted
    exact ⟨hrun, fun _ => hlacks⟩

end Discreet
end Task

/-! ### Secrets -/

namespace Redaction

/-- A secret that is masked, and can be told from its surroundings. -/
structure Recognizable (sign : Char) (secret : String) : Prop where
  long : minSecret ≤ Text.Utf8.size (Text.trim secret)
  edge : edge ∉ needle secret
  distinct : Distinct sign (needle secret)

/-- A secret that can be told from its surroundings can be masked. -/
theorem Recognizable.maskable {secret : String} (h : Recognizable sign secret) :
    Maskable secret where
  long := h.long
  foreign := {
    edge := h.edge
    outside := fun hin =>
      have hmask : Ordinary textMask := by decide
      hmask.lacks h.distinct.rare (hin.subset h.distinct.mem) }

end Redaction

open Redaction (needle Recognizable)

/-- What a run writes to the log, and what is written if it fails. The properties of worlds that a
line breaks only by showing the secret survive the run: whatever the inputs and outputs of its
commands are, and whatever message and details come with a failure to connect, none of its lines
shows the secret. The line for the end of a run that failed does not show it either, if the session
was opened or the failure does not have its sign. -/
theorem Task.run_keeps_secret {t : Task σ} {secret : String}
    (hmem : secret ∈ t.executor.secrets) (hsecret : Recognizable sign secret)
    (hlacks : t.Lacks sign) (hreplies : t.RepliesLack sign)
    (hI : Guarded sign (needle secret) I) (hh : t.executor.handler.Respects (needle secret) I)
    {s : σ} {w : World} (hw : I w) :
    I (t.run s w).2.world ∧
      ∀ f, (t.run s w).1 = .error f → t.opens s w = true ∨ f.Lacks sign →
        I (t.logger.log (CommandLine.aborted f) (t.run s w).2.world) := by
  have ht : t.Discreet sign (needle secret) I := {
    distinct := hsecret.distinct
    guarded := hI
    masks := Redaction.not_infix_maskSecrets hmem hsecret.maskable
    lacks := hlacks
    replies := hreplies
    respects := hh }
  obtain ⟨hrun, hopen⟩ := ht.run hw
  refine ⟨hrun, ?_⟩
  rintro f hf (hopens | hfailure)
  · exact ht.log (g := (t.run s w).2) (ht.keeps_aborted (hopen hopens f hf)) hrun
  · exact ht.log (g := (t.run s w).2) (ht.keeps_aborted hfailure) hrun

/-! ### A backend that tells its password -/

/-- A text with a password, `s3cret^pw`. -/
def passwordEcho : String := "SET PASSWORD = 's3cret^pw';"

/-- A failure to connect that tells what the backend has printed. -/
def echoedFailure : Failure :=
  (Failure.connection "exited").withDetails (.ofMembers [("output", .string passwordEcho)])

/-- A backend that opens its session or not, and prints the password in any case. -/
def echoingBackend (opened : Except Failure Unit) : Handler Unit where
  backend := .script
  connect s w := (opened, s, w)
  submit _ s w := (.ok passwordEcho, s, w)
  close s w := (s, w)

/-- A token, with a sign of its own as well. -/
def echoingToken : String := "0123456789abcdef~tail"

/-- A task for that backend, with the password in its command; no report of it is ever taken. -/
def echoingTask (opened : Except Failure Unit) : Task Unit where
  plan := {
    taskId := "t", host := "", token := echoingToken, orgId := "", backend := .script
    script := "/bin/sh", scriptArgs := [], auth := { password := "s3cret^pw" }
    cmdFile := "", cmdSetPath := ""
    commands := [{ id := "c1", input := passwordEcho }], encrypted := false, envs := ""
    prompt := "mysql> ", columns := 80, rows := 24 }
  logger := ⟨"behemoth", .info⟩
  executor := .below ⟨"behemoth", .info⟩ (echoingBackend opened) ["s3cret^pw", echoingToken]
  reporter := ⟨⟨"behemoth:reporter", .info⟩, "", "Bearer " ++ echoingToken, "", 0⟩
  orchestrator := fun _ _ => .lost "no route"

def emptyLog : World where
  files := ⟨[(["log"], .file [] false)]⟩
  cwd := []
  env := []
  journal := { sink := some ["log"] }

theorem needle_password :
    needle "s3cret^pw" = ['s', '3', 'c', 'r', 'e', 't', '^', 'p', 'w'] := by decide

theorem distinct_password : Distinct '^' ['s', '3', 'c', 'r', 'e', 't', '^', 'p', 'w'] where
  mem := by decide
  rare := by decide
  unescaped := by
    simp only [List.forall_mem_cons]
    exact ⟨rfl, rfl, rfl, rfl, rfl, rfl, rfl, rfl, rfl, by simp⟩
  start := by
    rintro c ⟨⟩
    decide

theorem recognizable_password : Recognizable '^' "s3cret^pw" where
  long := by decide
  edge := by rw [needle_password]; decide
  distinct := by rw [needle_password]; exact distinct_password

theorem lacks_echoingTask (opened : Except Failure Unit) : (echoingTask opened).Lacks '^' where
  taskId := (by decide : Lacks '^' "t")
  command := List.forall_mem_singleton.mpr (by decide : Lacks '^' "c1")
  logger := (by decide : Lacks '^' "behemoth")
  executor := (by decide : Lacks '^' "behemoth:executor")
  reporter := (by decide : Lacks '^' "behemoth:reporter")
  base := (by decide : Lacks '^' "")

/-- A request without a base comes to nothing, whatever the server. -/
theorem send_of_noBase {q : Http.Request} (h : Url.scheme? (Url.tidy q.address.toList) = none)
    (server : Http.Server) (past : List Exchange) :
    (q.send server past).reply = .lost "builder error: relative URL without a base" := by
  have hurl : q.url = .error "builder error: relative URL without a base" := by
    rw [Http.Request.url, Url.parse, h]
    rfl
  rw [Http.Request.send, hurl]

/-- No reply of its orchestrator has the sign. -/
theorem repliesLack_echoingTask (opened : Except Failure Unit) :
    (echoingTask opened).RepliesLack '^' := by
  have hlacks : (Http.Reply.lost "builder error: relative URL without a base").Lacks '^' :=
    (by decide : Lacks '^' "builder error: relative URL without a base")
  have hstatus : Url.scheme? (Url.tidy
      ("" ++ "/api/v1/behemoth/executions/" ++ "t" ++ "/").toList) = none := by decide
  have hcommand : Url.scheme? (Url.tidy
      ("" ++ "/api/v1/behemoth/executions/" ++ "t" ++ "/" ++ "command/").toList) = none := by
    decide
  constructor
  · intro status reason past
    rw [send_of_noBase (q := (echoingTask opened).statusRequest status reason) hstatus]
    exact hlacks
  · intro c o seconds past
    rw [send_of_noBase (q := (echoingTask opened).commandRequest c o seconds) hcommand]
    exact hlacks

theorem fileHides_emptyLog : FileHides '^' (needle "s3cret^pw") ["log"] emptyLog where
  stamp := by decide
  sink := rfl
  lines := ⟨[], false, rfl, nofun⟩

/-- The password is in the command and in its output, and the log does not show it, not even when
the failure of the run has been logged. -/
theorem run_keeps_secret_echoed :
    FileHides '^' (needle "s3cret^pw") ["log"] ((echoingTask (.ok ())).run () emptyLog).2.world ∧
      ∀ f, ((echoingTask (.ok ())).run () emptyLog).1 = .error f →
        FileHides '^' (needle "s3cret^pw") ["log"] ((echoingTask (.ok ())).logger.log
          (CommandLine.aborted f) ((echoingTask (.ok ())).run () emptyLog).2.world) := by
  obtain ⟨hrun, haborted⟩ := Task.run_keeps_secret (t := echoingTask (.ok ())) (s := ())
    List.mem_cons_self recognizable_password (lacks_echoingTask _)
    (repliesLack_echoingTask _) (guarded_fileHides ["log"])
    { connect := id, submit := id, close := id, hint := nofun } fileHides_emptyLog
  exact ⟨hrun, fun f hf => haborted f hf (.inl rfl)⟩

/-- A run that fails to connect: the executor masks the password in the details of the failure, and
the line for the end of the run shows it. -/
theorem aborted_shows_secret :
    ∃ f, ((echoingTask (.error echoedFailure)).run () emptyLog).1 = .error f ∧
      ¬ needle "s3cret^pw" <:+: ((echoingTask (.error echoedFailure)).executor.logger.line ""
        ((echoingTask (.error echoedFailure)).executor.connectFailed f)).toList ∧
      needle "s3cret^pw" <:+: ((echoingTask (.error echoedFailure)).logger.line ""
        (CommandLine.aborted f)).toList := by
  obtain ⟨-, hresult, -, -⟩ := Task.run_of_connect_error
    (t := echoingTask (.error echoedFailure)) (s := ()) (w := emptyLog) rfl
  have hmask : (echoingTask (.error echoedFailure)).executor.Masks (needle "s3cret^pw") :=
    Redaction.not_infix_maskSecrets List.mem_cons_self recognizable_password.maskable
  have hmasked := Executor.keeps_connectFailed recognizable_password.distinct hmask
    (f := echoedFailure) nofun
  refine ⟨echoedFailure, hresult, ?_, by decide +kernel⟩
  exact hmasked.not_infix_line recognizable_password.distinct (by decide)
    (lacks_echoingTask _).executor

end CommandAgent
