import CommandAgent.Proofs.Task.Story

/-!
# The exchanges of a run

What the orchestrator is told in a run, and by whom it is answered. The requests of a run go to two
addresses: reports on the task to one, reports on its commands (the callbacks) to the other, which
is longer. Every answer is the orchestrator's own, given what it has been asked before
(`Task.run_answeredBy`).
-/

namespace CommandAgent

open Http (Exchange)

variable {σ : Type}

namespace Event

@[simp] theorem exchanges_append (a b : List Event) :
    exchanges (a ++ b) = exchanges a ++ exchanges b := List.filterMap_append

@[simp] theorem commands_append (a b : List Event) :
    commands (a ++ b) = commands a ++ commands b := List.filterMap_append

theorem exchanges_rounds (rounds : List Round) :
    exchanges (rounds.flatMap Round.events) = rounds.map Round.exchange := by
  induction rounds with
  | nil => rfl
  | cons r rest ih =>
    rw [List.flatMap_cons, exchanges_append, ih]
    rfl

theorem commands_rounds (rounds : List Round) :
    commands (rounds.flatMap Round.events) = rounds.map Round.command := by
  induction rounds with
  | nil => rfl
  | cons r rest ih =>
    rw [List.flatMap_cons, commands_append, ih]
    rfl

theorem calls_rounds (rounds : List Round) :
    calls (rounds.flatMap Round.events) = rounds.map Round.call := by
  induction rounds with
  | nil => rfl
  | cons r rest ih =>
    rw [List.flatMap_cons, calls_append, ih]
    rfl

/-! ### Who answers -/

/-- The reply to a request, after some exchanges. A usable address leads to the server, who knows
the exchanges before; any other one leads nowhere. -/
structure IsAnswer (server : Http.Server) (past : List Exchange) (e : Exchange) : Prop where
  reached {u : Url} : e.request.url = .ok u → e.reply = server past e.request
  unsent {reason : String} : e.request.url = .error reason → e.reply = .lost reason

/-- What sending a request comes to, and nothing else, is answered by the server. -/
theorem isAnswer_iff_eq_send {server : Http.Server} {past : List Exchange} {e : Exchange} :
    IsAnswer server past e ↔ e = e.request.send server past := by
  rw [Http.Request.send]
  cases hurl : e.request.url with
  | ok u =>
    constructor
    · exact fun h => congrArg (Exchange.mk e.request) (h.reached hurl)
    · intro h
      refine ⟨fun _ => congrArg Exchange.reply h, fun hunsent => ?_⟩
      rw [hurl] at hunsent
      cases hunsent
  | error reason =>
    constructor
    · exact fun h => congrArg (Exchange.mk e.request) (h.unsent hurl)
    · intro h
      refine ⟨fun hreached => ?_, fun hunsent => ?_⟩
      · rw [hurl] at hreached
        cases hreached
      · rw [hurl] at hunsent
        cases hunsent
        exact congrArg Exchange.reply h

/-- Each exchange is the server's, who knows the exchanges before it. -/
def AnsweredBy (server : Http.Server) (events : List Event) : Prop :=
  ∀ earlier e later, events = earlier ++ exchanged e :: later →
    IsAnswer server (exchanges earlier) e

variable {server : Http.Server} {events : List Event}

theorem answeredBy_nil : AnsweredBy server [] := by
  intro earlier e later h
  simp at h

/-- One more event keeps the exchanges in order, unless it is an exchange that is not the server's
next. -/
theorem AnsweredBy.concat (h : AnsweredBy server events) {x : Event}
    (hx : ∀ e, x = exchanged e → IsAnswer server (exchanges events) e) :
    AnsweredBy server (events ++ [x]) := by
  intro earlier e later heq
  -- the exchange in question is the new event, or it came before
  rcases List.eq_nil_or_concat later with rfl | ⟨init, y, rfl⟩
  · obtain ⟨rfl, hxe⟩ := List.append_inj' heq rfl
    exact hx e (List.cons.inj hxe).1
  · have hcut : events ++ [x] = (earlier ++ exchanged e :: init) ++ [y] := by
      rw [heq]; simp
    exact h earlier e init (List.append_inj' hcut rfl).1

theorem AnsweredBy.concat_send (h : AnsweredBy server events) (r : Http.Request) :
    AnsweredBy server (events ++ [exchanged (r.send server (exchanges events))]) := by
  apply h.concat
  intro e he
  obtain rfl := Event.exchanged.inj he
  rw [isAnswer_iff_eq_send, Http.Request.request_send]

end Event

namespace Task

open Event (AnsweredBy)

theorem answeredBy_reportStatus {t : Task σ} {p : Progress σ}
    (h : AnsweredBy t.orchestrator p.events) (status : TaskStatus) (reason : Option String) :
    AnsweredBy t.orchestrator (t.reportStatus status reason p).2.events := by
  rw [reportStatus_events]
  exact h.concat_send _

theorem answeredBy_afterRound {t : Task σ} {p : Progress σ}
    (h : AnsweredBy t.orchestrator p.events) (c : Command) :
    AnsweredBy t.orchestrator (t.afterRound c p).events := by
  rw [afterRound, reportCommand_events, execute_events]
  have hsubmitted := h.concat (x := .submitted c (t.execute c p).1) (fun e he => by cases he)
  exact hsubmitted.concat_send _

theorem answeredBy_close {t : Task σ} {p : Progress σ}
    (h : AnsweredBy t.orchestrator p.events) : AnsweredBy t.orchestrator (t.close p).events := by
  rw [close_events]
  exact h.concat (fun e he => by cases he)

/-- The rounds add only exchanges that the orchestrator has answered. -/
theorem answeredBy_runCommands {t : Task σ} (commands : List Command) (submitted : Nat)
    {p : Progress σ} (h : AnsweredBy t.orchestrator p.events) :
    AnsweredBy t.orchestrator (t.runCommands commands submitted p).2.events := by
  -- what is kept is `AnsweredBy` of the progress: every step only adds events behind
  induction commands generalizing submitted p with
  | nil =>
    simp only [runCommands, finish, log_events, logIf_events]
    exact answeredBy_reportStatus (answeredBy_close h) _ _
  | cons c rest ih =>
    by_cases hgo : (t.round c p).Continues
    · rw [runCommands_of_continues hgo]
      exact ih (submitted + 1) (answeredBy_afterRound h c)
    · obtain ⟨note, hrun⟩ := runCommands_of_stops hgo rest submitted
      rw [hrun]
      exact answeredBy_close (answeredBy_afterRound h c)

/-- In a run all answers are the orchestrator's. -/
theorem run_answeredBy (t : Task σ) (s : σ) (w : World) :
    AnsweredBy t.orchestrator (t.run s w).2.events := by
  obtain ⟨p, hconnect, hevents⟩ := t.connect_start s w
  have hp : AnsweredBy t.orchestrator p.events := by
    rw [hevents]
    exact Event.answeredBy_nil.concat (fun e he => by cases he)
  cases h : t.connectResult s w with
  | error f =>
    rw [h] at hconnect
    rw [run_of_error hconnect, logIf_events]
    exact answeredBy_reportStatus hp _ _
  | ok u =>
    rw [h] at hconnect
    rw [run_of_ok hconnect]
    apply answeredBy_runCommands
    rw [startPings_events, logIf_events]
    exact (answeredBy_reportStatus hp _ _).concat (fun e he => by cases he)

/-! ### Two addresses -/

/-- Commands and the task are reported on at different addresses. -/
theorem commandAddress_ne (r : Reporter) (taskId : String) :
    r.commandAddress taskId ≠ r.taskAddress taskId := by
  intro h
  have hlen := congrArg String.length h
  rw [Reporter.commandAddress, String.length_append] at hlen
  -- whatever the ids are, the one address is the longer
  have hcommand : "command/".length = 8 := by decide
  omega

/-- The exchanges about commands. -/
def callbacks (t : Task σ) (events : List Event) : List Exchange :=
  (Event.exchanges events).filter
    fun e => e.request.address = t.reporter.commandAddress t.plan.taskId

def answers (t : Task σ) (events : List Event) : List (Except Failure Decision) :=
  (t.callbacks events).map fun e => Reporter.judge e >>= Reporter.readDecision

theorem callbacks_append (t : Task σ) (a b : List Event) :
    t.callbacks (a ++ b) = t.callbacks a ++ t.callbacks b := by
  rw [callbacks, Event.exchanges_append, List.filter_append]
  rfl

/-- A report on the task is no report on a command. -/
theorem callbacks_status {t : Task σ} {e : Exchange} {status : TaskStatus}
    {reason : Option String} (h : e.request = t.statusRequest status reason) :
    t.callbacks [.exchanged e] = [] := by
  have hne : ¬ e.request.address = t.reporter.commandAddress t.plan.taskId := by
    rw [h]
    exact fun heq => commandAddress_ne _ _ heq.symm
  show List.filter _ [e] = []
  rw [List.filter_cons_of_neg (by simpa using hne), List.filter_nil]

/-- The rounds of a course hold one report on a command each, in their order. -/
theorem callbacks_rounds {t : Task σ} {rounds : List Round} (h : ∀ r ∈ rounds, t.Reported r) :
    t.callbacks (rounds.flatMap Round.events) = rounds.map Round.exchange := by
  rw [callbacks, Event.exchanges_rounds, List.filter_eq_self]
  intro e he
  obtain ⟨r, hr, rfl⟩ := List.mem_map.mp he
  obtain ⟨seconds, hrequest⟩ := h r hr
  rw [hrequest]
  exact decide_eq_true rfl

/-- The callbacks of a course are the exchanges of its rounds. -/
theorem Course.callbacks {t : Task σ} {commands : List Command} {before : Nat}
    {rounds : List Round} {result : Except Failure Conclusion} {story : List Event}
    (h : t.Course commands before rounds result story) (hreported : ∀ r ∈ rounds, t.Reported r) :
    t.callbacks story = rounds.map Round.exchange := by
  cases h with
  | @completed _ e _ _ he =>
    have hending : t.callbacks [.closed, .exchanged e] = [] := callbacks_status he
    rw [callbacks_append, callbacks_rounds hreported, hending, List.append_nil]
  | stopped _ _ _ =>
    have hending : t.callbacks [.closed] = [] := rfl
    rw [callbacks_append, callbacks_rounds hreported, hending, List.append_nil]

/-- The callbacks of a run whose session opens are the exchanges of its rounds. -/
theorem callbacks_of_course {t : Task σ} {e : Exchange} {commands : List Command} {before : Nat}
    {rounds : List Round} {result : Except Failure Conclusion} {story : List Event}
    (he : e.request = t.statusRequest .executing none)
    (h : t.Course commands before rounds result story) (hreported : ∀ r ∈ rounds, t.Reported r) :
    t.callbacks ([.connected none, .exchanged e, .pinging] ++ story) =
      rounds.map Round.exchange := by
  have hopening : t.callbacks [.connected none, .exchanged e, .pinging] = [] := callbacks_status he
  rw [callbacks_append, hopening, List.nil_append, h.callbacks hreported]

theorem answers_of_course {t : Task σ} {e : Exchange} {commands : List Command} {before : Nat}
    {rounds : List Round} {result : Except Failure Conclusion} {story : List Event}
    (he : e.request = t.statusRequest .executing none)
    (h : t.Course commands before rounds result story) (hreported : ∀ r ∈ rounds, t.Reported r) :
    t.answers ([.connected none, .exchanged e, .pinging] ++ story) = rounds.map Round.answer := by
  rw [answers, callbacks_of_course he h hreported, List.map_map]
  rfl

end Task
end CommandAgent
