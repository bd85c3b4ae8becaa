import CommandAgent.Task.Run

/-!
# The calls of a run

The events of a run are written down by the run itself. That they tell what the handler was really
asked is the subject of this module: `Handler.recorded` keeps a list of the calls that reach a
handler, and a run with a recorded handler is the run with the plain one, with the calls that its
events tell (`Task.run_recorded`).
-/

namespace CommandAgent

inductive Call where
  | connect (failure : Option Failure)
  | submit (c : Command) (o : Outcome)
  | close

def failure? {α : Type} : Except Failure α → Option Failure
  | .ok _ => none
  | .error f => some f

/-- A handler that keeps a list of its calls. -/
def Handler.recorded {σ : Type} (h : Handler σ) : Handler (σ × List Call) where
  backend := h.backend
  connect s w :=
    let (r, s', w) := h.connect s.1 w
    (r, (s', s.2 ++ [.connect (failure? r)]), w)
  submit c s w :=
    let (o, s', w) := h.submit c s.1 w
    (o, (s', s.2 ++ [.submit c o]), w)
  close s w :=
    let (s', w) := h.close s.1 w
    ((s', s.2 ++ [.close]), w)

namespace Event

def call? : Event → Option Call
  | connected failure => some (.connect failure)
  | submitted c o => some (.submit c o)
  | closed => some .close
  | _ => none

/-- The calls that events tell of. -/
def calls (events : List Event) : List Call := events.filterMap call?

@[simp] theorem calls_append (a b : List Event) : calls (a ++ b) = calls a ++ calls b :=
  List.filterMap_append

@[simp] theorem calls_connected (failure : Option Failure) :
    calls [connected failure] = [.connect failure] := rfl

@[simp] theorem calls_submitted (c : Command) (o : Outcome) :
    calls [submitted c o] = [.submit c o] := rfl

@[simp] theorem calls_closed : calls [closed] = [.close] := rfl

@[simp] theorem calls_exchanged (e : Http.Exchange) : calls [exchanged e] = [] := rfl

@[simp] theorem calls_pinging : calls [pinging] = [] := rfl

end Event

variable {σ : Type}

/-- A progress whose session carries the calls that the events tell of. -/
def Progress.withCalls (p : Progress σ) : Progress (σ × List Call) :=
  ⟨(p.session, Event.calls p.events), p.world, p.events⟩

namespace Task

/-- The task with its handler recorded. -/
def recorded (t : Task σ) : Task (σ × List Call) :=
  ⟨t.plan, t.logger, ⟨t.executor.logger, t.executor.handler.recorded, t.executor.secrets⟩,
    t.reporter, t.orchestrator⟩

def calls (t : Task σ) (s : σ) (w : World) : List Call := (t.recorded.run (s, []) w).2.session.2

/-! ### Steps -/

theorem connect_of_ok {t : Task σ} {p : Progress σ} {u : Unit} {s : σ} {w : World}
    (h : t.executor.handler.connect p.session p.world = (.ok u, s, w)) :
    t.connect p =
      (.ok u, ⟨s, t.executor.logger.log (t.executor.connected w.elapsed) w,
        p.events ++ [.connected none]⟩) := by
  simp only [connect, Executor.connect, h]

theorem connect_of_error {t : Task σ} {p : Progress σ} {f : Failure} {s : σ} {w : World}
    (h : t.executor.handler.connect p.session p.world = (.error f, s, w)) :
    t.connect p =
      (.error f, ⟨s, t.executor.logger.log (t.executor.connectFailed f) w,
        p.events ++ [.connected (some f)]⟩) := by
  simp only [connect, Executor.connect, h]

/-- Recording changes nothing about how the session is opened. -/
theorem recorded_connect (t : Task σ) (p : Progress σ) :
    t.recorded.connect p.withCalls = ((t.connect p).1, (t.connect p).2.withCalls) := by
  rcases h : t.executor.handler.connect p.session p.world with ⟨r | u, s, w⟩
  · have hrec : t.recorded.executor.handler.connect p.withCalls.session p.withCalls.world =
        (.error r, (s, Event.calls p.events ++ [.connect (some r)]), w) := by
      simp only [recorded, Handler.recorded, Progress.withCalls, h, failure?]
    rw [connect_of_error h, connect_of_error hrec]
    simp only [Progress.withCalls, Event.calls_append, Event.calls_connected]
    rfl
  · have hrec : t.recorded.executor.handler.connect p.withCalls.session p.withCalls.world =
        (.ok u, (s, Event.calls p.events ++ [.connect none]), w) := by
      simp only [recorded, Handler.recorded, Progress.withCalls, h, failure?]
    rw [connect_of_ok h, connect_of_ok hrec]
    simp only [Progress.withCalls, Event.calls_append, Event.calls_connected]
    rfl

theorem recorded_execute (t : Task σ) (c : Command) (p : Progress σ) :
    t.recorded.execute c p.withCalls = ((t.execute c p).1, (t.execute c p).2.withCalls) := by
  simp only [execute, Executor.execute, recorded, Handler.recorded, Progress.withCalls,
    Event.calls_append, Event.calls_submitted]
  rfl

theorem recorded_close (t : Task σ) (p : Progress σ) :
    t.recorded.close p.withCalls = (t.close p).withCalls := by
  simp only [close, Executor.close, recorded, Handler.recorded, Progress.withCalls,
    Event.calls_append, Event.calls_closed]

theorem recorded_reportStatus (t : Task σ) (status : TaskStatus) (reason : Option String)
    (p : Progress σ) :
    t.recorded.reportStatus status reason p.withCalls =
      ((t.reportStatus status reason p).1, (t.reportStatus status reason p).2.withCalls) := by
  simp only [reportStatus, recorded, Progress.withCalls, Event.calls_append, Event.calls_exchanged,
    List.append_nil]

theorem recorded_reportCommand (t : Task σ) (c : Command) (o : Outcome) (p : Progress σ) :
    t.recorded.reportCommand c o p.withCalls =
      ((t.reportCommand c o p).1, (t.reportCommand c o p).2.withCalls) := by
  simp only [reportCommand, recorded, Progress.withCalls, Event.calls_append,
    Event.calls_exchanged, List.append_nil]

theorem recorded_log (t : Task σ) (e : Entry) (p : Progress σ) :
    t.recorded.log e p.withCalls = (t.log e p).withCalls := rfl

theorem recorded_logIf (t : Task σ) (entry : Failure → Entry) (r : Except Failure Unit)
    (p : Progress σ) :
    t.recorded.logIf entry r p.withCalls = (t.logIf entry r p).withCalls := by
  cases r <;> rfl

theorem recorded_startPings (p : Progress σ) :
    startPings p.withCalls = (startPings p).withCalls := by
  simp only [startPings, Progress.withCalls, Event.calls_append, Event.calls_pinging,
    List.append_nil]

/-! ### Runs -/

theorem recorded_finish (t : Task σ) (submitted : Nat) (p : Progress σ) :
    t.recorded.finish submitted p.withCalls = (t.finish submitted p).withCalls := by
  simp only [finish, recorded_close, recorded_reportStatus, recorded_logIf, recorded_log]

/-- Recording changes nothing about how the commands are run. -/
theorem recorded_runCommands (t : Task σ) (commands : List Command) (submitted : Nat)
    (p : Progress σ) :
    t.recorded.runCommands commands submitted p.withCalls =
      ((t.runCommands commands submitted p).1,
        (t.runCommands commands submitted p).2.withCalls) := by
  induction commands generalizing submitted p with
  | nil => simp only [runCommands, recorded_finish]
  | cons c rest ih =>
    simp only [runCommands, recorded_execute, recorded_reportCommand]
    cases (t.reportCommand c (t.execute c p).1 (t.execute c p).2).1 with
    | error f => simp only [recorded_log, recorded_close]
    | ok d =>
      cases hd : d.proceed with
      | true => simp only [hd, if_true, ih]
      | false => simp only [hd, Bool.false_eq_true, if_false, recorded_log, recorded_close]

/-- Recording changes nothing, and what it records are the calls that the events tell of. -/
theorem run_recorded (t : Task σ) (s : σ) (w : World) :
    t.recorded.run (s, []) w = ((t.run s w).1, (t.run s w).2.withCalls) := by
  have hstart : (t.recorded.log t.recorded.starting { session := (s, []), world := w } :
      Progress (σ × List Call)) = (t.log t.starting { session := s, world := w }).withCalls := rfl
  simp only [run, hstart, recorded_connect]
  cases (t.connect (t.log t.starting { session := s, world := w })).1 with
  | error f => simp only [recorded_reportStatus, recorded_logIf]
  | ok _ =>
    simp only [recorded_reportStatus, recorded_logIf, recorded_startPings]
    exact recorded_runCommands t t.plan.commands 0 _

theorem calls_eq (t : Task σ) (s : σ) (w : World) :
    t.calls s w = Event.calls (t.run s w).2.events := by
  rw [calls, run_recorded]
  rfl

end Task
end CommandAgent
