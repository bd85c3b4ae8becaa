import CommandAgent.Proofs.Task.Recorded

/-!
# The story of a run

Which events a run consists of, in which order, and to what result they lead. A run whose session
opens goes in rounds (`Round`): a command is submitted, its outcome is reported, and the answer is
read. The rounds go on as long as the answers allow it and there are commands left (`Course`); then
the session is closed, and only if nothing stopped the run is its success reported.

`runCommands_course` is the induction over the commands; `run_of_connect_ok` puts the beginning in
front of it. Everything that is proved of whole runs is read off these two.
-/

namespace CommandAgent

open Http (Exchange)

variable {σ : Type}

-- what a request comes to is never looked into here, and its address is long to parse
attribute [local irreducible] Http.Request.send

/-! ### Rounds -/

/-- A command, what it came to, and the exchange about it. -/
structure Round where
  command : Command
  outcome : Outcome
  exchange : Exchange

namespace Round

def events (r : Round) : List Event := [.submitted r.command r.outcome, .exchanged r.exchange]

def call (r : Round) : Call := .submit r.command r.outcome

/-- The orchestrator's answer, as far as it can be read. -/
def answer (r : Round) : Except Failure Decision :=
  Reporter.judge r.exchange >>= Reporter.readDecision

def Continues (r : Round) : Prop := ∃ d, r.answer = .ok d ∧ d.proceed = true

/-- What a run comes to that this round stops, after so many submitted commands. -/
def verdict (r : Round) (submitted : Nat) : Except Failure Conclusion :=
  r.answer.map fun d => .halted r.command.id d.detail submitted

end Round

namespace Task

/-! ### Requests -/

def statusRequest (t : Task σ) (status : TaskStatus) (reason : Option String) : Http.Request :=
  t.reporter.request .patch (t.reporter.taskAddress t.plan.taskId)
    (Reporter.statusBody status reason)

def commandRequest (t : Task σ) (c : Command) (o : Outcome) (seconds : Nat) : Http.Request :=
  t.reporter.request .patch (t.reporter.commandAddress t.plan.taskId)
    (Reporter.commandBody c o seconds)

/-- A round's exchange reports the command and the outcome of the round. -/
def Reported (t : Task σ) (r : Round) : Prop :=
  ∃ seconds, r.exchange.request = t.commandRequest r.command r.outcome seconds

/-! ### Steps -/

/-- What the handler answers when the session is opened. -/
def connectResult (t : Task σ) (s : σ) (w : World) : Except Failure Unit :=
  (t.executor.handler.connect s (t.logger.log t.starting w)).1

@[simp] theorem log_events (t : Task σ) (e : Entry) (p : Progress σ) :
    (t.log e p).events = p.events := rfl

@[simp] theorem logIf_events (t : Task σ) (entry : Failure → Entry) (r : Except Failure Unit)
    (p : Progress σ) : (t.logIf entry r p).events = p.events := by
  cases r <;> rfl

@[simp] theorem close_events (t : Task σ) (p : Progress σ) :
    (t.close p).events = p.events ++ [.closed] := rfl

@[simp] theorem startPings_events (p : Progress σ) :
    (startPings p).events = p.events ++ [.pinging] := rfl

@[simp] theorem execute_events (t : Task σ) (c : Command) (p : Progress σ) :
    (t.execute c p).2.events = p.events ++ [.submitted c (t.execute c p).1] := rfl

/-- A report on the task is one exchange, with the orchestrator as it is by then. -/
theorem reportStatus_events (t : Task σ) (status : TaskStatus) (reason : Option String)
    (p : Progress σ) :
    (t.reportStatus status reason p).2.events =
      p.events ++
        [.exchanged ((t.statusRequest status reason).send t.orchestrator
          (Event.exchanges p.events))] := by
  have hexchange : (t.reporter.reportStatus t.orchestrator (Event.exchanges p.events)
      t.plan.taskId status reason p.world).2.1 =
        (t.statusRequest status reason).send t.orchestrator (Event.exchanges p.events) := by
    rw [Reporter.reportStatus, statusRequest]
    generalize Http.Request.send _ _ _ = e
    cases Reporter.judge e <;> rfl
  rw [← hexchange]
  rfl

/-- A report on a command is one exchange, with the orchestrator as it is by then. -/
theorem reportCommand_events (t : Task σ) (c : Command) (o : Outcome) (p : Progress σ) :
    (t.reportCommand c o p).2.events =
      p.events ++
        [.exchanged ((t.commandRequest c o p.world.seconds).send t.orchestrator
          (Event.exchanges p.events))] := rfl

/-- The round of a command. -/
def round (t : Task σ) (c : Command) (p : Progress σ) : Round :=
  let (o, p) := t.execute c p
  ⟨c, o, (t.commandRequest c o p.world.seconds).send t.orchestrator (Event.exchanges p.events)⟩

def afterRound (t : Task σ) (c : Command) (p : Progress σ) : Progress σ :=
  (t.reportCommand c (t.execute c p).1 (t.execute c p).2).2

theorem afterRound_events (t : Task σ) (c : Command) (p : Progress σ) :
    (t.afterRound c p).events = p.events ++ (t.round c p).events := by
  rw [afterRound, reportCommand_events, execute_events, List.append_assoc]
  rfl

theorem reported_round (t : Task σ) (c : Command) (p : Progress σ) : t.Reported (t.round c p) :=
  ⟨_, Http.Request.request_send _ _ _⟩

/-- A round whose answer says to go on is followed by the other commands. -/
theorem runCommands_of_continues {t : Task σ} {c : Command} {p : Progress σ}
    (h : (t.round c p).Continues) (rest : List Command) (submitted : Nat) :
    t.runCommands (c :: rest) submitted p =
      t.runCommands rest (submitted + 1) (t.afterRound c p) := by
  obtain ⟨d, hanswer, hd⟩ := h
  have hreport : (t.reportCommand c (t.execute c p).1 (t.execute c p).2).1 = .ok d := hanswer
  simp only [runCommands, hreport, hd, if_true]
  rfl

/-- A round whose answer does not say so is the last one: the session is closed. -/
theorem runCommands_of_stops {t : Task σ} {c : Command} {p : Progress σ}
    (h : ¬ (t.round c p).Continues) (rest : List Command) (submitted : Nat) :
    ∃ note, t.runCommands (c :: rest) submitted p =
      ((t.round c p).verdict (submitted + 1), t.close (t.log note (t.afterRound c p))) := by
  have hreport : (t.reportCommand c (t.execute c p).1 (t.execute c p).2).1 =
      (t.round c p).answer := rfl
  cases hanswer : (t.round c p).answer with
  | error f =>
    refine ⟨callbackFailed c f, ?_⟩
    simp only [runCommands, hreport, hanswer, Round.verdict]
    rfl
  | ok d =>
    have hd : d.proceed = false := by
      rw [← Bool.not_eq_true]
      exact fun hd => h ⟨d, hanswer, hd⟩
    refine ⟨notAllowed c d, ?_⟩
    simp only [runCommands, hreport, hanswer, hd, Round.verdict, Bool.false_eq_true, if_false]
    rfl

/-! ### The course of the rounds -/

/-- How a run goes on once the session is open and `before` commands have been submitted: its
rounds, its result and its events. -/
inductive Course (t : Task σ) (commands : List Command) (before : Nat) :
    List Round → Except Failure Conclusion → List Event → Prop
  /-- Every answer says to go on, and there are no commands left. -/
  | completed {rounds : List Round} {e : Exchange} :
      rounds.map Round.command = commands → (∀ r ∈ rounds, r.Continues) →
      e.request = t.statusRequest .success none →
      Course t commands before rounds (.ok (.completed (before + rounds.length)))
        (rounds.flatMap Round.events ++ [.closed, .exchanged e])
  /-- The answer of the last round stops the run. -/
  | stopped {earlier : List Round} {last : Round} :
      (earlier ++ [last]).map Round.command <+: commands → (∀ r ∈ earlier, r.Continues) →
      ¬ last.Continues →
      Course t commands before (earlier ++ [last]) (last.verdict (before + (earlier.length + 1)))
        ((earlier ++ [last]).flatMap Round.events ++ [.closed])

/-- A round that continues may be put in front. -/
theorem Course.cons {t : Task σ} {commands : List Command} {before : Nat} {rounds : List Round}
    {result : Except Failure Conclusion} {story : List Event} {r : Round}
    (h : t.Course commands (before + 1) rounds result story) (hr : r.Continues) :
    t.Course (r.command :: commands) before (r :: rounds) result (r.events ++ story) := by
  cases h with
  | @completed rounds e hcommands hcontinue he =>
    have hall : ∀ x ∈ r :: rounds, x.Continues := by
      intro x hx
      rcases List.mem_cons.mp hx with rfl | hx
      · exact hr
      · exact hcontinue x hx
    have hlen : before + 1 + rounds.length = before + (r :: rounds).length := by
      rw [List.length_cons]; omega
    rw [hlen, ← List.append_assoc, ← List.flatMap_cons]
    exact .completed (by rw [List.map_cons, hcommands]) hall he
  | @stopped earlier last hcommands hcontinue hlast =>
    have hall : ∀ x ∈ r :: earlier, x.Continues := by
      intro x hx
      rcases List.mem_cons.mp hx with rfl | hx
      · exact hr
      · exact hcontinue x hx
    have hlen : before + 1 + (earlier.length + 1) = before + ((r :: earlier).length + 1) := by
      rw [List.length_cons]; omega
    have hprefix : (r :: earlier ++ [last]).map Round.command <+: r.command :: commands :=
      List.cons_prefix_cons.mpr ⟨rfl, hcommands⟩
    rw [hlen, ← List.append_assoc, ← List.flatMap_cons]
    exact .stopped hprefix hall hlast

/-- A round that does not continue is the last. -/
theorem Course.last {t : Task σ} {r : Round} (hr : ¬ r.Continues) (commands : List Command)
    (before : Nat) :
    t.Course (r.command :: commands) before [r] (r.verdict (before + 1))
      (r.events ++ [.closed]) := by
  have hprefix : ([] ++ [r]).map Round.command <+: r.command :: commands :=
    List.cons_prefix_cons.mpr ⟨rfl, List.nil_prefix⟩
  have hstopped : t.Course (r.command :: commands) before ([] ++ [r]) (r.verdict (before + 1))
      (([] ++ [r]).flatMap Round.events ++ [.closed]) :=
    .stopped hprefix (fun x hx => absurd hx List.not_mem_nil) hr
  rwa [List.nil_append, List.flatMap_singleton] at hstopped

/-- Running the commands that are left adds the events of some course. -/
theorem runCommands_course (t : Task σ) (commands : List Command) (before : Nat)
    (p : Progress σ) :
    ∃ rounds story,
      (t.runCommands commands before p).2.events = p.events ++ story ∧
      t.Course commands before rounds (t.runCommands commands before p).1 story ∧
      ∀ r ∈ rounds, t.Reported r := by
  -- the progress varies with the commands, as the orchestrator remembers what it was asked
  induction commands generalizing before p with
  | nil =>
    have hnone : ∀ {P : Round → Prop}, ∀ r ∈ ([] : List Round), P r :=
      fun r hr => absurd hr List.not_mem_nil
    have hcourse : t.Course [] before [] (.ok (.completed before))
        [.closed, .exchanged ((t.statusRequest .success none).send t.orchestrator
          (Event.exchanges (t.close p).events))] :=
      .completed rfl hnone (Http.Request.request_send _ _ _)
    refine ⟨[], _, ?_, hcourse, hnone⟩
    simp only [runCommands, finish, log_events, logIf_events, reportStatus_events, close_events,
      List.append_assoc, List.singleton_append]
  | cons c rest ih =>
    by_cases hgo : (t.round c p).Continues
    -- the answer says to go on: this round goes in front of the course of the rest
    · obtain ⟨rounds, story, hevents, hcourse, hreported⟩ := ih (before + 1) (t.afterRound c p)
      rw [runCommands_of_continues hgo]
      refine ⟨t.round c p :: rounds, (t.round c p).events ++ story, ?_, hcourse.cons hgo, ?_⟩
      · rw [hevents, afterRound_events, List.append_assoc]
      · intro r hr
        rcases List.mem_cons.mp hr with rfl | hr
        · exact t.reported_round c p
        · exact hreported r hr
    -- it does not: no command of the rest is touched
    · obtain ⟨note, hrun⟩ := runCommands_of_stops hgo rest before
      rw [hrun]
      refine ⟨[t.round c p], (t.round c p).events ++ [.closed], ?_, .last hgo rest before, ?_⟩
      · rw [close_events, log_events, afterRound_events, List.append_assoc]
      · intro r hr
        rw [List.mem_singleton] at hr
        exact hr ▸ t.reported_round c p

/-! ### Whole runs -/

/-- The progress before the session is opened. -/
def start (t : Task σ) (s : σ) (w : World) : Progress σ :=
  t.log t.starting { session := s, world := w }

/-- A run starts with the attempt to open the session, and with nothing else. -/
theorem connect_start (t : Task σ) (s : σ) (w : World) :
    ∃ p, t.connect (t.start s w) = (t.connectResult s w, p) ∧
      p.events = [.connected (failure? (t.connectResult s w))] := by
  rcases h : t.executor.handler.connect (t.start s w).session (t.start s w).world with
    ⟨f | u, s', w'⟩
  · have hresult : t.connectResult s w = .error f := congrArg Prod.fst h
    rw [connect_of_error h, hresult]
    exact ⟨_, rfl, rfl⟩
  · have hresult : t.connectResult s w = .ok u := congrArg Prod.fst h
    rw [connect_of_ok h, hresult]
    exact ⟨_, rfl, rfl⟩

theorem run_of_error {t : Task σ} {s : σ} {w : World} {f : Failure} {p : Progress σ}
    (h : t.connect (t.start s w) = (.error f, p)) :
    t.run s w =
      (.error f, t.logIf failureRejected (t.reportStatus .failed (some f.message) p).1
        (t.reportStatus .failed (some f.message) p).2) := by
  rw [start] at h
  simp only [run, h]

/-- Behind an opened session, a run is the report on the start, the pings and the commands. -/
theorem run_of_ok {t : Task σ} {s : σ} {w : World} {u : Unit} {p : Progress σ}
    (h : t.connect (t.start s w) = (.ok u, p)) :
    t.run s w =
      t.runCommands t.plan.commands 0
        (startPings (t.logIf (rejected "Start") (t.reportStatus .executing none p).1
          (t.reportStatus .executing none p).2)) := by
  rw [start] at h
  simp only [run, h]

/-- A session that does not open: the orchestrator is told so, and that is all. -/
theorem run_of_connect_error {t : Task σ} {s : σ} {w : World} {f : Failure}
    (h : t.connectResult s w = .error f) :
    ∃ e, (t.run s w).1 = .error f ∧
      (t.run s w).2.events = [.connected (some f), .exchanged e] ∧
      e.request = t.statusRequest .failed (some f.message) := by
  obtain ⟨p, hconnect, hevents⟩ := t.connect_start s w
  rw [h] at hconnect hevents
  have hrequest := Http.Request.request_send (t.statusRequest .failed (some f.message))
    t.orchestrator (Event.exchanges p.events)
  refine ⟨(t.statusRequest .failed (some f.message)).send t.orchestrator
    (Event.exchanges p.events), by rw [run_of_error hconnect], ?_, hrequest⟩
  rw [run_of_error hconnect]
  rw [logIf_events, reportStatus_events, hevents, List.singleton_append]
  rfl

/-- A session that opens: the orchestrator is told so, the pings are started, and the commands
take their course. -/
theorem run_of_connect_ok {t : Task σ} {s : σ} {w : World} {u : Unit}
    (h : t.connectResult s w = .ok u) :
    ∃ e rounds story,
      (t.run s w).2.events = [.connected none, .exchanged e, .pinging] ++ story ∧
      e.request = t.statusRequest .executing none ∧
      t.Course t.plan.commands 0 rounds (t.run s w).1 story ∧
      ∀ r ∈ rounds, t.Reported r := by
  obtain ⟨p, hconnect, hevents⟩ := t.connect_start s w
  rw [h] at hconnect hevents
  rw [run_of_ok hconnect]
  obtain ⟨rounds, story, hstory, hcourse, hreported⟩ := t.runCommands_course t.plan.commands 0
    (startPings (t.logIf (rejected "Start") (t.reportStatus .executing none p).1
      (t.reportStatus .executing none p).2))
  have hrequest := Http.Request.request_send (t.statusRequest .executing none) t.orchestrator
    (Event.exchanges p.events)
  refine ⟨(t.statusRequest .executing none).send t.orchestrator (Event.exchanges p.events),
    rounds, story, ?_, hrequest, hcourse, hreported⟩
  rw [hstory, startPings_events, logIf_events, reportStatus_events, hevents]
  rfl

end Task
end CommandAgent
