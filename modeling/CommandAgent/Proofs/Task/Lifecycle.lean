import CommandAgent.Proofs.Orchestrator.Reporter
import CommandAgent.Proofs.Task.Exchanges

/-!
# The lifecycle of a run

Which reports on the task a run makes, and when its session is closed. A run is one of two: either
the session does not open, and a report of the failure is all there is; or it opens, the execution
is reported, the rounds follow, the session is closed, and the success is reported if every answer
said to go on (`run_shape`). From that shape the counts and the order of these events are read off.
-/

namespace CommandAgent

open Http (Exchange)

variable {σ : Type}

/-! ### Kinds of events -/

def Event.submits : Event → Bool
  | submitted .. => true
  | _ => false

def Event.closes : Event → Bool
  | closed => true
  | _ => false

/-- Once an event of the first kind has come, none of the second kind follows. -/
def Event.NoneAfter (p q : Event → Bool) (events : List Event) : Prop :=
  events.Pairwise fun a b => p a = true → q b = false

namespace Event.NoneAfter

variable {p q : Event → Bool} {a b : List Event}

theorem of_left (h : ∀ x ∈ a, p x = false) : NoneAfter p q a := by
  apply List.Pairwise.imp_of_mem (R := fun _ _ => True)
  · intro x y hx _ _ hp
    rw [h x hx] at hp
    cases hp
  · exact List.pairwise_of_forall (fun _ _ => trivial)

theorem of_right (h : ∀ x ∈ a, q x = false) : NoneAfter p q a := by
  apply List.Pairwise.imp_of_mem (R := fun _ _ => True)
  · intro x y _ hy _ _
    exact h y hy
  · exact List.pairwise_of_forall (fun _ _ => trivial)

/-- Events without the first kind, followed by events without the second. -/
theorem append (ha : ∀ x ∈ a, p x = false) (hb : ∀ x ∈ b, q x = false) :
    NoneAfter p q (a ++ b) := by
  refine List.pairwise_append.mpr ⟨of_left ha, of_right hb, ?_⟩
  intro x _ y hy _
  exact hb y hy

end Event.NoneAfter

namespace Task

/-- The session of a run opens. -/
def opens (t : Task σ) (s : σ) (w : World) : Bool := (t.connectResult s w).isOk

def reports (t : Task σ) (status : TaskStatus) : Event → Bool
  | .exchanged e =>
    e.request.address = t.reporter.taskAddress t.plan.taskId ∧
      (e.request.body.get? "status").bind Json.asString? = some status.name
  | _ => false

def callsBack (t : Task σ) : Event → Bool
  | .exchanged e => e.request.address = t.reporter.commandAddress t.plan.taskId
  | _ => false

@[simp] theorem reports_connected (t : Task σ) (status : TaskStatus) (failure : Option Failure) :
    t.reports status (.connected failure) = false := rfl

@[simp] theorem reports_pinging (t : Task σ) (status : TaskStatus) :
    t.reports status .pinging = false := rfl

@[simp] theorem reports_closed (t : Task σ) (status : TaskStatus) :
    t.reports status .closed = false := rfl

/-- A report on the task tells its own status and no other. -/
theorem reports_status {t : Task σ} {e : Exchange} {told : TaskStatus} {reason : Option String}
    (h : e.request = t.statusRequest told reason) (status : TaskStatus) :
    t.reports status (.exchanged e) = decide (told = status) := by
  have hbody : (e.request.body.get? "status").bind Json.asString? = some told.name := by
    rw [h]
    show ((Reporter.statusBody told reason).get? "status").bind Json.asString? = _
    rw [Reporter.get?_statusBody_status]
    rfl
  have haddress : e.request.address = t.reporter.taskAddress t.plan.taskId := by rw [h]; rfl
  simp only [reports, hbody, haddress, true_and, Option.some.injEq]
  cases told <;> cases status <;> decide

theorem reports_command {t : Task σ} {r : Round} (h : t.Reported r) (status : TaskStatus) :
    t.reports status (.exchanged r.exchange) = false := by
  obtain ⟨seconds, hrequest⟩ := h
  have haddress : ¬ r.exchange.request.address = t.reporter.taskAddress t.plan.taskId := by
    rw [hrequest]
    exact commandAddress_ne _ _
  simp only [reports, haddress, false_and, decide_false]

theorem callsBack_status {t : Task σ} {e : Exchange} {status : TaskStatus}
    {reason : Option String} (h : e.request = t.statusRequest status reason) :
    t.callsBack (.exchanged e) = false := by
  have haddress : ¬ e.request.address = t.reporter.commandAddress t.plan.taskId := by
    rw [h]
    exact fun heq => commandAddress_ne _ _ heq.symm
  simp only [callsBack, haddress, decide_false]

/-- An event of a round is a submission or a report on a command. -/
theorem mem_rounds {x : Event} {rounds : List Round} (h : x ∈ rounds.flatMap Round.events) :
    ∃ r ∈ rounds, x = .submitted r.command r.outcome ∨ x = .exchanged r.exchange := by
  obtain ⟨r, hr, hx⟩ := List.mem_flatMap.mp h
  refine ⟨r, hr, ?_⟩
  simpa [Round.events] using hx

theorem reports_rounds {t : Task σ} {rounds : List Round} (h : ∀ r ∈ rounds, t.Reported r)
    (status : TaskStatus) : ∀ x ∈ rounds.flatMap Round.events, t.reports status x = false := by
  intro x hx
  obtain ⟨r, hr, rfl | rfl⟩ := mem_rounds hx
  · rfl
  · exact reports_command (h r hr) status

theorem closes_rounds {rounds : List Round} :
    ∀ x ∈ rounds.flatMap Round.events, x.closes = false := by
  intro x hx
  obtain ⟨r, hr, rfl | rfl⟩ := mem_rounds hx <;> rfl

/-! ### The shape of a run -/

/-- What comes after the session was closed: the report of the success, if every answer said to go
on, and else nothing. -/
inductive Aftermath (t : Task σ) (rounds : List Round) : List Event → Prop
  | success {e : Exchange} : (∀ r ∈ rounds, r.Continues) →
      e.request = t.statusRequest .success none → Aftermath t rounds [.exchanged e]
  | nothing : ¬ (∀ r ∈ rounds, r.Continues) → Aftermath t rounds []

/-- A course is its rounds, the close of the session and what comes after it. -/
theorem Course.shape {t : Task σ} {commands : List Command} {before : Nat} {rounds : List Round}
    {result : Except Failure Conclusion} {story : List Event}
    (h : t.Course commands before rounds result story) :
    ∃ after, story = rounds.flatMap Round.events ++ .closed :: after ∧
      t.Aftermath rounds after := by
  cases h with
  | completed _ hcontinue he => exact ⟨_, rfl, .success hcontinue he⟩
  | @stopped earlier last _ _ hlast =>
    exact ⟨[], rfl, .nothing fun hall =>
      hlast (hall last (List.mem_append_right _ List.mem_cons_self))⟩

/-- A run whose session opens: the report of the execution, the rounds, the closing of the session,
and what comes after it. -/
theorem run_shape {t : Task σ} {s : σ} {w : World} (h : t.opens s w = true) :
    ∃ e rounds after,
      (t.run s w).2.events =
        [.connected none, .exchanged e, .pinging] ++ rounds.flatMap Round.events ++
          .closed :: after ∧
      e.request = t.statusRequest .executing none ∧
      (∀ r ∈ rounds, t.Reported r) ∧ t.Aftermath rounds after ∧
      t.answers (t.run s w).2.events = rounds.map Round.answer := by
  cases hresult : t.connectResult s w with
  | error f =>
    rw [opens, hresult] at h
    cases h
  | ok u =>
    obtain ⟨e, rounds, story, hevents, he, hcourse, hreported⟩ := run_of_connect_ok hresult
    have hanswers := answers_of_course he hcourse hreported
    rw [← hevents] at hanswers
    obtain ⟨after, rfl, hafter⟩ := hcourse.shape
    exact ⟨e, rounds, after, by rw [hevents, List.append_assoc], he, hreported, hafter, hanswers⟩

/-- A run whose session does not open: the report of the failure. -/
theorem run_shape_of_not_opens {t : Task σ} {s : σ} {w : World} (h : t.opens s w = false) :
    ∃ f e, t.connectResult s w = .error f ∧
      (t.run s w).2.events = [.connected (some f), .exchanged e] ∧
      e.request = t.statusRequest .failed (some f.message) := by
  cases hresult : t.connectResult s w with
  | error f =>
    obtain ⟨e, -, hevents, he⟩ := run_of_connect_error hresult
    exact ⟨f, e, rfl, hevents, he⟩
  | ok u =>
    rw [opens, hresult] at h
    cases h

/-! ### Counts and order -/

/-- Rounds without an event of some kind do not count. -/
theorem countP_shape {p : Event → Bool} {opening rest : List Event} {rounds : List Round}
    (h : ∀ x ∈ rounds.flatMap Round.events, p x = false) :
    (opening ++ rounds.flatMap Round.events ++ rest).countP p =
      opening.countP p + rest.countP p := by
  have hzero : (rounds.flatMap Round.events).countP p = 0 :=
    List.countP_eq_zero.mpr fun x hx => by rw [h x hx]; exact Bool.false_ne_true
  rw [List.countP_append, List.countP_append, hzero, Nat.add_zero]

/-- How often a run whose session opens reports that the task stands so: at its beginning, and
after the session was closed. -/
theorem countP_reports_of_shape {t : Task σ} {e : Exchange} {rounds : List Round}
    {after : List Event} (he : e.request = t.statusRequest .executing none)
    (hreported : ∀ r ∈ rounds, t.Reported r) (status : TaskStatus) :
    ([Event.connected none, .exchanged e, .pinging] ++ rounds.flatMap Round.events ++
      .closed :: after).countP (t.reports status) =
      (if TaskStatus.executing = status then 1 else 0) + after.countP (t.reports status) := by
  rw [countP_shape (reports_rounds hreported status)]
  simp [List.countP_cons, reports_status he]

/-- How a run reports its beginning. -/
def firstStatus (t : Task σ) (s : σ) (w : World) : TaskStatus :=
  if t.opens s w then .executing else .failed

/-- A run reports its beginning once; success apart, it reports nothing else. -/
theorem countP_reports_of_ne_success (t : Task σ) (s : σ) (w : World) {status : TaskStatus}
    (hstatus : status ≠ .success) :
    (t.run s w).2.events.countP (t.reports status) =
      if t.firstStatus s w = status then 1 else 0 := by
  cases h : t.opens s w with
  | false =>
    obtain ⟨f, e, -, hevents, he⟩ := run_shape_of_not_opens h
    rw [hevents]
    simp [firstStatus, h, List.countP_cons, reports_status he]
  | true =>
    obtain ⟨e, rounds, after, hevents, he, hreported, hafter, -⟩ := run_shape h
    have hnone : after.countP (t.reports status) = 0 := by
      cases hafter with
      | success _ hsuccess => simp [reports_status hsuccess, hstatus.symm]
      | nothing _ => rfl
    rw [hevents, countP_reports_of_shape he hreported, hnone]
    simp [firstStatus, h]

theorem countP_reports_failed (t : Task σ) (s : σ) (w : World) :
    (t.run s w).2.events.countP (t.reports .failed) = if t.opens s w then 0 else 1 := by
  rw [countP_reports_of_ne_success t s w (by decide), firstStatus]
  cases t.opens s w <;> rfl

theorem countP_reports_executing (t : Task σ) (s : σ) (w : World) :
    (t.run s w).2.events.countP (t.reports .executing) = if t.opens s w then 1 else 0 := by
  rw [countP_reports_of_ne_success t s w (by decide), firstStatus]
  cases t.opens s w <;> rfl

/-- The success is reported at most once, and that is if all answers said to go on. -/
theorem countP_reports_success (t : Task σ) (s : σ) (w : World) :
    (t.run s w).2.events.countP (t.reports .success) ≤ 1 ∧
      ((t.run s w).2.events.countP (t.reports .success) = 1 ↔
        t.opens s w = true ∧
          ∀ a ∈ t.answers (t.run s w).2.events, ∃ d, a = .ok d ∧ d.proceed = true) := by
  cases h : t.opens s w with
  | false =>
    obtain ⟨f, e, -, hevents, he⟩ := run_shape_of_not_opens h
    rw [hevents]
    simp [reports_status he]
  | true =>
    obtain ⟨e, rounds, after, hevents, he, hreported, hafter, hanswers⟩ := run_shape h
    rw [hanswers, hevents, countP_reports_of_shape he hreported, List.forall_mem_map,
      if_neg (by decide), Nat.zero_add]
    cases hafter with
    | @success last hcontinue hsuccess =>
      have hone : [Event.exchanged last].countP (t.reports .success) = 1 := by
        simp [reports_status hsuccess]
      rw [hone]
      exact ⟨Nat.le_refl 1, fun _ => ⟨rfl, hcontinue⟩, fun _ => rfl⟩
    | nothing hstop =>
      rw [List.countP_nil]
      exact ⟨Nat.zero_le 1, fun hone => absurd hone (by decide), fun hall => absurd hall.2 hstop⟩

/-- A session that was opened is closed once, and one that was not is never closed. -/
theorem countP_closes (t : Task σ) (s : σ) (w : World) :
    (t.run s w).2.events.countP Event.closes = if t.opens s w then 1 else 0 := by
  cases h : t.opens s w with
  | false =>
    obtain ⟨f, e, -, hevents, -⟩ := run_shape_of_not_opens h
    rw [hevents]
    rfl
  | true =>
    obtain ⟨e, rounds, after, hevents, -, -, hafter, -⟩ := run_shape h
    rw [hevents, countP_shape closes_rounds]
    cases hafter <;> rfl

/-- The execution is not reported once a command has been submitted. -/
theorem no_executing_after_submit (t : Task σ) (s : σ) (w : World) :
    Event.NoneAfter Event.submits (t.reports .executing) (t.run s w).2.events := by
  cases h : t.opens s w with
  | false =>
    obtain ⟨f, e, -, hevents, he⟩ := run_shape_of_not_opens h
    rw [hevents]
    exact .of_left (by simp [Event.submits])
  | true =>
    obtain ⟨e, rounds, after, hevents, he, hreported, hafter, -⟩ := run_shape h
    rw [hevents, List.append_assoc]
    refine .append (by simp [Event.submits]) ?_
    intro x hx
    rcases List.mem_append.mp hx with hx | hx
    · exact reports_rounds hreported _ x hx
    · cases hafter with
      | success _ hsuccess =>
        rcases List.mem_cons.mp hx with rfl | hx
        · rfl
        · rw [List.mem_singleton.mp hx, reports_status hsuccess]
          rfl
      | nothing _ => rw [List.mem_singleton.mp hx]; rfl

/-- Once the session is closed, no command is submitted and none is reported on. -/
theorem no_command_after_close (t : Task σ) (s : σ) (w : World) :
    Event.NoneAfter Event.closes (fun x => x.submits || t.callsBack x) (t.run s w).2.events := by
  cases h : t.opens s w with
  | false =>
    obtain ⟨f, e, -, hevents, he⟩ := run_shape_of_not_opens h
    rw [hevents]
    exact .of_left (by simp [Event.closes])
  | true =>
    obtain ⟨e, rounds, after, hevents, he, hreported, hafter, -⟩ := run_shape h
    have hopening : ∀ x ∈ [Event.connected none, .exchanged e, .pinging], x.closes = false := by
      simp [Event.closes]
    rw [hevents]
    refine .append ?_ ?_
    · intro x hx
      rcases List.mem_append.mp hx with hx | hx
      · exact hopening x hx
      · exact closes_rounds x hx
    · intro x hx
      cases hafter with
      | success _ hsuccess =>
        rcases List.mem_cons.mp hx with rfl | hx
        · rfl
        · rw [List.mem_singleton.mp hx]
          exact callsBack_status hsuccess
      | nothing _ => rw [List.mem_singleton.mp hx]; rfl

/-- The session is not closed once the success has been reported. -/
theorem no_close_after_success (t : Task σ) (s : σ) (w : World) :
    Event.NoneAfter (t.reports .success) Event.closes (t.run s w).2.events := by
  cases h : t.opens s w with
  | false =>
    obtain ⟨f, e, -, hevents, he⟩ := run_shape_of_not_opens h
    rw [hevents]
    exact .of_right (by simp [Event.closes])
  | true =>
    obtain ⟨e, rounds, after, hevents, he, hreported, hafter, -⟩ := run_shape h
    -- here the trace is cut behind the closing, since the success can only come after it
    have hcut : (t.run s w).2.events =
        ([.connected none, .exchanged e, .pinging] ++ rounds.flatMap Round.events ++ [.closed]) ++
          after := by
      rw [hevents, List.append_assoc _ [Event.closed], List.singleton_append]
    have hopening : ∀ x ∈ [Event.connected none, .exchanged e, .pinging],
        t.reports .success x = false := by
      simp [reports_status he]
    rw [hcut]
    refine .append ?_ ?_
    · intro x hx
      rcases List.mem_append.mp hx with hx | hx
      · rcases List.mem_append.mp hx with hx | hx
        · exact hopening x hx
        · exact reports_rounds hreported _ x hx
      · rw [List.mem_singleton.mp hx]; rfl
    · intro x hx
      cases hafter with
      | success _ _ => rw [List.mem_singleton.mp hx]; rfl
      | nothing _ => exact absurd hx List.not_mem_nil

/-- The lifecycle of every run. The failure is reported exactly if the session does not open, once,
with its message, and nothing else is sent. The execution is reported and the session closed exactly
if it opens, once each: the one before all submissions, the other behind all submissions and the
reports on them. The success is reported exactly if moreover every answer said to go on, once and
not before the session was closed; so it is never reported besides a failure. The events tell the
calls that reached the handler, and the answers are the orchestrator's. -/
theorem run_lifecycle (t : Task σ) (s : σ) (w : World) :
    t.calls s w = Event.calls (t.run s w).2.events ∧
    Event.AnsweredBy t.orchestrator (t.run s w).2.events ∧
    (t.run s w).2.events.countP (t.reports .failed) = (if t.opens s w then 0 else 1) ∧
    (∀ f, t.connectResult s w = .error f →
      ∃ request, (Event.exchanges (t.run s w).2.events).map Exchange.request = [request] ∧
        request.body.get? "status" = some (.string "failed") ∧
        request.body.get? "reason" =
          some (.string (if f.message.isEmpty then "-" else f.message))) ∧
    (t.run s w).2.events.countP (t.reports .executing) = (if t.opens s w then 1 else 0) ∧
    Event.NoneAfter Event.submits (t.reports .executing) (t.run s w).2.events ∧
    (t.run s w).2.events.countP Event.closes = (if t.opens s w then 1 else 0) ∧
    Event.NoneAfter Event.closes (fun x => x.submits || t.callsBack x) (t.run s w).2.events ∧
    (t.run s w).2.events.countP (t.reports .success) ≤ 1 ∧
    ((t.run s w).2.events.countP (t.reports .success) = 1 ↔
      t.opens s w = true ∧
        ∀ a ∈ t.answers (t.run s w).2.events, ∃ d, a = .ok d ∧ d.proceed = true) ∧
    Event.NoneAfter (t.reports .success) Event.closes (t.run s w).2.events ∧
    ((t.run s w).2.events.countP (t.reports .failed) = 0 ∨
      (t.run s w).2.events.countP (t.reports .success) = 0) := by
  obtain ⟨hle, hsuccess⟩ := t.countP_reports_success s w
  refine ⟨t.calls_eq s w, t.run_answeredBy s w, t.countP_reports_failed s w, ?_,
    t.countP_reports_executing s w, t.no_executing_after_submit s w, t.countP_closes s w,
    t.no_command_after_close s w, hle, hsuccess, t.no_close_after_success s w, ?_⟩
  · intro f hf
    obtain ⟨e, -, hevents, he⟩ := run_of_connect_error hf
    refine ⟨t.statusRequest .failed (some f.message), ?_, ?_, ?_⟩
    · rw [hevents, ← he]
      rfl
    · exact Reporter.get?_statusBody_status .failed _
    · exact Reporter.get?_statusBody_reason .failed _
  · rw [countP_reports_failed]
    cases h : t.opens s w with
    | true => exact .inl rfl
    | false =>
      rw [h] at hsuccess
      have hne : (t.run s w).2.events.countP (t.reports .success) ≠ 1 :=
        fun hone => nomatch (hsuccess.mp hone).1
      exact .inr (by omega)

end Task
end CommandAgent
