import CommandAgent.Proofs.CommandLine
import CommandAgent.Proofs.Orchestrator.Reporter
import CommandAgent.Proofs.Task.Exchanges

/-!
# The command stream of a run

Which commands a run submits, what it reports of them, and what it comes to. The rounds of a run
decide it (`Decided`): they go through the commands in order, up to the first answer that does not
say to go on. Two runs of the same commands whose sessions open alike, and whose callbacks are
answered alike, come to the same result, whatever else the orchestrator and the handlers do
(`run_agree`).
-/

namespace CommandAgent

open Http (Exchange)

variable {σ σ' : Type}

/-! ### What the rounds decide -/

/-- What a run of some commands comes to, by its rounds. -/
inductive Decided (commands : List Command) : List Round → Except Failure Conclusion → Prop
  /-- Every command has had its round, and every answer says to go on. -/
  | completed {rounds : List Round} : rounds.map Round.command = commands →
      (∀ r ∈ rounds, r.Continues) →
      Decided commands rounds (.ok (.completed commands.length))
  /-- The last answer says to stop. -/
  | halted {earlier : List Round} {last : Round} {d : Decision} :
      (earlier ++ [last]).map Round.command <+: commands → (∀ r ∈ earlier, r.Continues) →
      last.answer = .ok d → d.proceed = false →
      Decided commands (earlier ++ [last])
        (.ok (.halted last.command.id d.detail (earlier.length + 1)))
  /-- The last answer is none. -/
  | failed {earlier : List Round} {last : Round} {f : Failure} :
      (earlier ++ [last]).map Round.command <+: commands → (∀ r ∈ earlier, r.Continues) →
      last.answer = .error f →
      Decided commands (earlier ++ [last]) (.error f)

namespace Task

namespace Course

variable {t : Task σ} {t' : Task σ'} {commands : List Command} {before : Nat}
  {rounds rounds' : List Round} {result result' : Except Failure Conclusion}
  {story story' : List Event}

/-- The rounds of a course decide its result. -/
theorem decided (h : t.Course commands 0 rounds result story) : Decided commands rounds result := by
  cases h with
  | completed hcommands hcontinue _ =>
    have hlength : 0 + rounds.length = commands.length := by
      rw [← hcommands, List.length_map, Nat.zero_add]
    rw [hlength]
    exact .completed hcommands hcontinue
  | @stopped earlier last hcommands hcontinue hlast =>
    rw [Nat.zero_add]
    cases hanswer : last.answer with
    | error f =>
      rw [Round.verdict, hanswer]
      exact .failed hcommands hcontinue hanswer
    | ok d =>
      have hd : d.proceed = false := by
        rw [← Bool.not_eq_true]
        exact fun hd => hlast ⟨d, hanswer, hd⟩
      rw [Round.verdict, hanswer]
      exact .halted hcommands hcontinue hanswer hd

theorem commands_eq_take (h : t.Course commands before rounds result story) :
    rounds.map Round.command = commands.take rounds.length := by
  cases h with
  | completed hcommands _ _ => rw [← hcommands, ← List.length_map, List.take_length]
  | stopped hcommands _ _ =>
    have htake := List.prefix_iff_eq_take.mp hcommands
    rwa [List.length_map] at htake

theorem length_le (h : t.Course commands before rounds result story) :
    rounds.length ≤ commands.length := by
  have hlength := congrArg List.length h.commands_eq_take
  rw [List.length_map, List.length_take] at hlength
  omega

/-- Only the last answer may not say to go on. -/
theorem continues_of_lt (h : t.Course commands before rounds result story) {i : Nat} {r : Round}
    (hr : rounds[i]? = some r) (hi : i + 1 < rounds.length) : r.Continues := by
  cases h with
  | completed _ hcontinue _ => exact hcontinue r (List.mem_of_getElem? hr)
  | @stopped earlier last _ hcontinue _ =>
    rw [List.length_append, List.length_singleton] at hi
    rw [List.getElem?_append_left (by omega)] at hr
    exact hcontinue r (List.mem_of_getElem? hr)

/-! ### Two courses -/

/-- Rounds at the same place have the same answer. -/
def Agree (rounds rounds' : List Round) : Prop :=
  ∀ (i : Nat) (r r' : Round), rounds[i]? = some r → rounds'[i]? = some r' → r.answer = r'.answer

theorem Agree.symm (h : Agree rounds rounds') : Agree rounds' rounds :=
  fun i r r' hr hr' => (h i r' r hr' hr).symm

/-- A round that does not continue agrees with none that continues at its place. -/
theorem not_agree {earlier : List Round} {last r : Round} (hr : rounds[earlier.length]? = some r)
    (hcontinue : r.Continues) (hlast : ¬ last.Continues) : ¬ Agree rounds (earlier ++ [last]) := by
  intro hagree
  have hanswer := hagree _ _ last hr List.getElem?_concat_length
  obtain ⟨d, hd, hproceed⟩ := hcontinue
  exact hlast ⟨d, hanswer ▸ hd, hproceed⟩

/-- Of two courses whose rounds agree as far as both go, neither stops before the other. -/
theorem length_le_of_agree (h : t.Course commands before rounds result story)
    (h' : t'.Course commands before rounds' result' story') (hagree : Agree rounds rounds') :
    rounds.length ≤ rounds'.length := by
  cases h' with
  | completed hcommands _ _ =>
    have hlength := congrArg List.length hcommands
    rw [List.length_map] at hlength
    rw [hlength]
    exact h.length_le
  | @stopped earlier last _ _ hlast =>
    apply Nat.le_of_not_lt
    intro hlt
    rw [List.length_append, List.length_singleton] at hlt
    -- the round beside the last one of the other course is not the last of its own
    have hr : rounds[earlier.length]? = some _ := List.getElem?_eq_getElem (by omega)
    exact not_agree hr (h.continues_of_lt hr hlt) hlast hagree

/-- A course that is completed agrees with none that is stopped after as many rounds. -/
theorem not_agree_of_completed (hcontinue : ∀ r ∈ rounds, r.Continues) {earlier : List Round}
    {last : Round} (hlast : ¬ last.Continues)
    (hlength : rounds.length = (earlier ++ [last]).length) :
    ¬ Agree rounds (earlier ++ [last]) := by
  rw [List.length_append, List.length_singleton] at hlength
  have hr : rounds[earlier.length]? = some _ := List.getElem?_eq_getElem (by omega)
  exact not_agree hr (hcontinue _ (List.mem_of_getElem? hr)) hlast

/-- Courses that agree have the same commands and the same result. -/
theorem agree (h : t.Course commands before rounds result story)
    (h' : t'.Course commands before rounds' result' story') (hagree : Agree rounds rounds') :
    rounds.map Round.command = rounds'.map Round.command ∧ result = result' := by
  -- neither course can be the shorter one, so that both end in the same way
  have hlength : rounds.length = rounds'.length :=
    Nat.le_antisymm (h.length_le_of_agree h' hagree) (h'.length_le_of_agree h hagree.symm)
  have hcommands : rounds.map Round.command = rounds'.map Round.command := by
    rw [h.commands_eq_take, h'.commands_eq_take, hlength]
  refine ⟨hcommands, ?_⟩
  cases h with
  | completed _ hcontinue _ =>
    cases h' with
    | completed _ _ _ => rw [hlength]
    | stopped _ _ hlast' => exact absurd hagree (not_agree_of_completed hcontinue hlast' hlength)
  | @stopped earlier last _ _ hlast =>
    cases h' with
    | completed _ hcontinue' _ =>
      exact absurd hagree.symm (not_agree_of_completed hcontinue' hlast hlength.symm)
    | @stopped earlier' last' _ _ _ =>
      have hearlier : earlier.length = earlier'.length := by simpa using hlength
      have hlast : (earlier ++ [last])[earlier.length]? = some last := List.getElem?_concat_length
      have hlast' : (earlier' ++ [last'])[earlier.length]? = some last' := by
        rw [hearlier]
        exact List.getElem?_concat_length
      have hanswer := hagree _ _ _ hlast hlast'
      rw [List.map_append, List.map_append] at hcommands
      have hcommand : last.command = last'.command := by
        have hlasts := (List.append_inj' hcommands rfl).2
        exact (List.cons.inj hlasts).1
      rw [Round.verdict, Round.verdict, hanswer, hcommand, hearlier]

/-- The calls of a course: one for each round, and the closing of the session. -/
theorem calls (h : t.Course commands before rounds result story) :
    Event.calls story = rounds.map Round.call ++ [.close] := by
  cases h with
  | completed _ _ _ =>
    rw [Event.calls_append, Event.calls_rounds]
    rfl
  | stopped _ _ _ =>
    rw [Event.calls_append, Event.calls_rounds]
    rfl

theorem exists_ending (h : t.Course commands before rounds result story) :
    ∃ ending, story = rounds.flatMap Round.events ++ ending := by
  cases h with
  | completed _ _ _ => exact ⟨_, rfl⟩
  | stopped _ _ _ => exact ⟨_, rfl⟩

theorem submitted (h : t.Course commands before rounds result story) :
    Event.commands story = rounds.map Round.command := by
  cases h with
  | completed _ _ _ => rw [Event.commands_append, Event.commands_rounds]; exact List.append_nil _
  | stopped _ _ _ => rw [Event.commands_append, Event.commands_rounds]; exact List.append_nil _

end Course

/-! ### Whole runs -/

/-- A round's exchange tells of the round: the command's id, the output as it is, and whether the
command succeeded. -/
structure Tells (t : Task σ) (r : Round) : Prop where
  address : r.exchange.request.address = t.reporter.commandAddress t.plan.taskId
  id : r.exchange.request.body.get? "command_id" = some (.string r.command.id)
  output : r.exchange.request.body.get? "output" = some (.string r.outcome.output)
  status : r.exchange.request.body.get? "status" =
    some (.string (if r.outcome.success then "success" else "failed"))

theorem tells_of_reported {t : Task σ} {r : Round} (h : t.Reported r) : t.Tells r := by
  obtain ⟨seconds, hrequest⟩ := h
  refine ⟨?_, ?_, ?_, ?_⟩
  · rw [hrequest]; rfl
  · rw [hrequest]; exact Reporter.get?_commandBody_id _ _ _
  · rw [hrequest]; exact Reporter.get?_commandBody_output _ _ _
  · rw [hrequest]; exact Reporter.get?_commandBody_status _ _ _

/-- A run whose session does not open submits nothing and makes no callback. -/
theorem run_stream_of_error {t : Task σ} {s : σ} {w : World} {f : Failure}
    (h : t.connectResult s w = .error f) :
    (t.run s w).1 = .error f ∧ t.calls s w = [.connect (some f)] ∧
      Event.commands (t.run s w).2.events = [] ∧ t.callbacks (t.run s w).2.events = [] := by
  obtain ⟨e, hresult, hevents, he⟩ := run_of_connect_error h
  rw [calls_eq, hevents]
  exact ⟨hresult, rfl, rfl, callbacks_status he⟩

/-- A run whose session opens is its rounds: they are the calls to the handler and the callbacks,
and decide the result. -/
theorem run_stream_of_ok {t : Task σ} {s : σ} {w : World} (h : t.connectResult s w = .ok ()) :
    ∃ e rounds ending,
      (t.run s w).2.events =
        [.connected none, .exchanged e, .pinging] ++ rounds.flatMap Round.events ++ ending ∧
      t.calls s w = .connect none :: rounds.map Round.call ++ [.close] ∧
      t.callbacks (t.run s w).2.events = rounds.map Round.exchange ∧
      (∀ r ∈ rounds, t.Tells r) ∧ Decided t.plan.commands rounds (t.run s w).1 := by
  obtain ⟨e, rounds, story, hevents, he, hcourse, hreported⟩ := run_of_connect_ok h
  have hcalls : t.calls s w = .connect none :: rounds.map Round.call ++ [.close] := by
    rw [calls_eq, hevents, Event.calls_append, hcourse.calls]
    rfl
  have hcallbacks : t.callbacks (t.run s w).2.events = rounds.map Round.exchange := by
    rw [hevents]
    exact callbacks_of_course he hcourse hreported
  have htells : ∀ r ∈ rounds, t.Tells r := fun r hr => tells_of_reported (hreported r hr)
  obtain ⟨ending, hstory⟩ := hcourse.exists_ending
  refine ⟨e, rounds, ending, ?_, hcalls, hcallbacks, htells, hcourse.decided⟩
  rw [hevents, hstory, List.append_assoc]

/-- Runs of the same commands whose sessions open alike, and whose callbacks are answered alike as
far as both make them, come to the same result with the same commands. -/
theorem run_agree {t : Task σ} {t' : Task σ'} {s : σ} {s' : σ'} {w w' : World}
    (hcommands : t.plan.commands = t'.plan.commands)
    (hconnect : t.connectResult s w = t'.connectResult s' w')
    (hanswers : ∀ (i : Nat) (a a' : Except Failure Decision),
      (t.answers (t.run s w).2.events)[i]? = some a →
        (t'.answers (t'.run s' w').2.events)[i]? = some a' → a = a') :
    (t.run s w).1 = (t'.run s' w').1 ∧
      Event.commands (t.run s w).2.events = Event.commands (t'.run s' w').2.events := by
  cases h : t.connectResult s w with
  | error f =>
    obtain ⟨hresult, -, hnone, -⟩ := run_stream_of_error h
    obtain ⟨hresult', -, hnone', -⟩ := run_stream_of_error (hconnect ▸ h)
    exact ⟨hresult.trans hresult'.symm, hnone.trans hnone'.symm⟩
  | ok u =>
    obtain ⟨e, rounds, story, hevents, he, hcourse, hreported⟩ := run_of_connect_ok h
    obtain ⟨e', rounds', story', hevents', he', hcourse', hreported'⟩ :=
      run_of_connect_ok (hconnect ▸ h)
    rw [hevents, hevents', answers_of_course he hcourse hreported,
      answers_of_course he' hcourse' hreported'] at hanswers
    have hagree : Course.Agree rounds rounds' := by
      intro i r r' hr hr'
      apply hanswers i
      · rw [List.getElem?_map, hr]; rfl
      · rw [List.getElem?_map, hr']; rfl
    rw [← hcommands] at hcourse'
    obtain ⟨hsame, hresult⟩ := hcourse.agree hcourse' hagree
    refine ⟨hresult, ?_⟩
    rw [hevents, hevents', Event.commands_append, Event.commands_append, hcourse.submitted,
      hcourse'.submitted, hsame]
    rfl

/-- The command stream of every run. If the session does not open, nothing is submitted, no
callback is made, and the result is the handler's failure. If it opens, the run goes in rounds:
each command is submitted once, in the order of the plan, is reported by one callback that tells
the outcome as it is, and is answered by the orchestrator before the next one; the first answer
that does not say to go on is the last, and the rounds decide the result. Nothing but the commands,
the opening of the session and the answers to the callbacks has a part in the result and in the
commands submitted. The exit code is 0 exactly if such a run comes to a conclusion. -/
theorem run_command_stream (t : Task σ) (s : σ) (w : World) :
    (∀ f, t.connectResult s w = .error f →
      (t.run s w).1 = .error f ∧ t.calls s w = [.connect (some f)] ∧
        Event.commands (t.run s w).2.events = [] ∧ t.callbacks (t.run s w).2.events = []) ∧
    (t.connectResult s w = .ok () →
      ∃ e rounds ending,
        (t.run s w).2.events =
          [.connected none, .exchanged e, .pinging] ++ rounds.flatMap Round.events ++ ending ∧
        t.calls s w = .connect none :: rounds.map Round.call ++ [.close] ∧
        t.callbacks (t.run s w).2.events = rounds.map Round.exchange ∧
        (∀ r ∈ rounds, t.Tells r) ∧ Decided t.plan.commands rounds (t.run s w).1) ∧
    Event.AnsweredBy t.orchestrator (t.run s w).2.events ∧
    (∀ {σ' : Type} (t' : Task σ') (s' : σ') (w' : World),
      t.plan.commands = t'.plan.commands → t.connectResult s w = t'.connectResult s' w' →
      (∀ (i : Nat) (a a' : Except Failure Decision),
        (t.answers (t.run s w).2.events)[i]? = some a →
          (t'.answers (t'.run s' w').2.events)[i]? = some a' → a = a') →
      (t.run s w).1 = (t'.run s' w').1 ∧
        Event.commands (t.run s w).2.events = Event.commands (t'.run s' w').2.events) ∧
    (∀ {τ : Type} (e : Surroundings τ) (args : List String) (encoded : String) (withEnv : Bool)
      (v : World), CommandLine.read args = some (.run encoded withEnv) →
      ((CommandLine.execute e args v).1 = 0 ↔
        ∃ a v', CommandLine.LeadsTo encoded withEnv v a v' ∧
          ∃ (ρ : Type) (h : Handler ρ) (r : ρ), a.run e v' = a.runWith e.orchestrator h r v' ∧
            ∃ c, ((a.task e.orchestrator h).run r v').1 = .ok c)) := by
  refine ⟨fun f => run_stream_of_error, run_stream_of_ok, t.run_answeredBy s w,
    fun t' s' w' => run_agree, ?_⟩
  intro τ e args encoded withEnv v hread
  rw [CommandLine.execute_eq_zero_iff e hread]
  constructor
  · rintro ⟨a, v', hleads, c, hc⟩
    obtain ⟨ρ, h, r, hrun⟩ := a.exists_run_eq_runWith e v'
    rw [hrun] at hc
    exact ⟨a, v', hleads, ρ, h, r, hrun, c, hc⟩
  · rintro ⟨a, v', hleads, ρ, h, r, hrun, c, hc⟩
    rw [← Agent.result_runWith, ← hrun] at hc
    exact ⟨a, v', hleads, c, hc⟩

end Task
end CommandAgent
