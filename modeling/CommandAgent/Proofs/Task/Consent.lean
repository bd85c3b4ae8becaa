import CommandAgent.Proofs.Task.CommandStream

/-!
# Consent

A run goes on only with the orchestrator's consent: after a command has been reported, the next one
is submitted, or the run completed, exactly if the answer has code 200 and its text is a document
that says so (`Http.Reply.Decides`). An answer that says no, or says nothing about it, halts the
run, and an answer that is no decision at all fails it; no answer lets an unapproved command
through. What an address redirects to is left to the server here: its answer is the last one.
-/

namespace CommandAgent

open Http (Reply)

variable {σ : Type}

namespace Round

/-- A round is answered with a decision exactly if the reply gives it. -/
theorem answer_eq_ok (r : Round) (d : Decision) :
    r.answer = .ok d ↔ r.exchange.reply.Decides d := by
  constructor
  · intro h
    obtain ⟨text, hjudge, hread⟩ := Json.bind_eq_ok h
    exact ⟨text, Reporter.judge_eq_ok.mp hjudge, Reporter.readDecision_eq_ok.mp hread⟩
  · rintro ⟨text, hreply, hdocument⟩
    rw [answer, Reporter.judge_eq_ok.mpr hreply]
    exact Reporter.readDecision_eq_ok.mpr hdocument

/-- A report on a command that was not taken is a failure of the reporting. -/
theorem kind_of_answer_error {r : Round} {f : Failure} (h : r.answer = .error f) :
    f.kind = .reporting := by
  cases hjudge : Reporter.judge r.exchange with
  | error f' =>
    rw [answer, hjudge] at h
    cases h
    exact Reporter.kind_of_judge_error hjudge
  | ok text =>
    rw [answer, hjudge] at h
    exact Reporter.kind_of_readDecision_error h

theorem continues_iff (r : Round) :
    r.Continues ↔ ∃ detail, r.exchange.reply.Decides ⟨true, detail⟩ := by
  constructor
  · rintro ⟨⟨proceed, detail⟩, hanswer, rfl⟩
    exact ⟨detail, (r.answer_eq_ok _).mp hanswer⟩
  · rintro ⟨detail, hdecides⟩
    exact ⟨⟨true, detail⟩, (r.answer_eq_ok _).mpr hdecides, rfl⟩

end Round

namespace Task

namespace Course

variable {t : Task σ} {commands : List Command} {before : Nat} {rounds earlier later : List Round}
  {r : Round} {result : Except Failure Conclusion} {story : List Event}

/-- A round that others follow has an answer that says to go on. -/
theorem continues_of_later (h : t.Course commands before rounds result story)
    (hrounds : rounds = earlier ++ r :: later) (hlater : later ≠ []) : r.Continues := by
  have hlength : 0 < later.length := List.length_pos_iff.mpr hlater
  apply h.continues_of_lt (i := earlier.length)
  · rw [hrounds, List.getElem?_append_right (Nat.le_refl _), Nat.sub_self]
    rfl
  · rw [hrounds, List.length_append, List.length_cons]
    omega

/-- A round whose answer does not say to go on is the last, and decides the result. -/
theorem last_of_not_continues (h : t.Course commands before rounds result story)
    (hrounds : rounds = earlier ++ r :: later) (hr : ¬ r.Continues) :
    later = [] ∧ result = r.verdict (before + (earlier.length + 1)) := by
  have hlater : later = [] := by
    by_cases hlater : later = []
    · exact hlater
    · exact absurd (h.continues_of_later hrounds hlater) hr
  refine ⟨hlater, ?_⟩
  rw [hlater] at hrounds
  cases h with
  | completed _ hcontinue _ =>
    have hmem : r ∈ rounds := by
      rw [hrounds]
      exact List.mem_append_right _ List.mem_cons_self
    exact absurd (hcontinue r hmem) hr
  | stopped _ _ _ =>
    obtain ⟨rfl, hlast⟩ := List.append_inj' hrounds rfl
    rw [(List.cons.inj hlast).1]

/-- A last round whose answer says to go on completes the run. -/
theorem completed_of_continues (h : t.Course commands before rounds result story)
    (hrounds : rounds = earlier ++ [r]) (hr : r.Continues) :
    ∃ n, result = .ok (.completed n) := by
  cases h with
  | completed _ _ _ => exact ⟨_, rfl⟩
  | stopped _ _ hlast =>
    obtain ⟨-, heq⟩ := List.append_inj' hrounds rfl
    rw [(List.cons.inj heq).1] at hlast
    exact absurd hr hlast

/-- In a course that was completed every round has been told to go on. -/
theorem continues_of_completed {n : Nat} (h : t.Course commands before rounds result story)
    (hresult : result = .ok (.completed n)) (hr : r ∈ rounds) : r.Continues := by
  cases h with
  | completed _ hcontinue _ => exact hcontinue r hr
  | @stopped earlier last _ _ _ =>
    rw [Round.verdict] at hresult
    cases hanswer : last.answer with
    | error f => rw [hanswer] at hresult; cases hresult
    | ok d => rw [hanswer] at hresult; cases hresult

end Course

/-- What the reply to a round leads to. -/
structure Obeyed (result : Except Failure Conclusion) (earlier : List Round) (r : Round)
    (later : List Round) : Prop where
  /-- Another command is submitted, or the run completed, exactly with consent. -/
  consent : (later ≠ [] ∨ ∃ n, result = .ok (.completed n)) ↔
    ∃ detail, r.exchange.reply.Decides ⟨true, detail⟩
  /-- A decision that is no consent halts the run. -/
  refusal : ∀ detail, r.exchange.reply.Decides ⟨false, detail⟩ →
    later = [] ∧ result = .ok (.halted r.command.id detail (earlier.length + 1))
  /-- A reply without a decision fails the run. -/
  noDecision : (∀ d, ¬ r.exchange.reply.Decides d) →
    later = [] ∧ ∃ f, result = .error f ∧ f.kind = .reporting

/-- A course obeys the answer to each of its rounds: it goes on, halts or fails as the answer
says. -/
theorem Course.obeyed {t : Task σ} {commands : List Command} {rounds earlier later : List Round}
    {r : Round} {result : Except Failure Conclusion} {story : List Event}
    (h : t.Course commands 0 rounds result story) (hrounds : rounds = earlier ++ r :: later) :
    Obeyed result earlier r later := by
  constructor
  · rw [← Round.continues_iff]
    constructor
    · rintro (hlater | ⟨n, hresult⟩)
      · exact h.continues_of_later hrounds hlater
      · apply h.continues_of_completed hresult
        rw [hrounds]
        exact List.mem_append_right _ List.mem_cons_self
    · intro hr
      cases later with
      | nil => exact .inr (h.completed_of_continues hrounds hr)
      | cons r' later => exact .inl (List.cons_ne_nil _ _)
  · intro detail hdecides
    have hanswer := (r.answer_eq_ok _).mpr hdecides
    -- a reply gives one decision at most, and this one is no consent
    have hr : ¬ r.Continues := by
      rintro ⟨d, hd, hproceed⟩
      rw [hanswer] at hd
      cases hd
      cases hproceed
    obtain ⟨hlater, hresult⟩ := h.last_of_not_continues hrounds hr
    refine ⟨hlater, ?_⟩
    rw [hresult, Round.verdict, hanswer, Nat.zero_add]
    rfl
  · intro hnone
    have hr : ¬ r.Continues := by
      rintro ⟨d, hd, -⟩
      exact hnone d ((r.answer_eq_ok d).mp hd)
    obtain ⟨hlater, hresult⟩ := h.last_of_not_continues hrounds hr
    refine ⟨hlater, ?_⟩
    cases hanswer : r.answer with
    | ok d => exact absurd ((r.answer_eq_ok d).mp hanswer) (hnone d)
    | error f =>
      refine ⟨f, ?_, Round.kind_of_answer_error hanswer⟩
      rw [hresult, Round.verdict, hanswer]
      rfl

/-- Every run obeys the orchestrator. Its rounds are its submissions and its callbacks, each
answered by the orchestrator, and after each round a further command is submitted, or the run
completed, exactly if the reply has code 200 and a text that is a document saying true. A document
that says false, or does not say, halts the run there; and every other reply, whatever its code and
its text, and a reply that is lost, ends it with a failure of reporting. -/
theorem run_obeys (t : Task σ) (s : σ) (w : World) :
    ∃ opening rounds ending,
      (t.run s w).2.events = opening ++ rounds.flatMap Round.events ++ ending ∧
      Event.commands (t.run s w).2.events = rounds.map Round.command ∧
      t.callbacks (t.run s w).2.events = rounds.map Round.exchange ∧
      Event.AnsweredBy t.orchestrator (t.run s w).2.events ∧
      ∀ earlier r later, rounds = earlier ++ r :: later →
        Obeyed (t.run s w).1 earlier r later := by
  cases h : t.connectResult s w with
  | error f =>
    obtain ⟨-, -, hcommands, hcallbacks⟩ := run_stream_of_error h
    refine ⟨(t.run s w).2.events, [], [], by simp, hcommands, hcallbacks, t.run_answeredBy s w, ?_⟩
    intro earlier r later hrounds
    cases earlier <;> cases hrounds
  | ok u =>
    obtain ⟨e, rounds, story, hevents, he, hcourse, hreported⟩ := run_of_connect_ok h
    obtain ⟨ending, hstory⟩ := hcourse.exists_ending
    refine ⟨[.connected none, .exchanged e, .pinging], rounds, ending, ?_, ?_, ?_,
      t.run_answeredBy s w, fun earlier r later hrounds => hcourse.obeyed hrounds⟩
    · rw [hevents, hstory, List.append_assoc]
    · rw [hevents, Event.commands_append, hcourse.submitted]
      rfl
    · rw [hevents]
      exact callbacks_of_course he hcourse hreported

end Task
end CommandAgent
