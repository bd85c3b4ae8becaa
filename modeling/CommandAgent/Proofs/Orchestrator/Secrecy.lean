import CommandAgent.Proofs.Log.Secrecy
import CommandAgent.Proofs.Orchestrator.Reporter

/-!
# The reporter keeps secrets

Nothing is masked in the lines about reports: the address of a report, the texts of the replies and
the remarks of the decisions are logged as they are. So these lines keep a secret if none of those
texts has its sign (`Http.Reply.Lacks`), and the failures of such reports do not have it either.
-/

namespace CommandAgent

open Http (Exchange)
open Json (Distinct Hides)

-- what a request comes to is never looked into here, and its address is long to parse
attribute [local irreducible] Http.Request.send

variable {sign : Char} {p : List Char} {I : World → Prop}

theorem Http.Method.ordinary_name (m : Http.Method) : Ordinary m.name := by cases m <;> decide

theorem TaskStatus.ordinary_name (s : TaskStatus) : Ordinary s.name := by cases s <;> decide

/-- A reply without the sign: neither its text nor what is read from it has it. -/
def Http.Reply.Lacks (sign : Char) : Http.Reply → Prop
  | .lost reason => CommandAgent.Lacks sign reason
  | .answered _ text =>
    CommandAgent.Lacks sign text ∧
      match Decision.parse text with
      | .ok d => CommandAgent.Lacks sign d.detail
      | .error reason => CommandAgent.Lacks sign reason

namespace Reporter

theorem keeps_answered (hp : Distinct sign p) {e : Exchange}
    (he : Lacks sign e.request.address) (code : Nat) : (answered e code).Keeps sign p := by
  refine Entry.Keeps.of_members hp (by decide) ?_
  simp only [List.forall_mem_cons]
  exact ⟨hp.hides_ordinary (by decide) (Http.Method.ordinary_name _),
    hp.hides_text (by decide) he, hp.hides_nat (by decide) code, by simp⟩

theorem note_guarded (hp : Distinct sign p) (hI : Guarded sign p I) {r : Reporter}
    (hcontext : Lacks sign r.logger.context) {e : Exchange} (he : Lacks sign e.request.address)
    {w : World} (hw : I w) : I (r.note e w) := by
  rw [note]
  split
  · exact hI.log_of_keeps hp hcontext (keeps_answered hp he _) hw
  · exact hw

/-- A failure of reporting that is made from texts without the sign. -/
theorem lacks_reporting (hp : Distinct sign p) {message : String} (h : Lacks sign message) :
    (Failure.reporting message).Lacks sign where
  code := Ordinary.lacks hp.rare (s := "REPORTING") (by decide)
  message := h
  hint := nofun
  details := nofun

/-- Details of members without the sign. -/
theorem lacks_withDetails (hp : Distinct sign p) {f : Failure} (hf : f.Lacks sign) {ms : Members}
    (h : ∀ m ∈ ms, Hides sign [sign] m) : (f.withDetails (.ofMembers ms)).Lacks sign where
  code := hf.code
  message := hf.message
  hint := hf.hint
  details := by
    rintro d ⟨⟩
    exact hp.notMem (hp.singleton.walled_ofMembers h)

/-- The failure of an exchange without the sign. -/
theorem lacks_of_judge_error (hp : Distinct sign p) {e : Exchange}
    (he : Lacks sign e.request.address) (hreply : e.reply.Lacks sign) {f : Failure}
    (h : judge e = .error f) : f.Lacks sign := by
  have hfixed {s : String} (hs : Ordinary s) : Lacks sign s := hs.lacks hp.rare
  rw [judge] at h
  split at h
  · next reason hlost =>
    rw [hlost] at hreply
    have hmessage : Lacks sign ("Request to " ++ e.request.address ++ " failed: " ++ reason) :=
      .append (.append (.append (hfixed (by decide)) he) (hfixed (by decide))) hreply
    cases h
    exact lacks_reporting hp hmessage
  · next code text hanswered =>
    rw [hanswered] at hreply
    have hmessage : Lacks sign ("Orchestrator answered " ++ toString code ++ ": " ++ text) :=
      .append (.append (.append (hfixed (by decide)) (hfixed (ordinary_toString_nat code)))
        (hfixed (by decide))) hreply.1
    split at h
    · cases h
    · cases h
      refine lacks_withDetails hp (lacks_reporting hp hmessage) ?_
      simp only [List.forall_mem_cons]
      exact ⟨hp.singleton.hides_text (by decide) he, hp.singleton.hides_nat (by decide) code,
        by simp⟩

/-- The failure of an answer without the sign that is no decision. -/
theorem lacks_of_readDecision_error (hp : Distinct sign p) {code : Nat} {text : String}
    (hreply : (Http.Reply.answered code text).Lacks sign) {f : Failure}
    (h : readDecision text = .error f) : f.Lacks sign := by
  obtain ⟨htext, hparsed⟩ := hreply
  rw [readDecision] at h
  cases hparse : Decision.parse text with
  | ok d => rw [hparse] at h; cases h
  | error reason =>
    rw [hparse] at h hparsed
    have hmessage : Lacks sign ("Unparseable command callback response: " ++ reason) :=
      .append (Ordinary.lacks hp.rare (by decide)) hparsed
    cases h
    refine lacks_withDetails hp (lacks_reporting hp hmessage) ?_
    simp only [List.forall_mem_cons]
    exact ⟨hp.singleton.hides_text (by decide) htext, by simp⟩

/-- The failure of a report on a command whose reply lacks the sign. -/
theorem lacks_of_answer_error (hp : Distinct sign p) {e : Exchange}
    (he : Lacks sign e.request.address) (hreply : e.reply.Lacks sign) {f : Failure}
    (h : (judge e >>= readDecision) = .error f) : f.Lacks sign := by
  cases hjudge : judge e with
  | error f' =>
    rw [hjudge] at h
    cases h
    exact lacks_of_judge_error hp he hreply hjudge
  | ok text =>
    rw [hjudge] at h
    rw [judge_eq_ok.mp hjudge] at hreply
    exact lacks_of_readDecision_error hp hreply h

/-- The remark of a decision in a reply without the sign. -/
theorem lacks_detail (e : Exchange) (hreply : e.reply.Lacks sign) {d : Decision}
    (h : (judge e >>= readDecision) = .ok d) : Lacks sign d.detail := by
  cases hjudge : judge e with
  | error f => rw [hjudge] at h; cases h
  | ok text =>
    rw [hjudge] at h
    rw [judge_eq_ok.mp hjudge] at hreply
    have hread : readDecision text = .ok d := h
    rw [readDecision] at hread
    obtain ⟨-, hparsed⟩ := hreply
    cases hparse : Decision.parse text with
    | error reason => rw [hparse] at hread; cases hread
    | ok d' =>
      rw [hparse] at hread hparsed
      cases hread
      exact hparsed

theorem keeps_reported (hp : Distinct sign p) (status : TaskStatus) :
    (Entry.mk .info "Task status reported" (.ofMembers [("status", .string status.name)])).Keeps
      sign p := by
  refine .of_members hp (by decide) ?_
  simp only [List.forall_mem_cons]
  exact ⟨hp.hides_ordinary (by decide) (TaskStatus.ordinary_name status), by simp⟩

/-- A report on the task: its lines do not show the secret, and its failure does not have the
sign. -/
theorem reportStatus_guarded (hp : Distinct sign p) (hI : Guarded sign p I) {r : Reporter}
    (hcontext : Lacks sign r.logger.context) {server : Http.Server} {past : List Exchange}
    {taskId : String} {status : TaskStatus} {reason : Option String} {e : Exchange}
    (hsend : (r.request .patch (r.taskAddress taskId) (statusBody status reason)).send server past
      = e)
    (he : Lacks sign e.request.address) (hreply : e.reply.Lacks sign) {w : World} (hw : I w) :
    I (r.reportStatus server past taskId status reason w).2.2 ∧
      ∀ f, (r.reportStatus server past taskId status reason w).1 = .error f → f.Lacks sign := by
  have hnote := note_guarded hp hI hcontext he hw
  rw [reportStatus, hsend]
  cases hjudge : judge e with
  | error f =>
    refine ⟨hnote, ?_⟩
    rintro f' ⟨⟩
    exact lacks_of_judge_error hp he hreply hjudge
  | ok text => exact ⟨hI.log_of_keeps hp hcontext (keeps_reported hp status) hnote, nofun⟩

end Reporter

end CommandAgent
