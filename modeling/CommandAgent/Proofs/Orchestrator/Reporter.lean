import CommandAgent.Orchestrator.Reporter
import CommandAgent.Proofs.Json.Canonical
import CommandAgent.Proofs.Orchestrator.Decision

/-!
# Reports and replies

What stands in the bodies of the reports, and what a reply to them comes to: a decision exactly if
its code is 200 and its text is a document of the decision (`Http.Reply.Decides`), and else a
failure of reporting.
-/

namespace CommandAgent

open Http (Reply)

/-! ### Bodies -/

namespace Reporter

theorem get?_statusBody_status (status : TaskStatus) (reason : Option String) :
    (statusBody status reason).get? "status" = some (.string status.name) := by
  simp [statusBody, Json.ofMembers, Json.get?, Json.lookup?_insertMember]

theorem get?_statusBody_reason (status : TaskStatus) (reason : Option String) :
    (statusBody status reason).get? "reason" = some (.string (reasonText reason)) := by
  simp [statusBody, Json.ofMembers, Json.get?, Json.lookup?_insertMember]

theorem get?_commandBody_id (c : Command) (o : Outcome) (seconds : Nat) :
    (commandBody c o seconds).get? "command_id" = some (.string c.id) := by
  simp [commandBody, Json.ofMembers, Json.get?, Json.lookup?_insertMember]

theorem get?_commandBody_output (c : Command) (o : Outcome) (seconds : Nat) :
    (commandBody c o seconds).get? "output" = some (.string o.output) := by
  simp [commandBody, Json.ofMembers, Json.get?, Json.lookup?_insertMember]

/-- The report on a command tells whether it succeeded. -/
theorem get?_commandBody_status (c : Command) (o : Outcome) (seconds : Nat) :
    (commandBody c o seconds).get? "status" =
      some (.string (if o.success then "success" else "failed")) := by
  have hname : o.status.name = if o.success then "success" else "failed" := by
    rw [Outcome.status]
    cases o.success <;> rfl
  rw [← hname]
  simp [commandBody, Json.ofMembers, Json.get?, Json.lookup?_insertMember]

end Reporter

/-! ### Replies -/

/-- A reply gives a decision: its code is 200, and its text is a document of the decision. -/
def Http.Reply.Decides (r : Reply) (d : Decision) : Prop :=
  ∃ text, r = .answered 200 text ∧ Decision.Document (Text.Utf8.encode text) d

namespace Reporter

theorem readDecision_eq_ok {text : String} {d : Decision} :
    readDecision text = .ok d ↔ Decision.Document (Text.Utf8.encode text) d := by
  rw [← Decision.parse_eq_ok_iff, readDecision]
  cases Decision.parse text with
  | error reason => constructor <;> intro h <;> cases h
  | ok d' => constructor <;> intro h <;> cases h <;> rfl

theorem kind_of_readDecision_error {text : String} {f : Failure}
    (h : readDecision text = .error f) : f.kind = .reporting := by
  rw [readDecision] at h
  cases hparse : Decision.parse text with
  | error reason => rw [hparse] at h; cases h; rfl
  | ok d => rw [hparse] at h; cases h

/-- An answer is taken exactly if its code is 200. -/
theorem judge_eq_ok {e : Http.Exchange} {text : String} :
    judge e = .ok text ↔ e.reply = .answered 200 text := by
  rw [judge]
  cases e.reply with
  | lost reason => constructor <;> intro h <;> cases h
  | answered code text' =>
    by_cases hcode : code = 200
    · simp [hcode]
    · simp [hcode]

/-- What is not taken is a failure of the reporting. -/
theorem kind_of_judge_error {e : Http.Exchange} {f : Failure} (h : judge e = .error f) :
    f.kind = .reporting := by
  rw [judge] at h
  cases hreply : e.reply with
  | lost reason => rw [hreply] at h; cases h; rfl
  | answered code text =>
    simp only [hreply] at h
    split at h
    · cases h
    · cases h; rfl

end Reporter

end CommandAgent
