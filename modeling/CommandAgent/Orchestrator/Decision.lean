import CommandAgent.Json.Expect

/-!
# Decisions

The orchestrator answers each command report with a decision: whether the next command may be sent,
and a remark. It must say so: whatever it leaves out counts as a refusal.
-/

namespace CommandAgent

/-- Whether to go on, and a remark. -/
structure Decision where
  proceed : Bool := false
  detail : String := ""
deriving DecidableEq, Repr

namespace Decision

/-- The fields of a decision, in the order of its array form. -/
def fields : List (Json.Stream.Field Decision) :=
  [⟨"status", fun c d => (Json.Stream.flag c).map fun (b, c) => ({ d with proceed := b }, c)⟩,
    ⟨"detail", fun c d => (Json.Stream.text c).map fun (s, c) => ({ d with detail := s }, c)⟩]

def parse (body : String) : Except String Decision :=
  Json.Stream.document (Json.Stream.record "ContinueDecision" fields {}) (Text.Utf8.encode body)

end Decision
end CommandAgent
