import CommandAgent.Handler.Executor
import CommandAgent.Proofs.Log.Secrecy

/-!
# The executor keeps secrets

The executor masks its secrets in the inputs and the outputs of the commands, and in the message and
the details of a failure to connect; the hint of that failure is logged as it is. So the lines of an
executor keep a secret that it masks, whatever the backend answers, if the hints of the backend do
not show it.
-/

namespace CommandAgent

open Json (Distinct Hides)

variable {σ : Type} {sign : Char} {p : List Char} {I : World → Prop}

theorem Backend.ordinary_name (b : Backend) : Ordinary b.name := by cases b <;> decide

/-! ### Lines -/

namespace Executor

variable {x : Executor σ}

/-- What the executor masks does not show the secret. -/
def Masks (x : Executor σ) (p : List Char) : Prop := ∀ s, ¬ p <:+: (x.mask s).toList

theorem keeps_connected (hp : Distinct sign p) (x : Executor σ) (elapsed : Nat) :
    (x.connected elapsed).Keeps sign p := by
  refine Entry.Keeps.of_members hp (by decide) ?_
  simp only [List.forall_mem_cons]
  exact ⟨hp.hides_ordinary (by decide) (Backend.ordinary_name _), hp.hides_nat (by decide) elapsed,
    by simp⟩

/-- The line for a failed connect shows the secret only if the hint of the failure does. -/
theorem keeps_connectFailed (hp : Distinct sign p) (hmask : x.Masks p) {f : Failure}
    (hhint : ∀ s ∈ f.hint, ¬ p <:+: s.toList) : (x.connectFailed f).Keeps sign p := by
  have hdetails : ∀ s ∈ f.details.map fun d => x.mask d.render, ¬ p <:+: s.toList := by
    intro s hs
    obtain ⟨d, -, rfl⟩ := Option.map_eq_some_iff.mp hs
    exact hmask _
  refine Entry.Keeps.of_members hp (by decide) ?_
  simp only [List.forall_mem_cons]
  exact ⟨hp.hides_ordinary (by decide) (Backend.ordinary_name _),
    hp.hides_string (by decide) (hmask _), .of (by decide) (hp.walled_ofOption hhint),
    .of (by decide) (hp.walled_ofOption hdetails), by simp⟩

theorem keeps_executing (hp : Distinct sign p) (hmask : x.Masks p) {c : Command}
    (hc : Lacks sign c.id) : (x.executing c).Keeps sign p := by
  refine Entry.Keeps.of_members hp (by decide) ?_
  simp only [List.forall_mem_cons]
  exact ⟨hp.hides_text (by decide) hc, .of (by decide) (hp.walled_int c.index),
    hp.hides_string (by decide) (hmask _), by simp⟩

/-- The line after a command does not show the secret, whatever the command has put out. -/
theorem keeps_finished (hp : Distinct sign p) (hmask : x.Masks p) {c : Command}
    (hc : Lacks sign c.id) (o : Outcome) (elapsed : Nat) :
    (x.finished c o elapsed).Keeps sign p := by
  have hmembers : ∀ m ∈ [("command_id", .string c.id), ("success", .bool o.success),
      ("duration_ms", .nat elapsed),
      ("output", .string (x.mask (Text.preview o.output maxPreview)))], Hides sign p m := by
    simp only [List.forall_mem_cons]
    exact ⟨hp.hides_text (by decide) hc, .of (by decide) (hp.walled_bool o.success),
      hp.hides_nat (by decide) elapsed, hp.hides_string (by decide) (hmask _), by simp⟩
  rw [finished]
  split
  · exact Entry.Keeps.of_members hp (by decide) hmembers
  · exact Entry.Keeps.of_members hp (by decide) hmembers

end Executor

/-! ### Steps -/

/-- The handler keeps the property of worlds, and its hints do not show the secret. -/
structure Handler.Respects (h : Handler σ) (p : List Char) (I : World → Prop) : Prop where
  connect : ∀ {s w}, I w → I (h.connect s w).2.2
  submit : ∀ {c s w}, I w → I (h.submit c s w).2.2
  close : ∀ {s w}, I w → I (h.close s w).2
  hint : ∀ {s w f}, I w → (h.connect s w).1 = .error f → ∀ text ∈ f.hint, ¬ p <:+: text.toList

namespace Executor

variable {x : Executor σ}

/-- A connect through the executor keeps a guarded property that the handler keeps. -/
theorem connect_guarded (hp : Distinct sign p) (hI : Guarded sign p I) (hmask : x.Masks p)
    (hcontext : Lacks sign x.logger.context) (hh : x.handler.Respects p I) {s : σ} {w : World}
    (hw : I w) : I (x.connect s w).2.2 := by
  have hafter : I (x.handler.connect s w).2.2 := hh.connect hw
  cases hresult : (x.handler.connect s w).1 with
  | ok u =>
    simp only [connect, hresult]
    exact hI.log_of_keeps hp hcontext (keeps_connected hp x _) hafter
  | error f =>
    simp only [connect, hresult]
    exact hI.log_of_keeps hp hcontext (keeps_connectFailed hp hmask (hh.hint hw hresult)) hafter

theorem execute_guarded (hp : Distinct sign p) (hI : Guarded sign p I) (hmask : x.Masks p)
    (hcontext : Lacks sign x.logger.context) (hh : x.handler.Respects p I) {c : Command}
    (hc : Lacks sign c.id) {s : σ} {w : World} (hw : I w) : I (x.execute c s w).2.2 := by
  have hbefore := hI.log_of_keeps hp hcontext (keeps_executing hp hmask hc) hw
  exact hI.log_of_keeps hp hcontext (keeps_finished hp hmask hc _ _) (hh.submit hbefore)

theorem close_guarded (hp : Distinct sign p) (hI : Guarded sign p I)
    (hcontext : Lacks sign x.logger.context) (hh : x.handler.Respects p I) {s : σ} {w : World}
    (hw : I w) : I (x.close s w).2 :=
  hI.log_of_keeps hp hcontext ⟨Ordinary.lacks hp.rare (by decide), .bare hp.notMem_null⟩
    (hh.close hw)

end Executor

end CommandAgent
