import CommandAgent.CommandLine

/-!
# The exit code

What the exit code tells. Arguments that ask for a run lead to at most one agent that runs: the one
made from the envelope, or, with the variables of the plan, the one that the second run makes from
it (`LeadsTo`). The exit code is 0 exactly if there is such an agent and its run comes to a
conclusion.
-/

namespace CommandAgent

variable {τ : Type}

/-- Every agent runs its plan as a task, with the handler of the plan's backend. -/
theorem Agent.exists_run_eq_runWith (a : Agent) (e : Surroundings τ) (w : World) :
    ∃ (σ : Type) (h : Handler σ) (s : σ), a.run e w = a.runWith e.orchestrator h s w := by
  rw [Agent.run]
  cases a.plan.backend <;> exact ⟨_, _, _, rfl⟩

theorem Agent.result_runWith {σ : Type} (a : Agent) (server : Http.Server) (h : Handler σ) (s : σ)
    (w : World) : (a.runWith server h s w).result = ((a.task server h).run s w).1 := rfl

namespace CommandLine

/-- The world once the variables of the plan have been logged. -/
def announced (a : Agent) (w : World) : World :=
  a.plan.envOverlay.foldl (fun w (key, _) => a.logger.log (setting key) w) w

/-- The variables of the plan can be handed to a second run. -/
def Passable (a : Agent) : Prop :=
  ∀ entry ∈ a.plan.envOverlay, holdsNul entry.1 = false ∧ holdsNul entry.2 = false

/-- The agent that runs in the end for an envelope, and the world in which it starts. -/
inductive LeadsTo (encoded : String) : (withEnv : Bool) → World → Agent → World → Prop
  /-- The agent is made from the envelope. -/
  | plain {w w' : World} {a : Agent} : Agent.prepare encoded w = (.ok a, w') →
      LeadsTo encoded false w a w'
  /-- A first agent passes its variables on to a second run. -/
  | again {w w₁ w' : World} {first a : Agent} : Agent.prepare encoded w = (.ok first, w₁) →
      Passable first →
      LeadsTo encoded false (relaunched first.plan.envOverlay (announced first w₁)) a w' →
      LeadsTo encoded true w a w'

/-- An agent that is run directly exits with 0 exactly if its task was completed or halted. -/
theorem runAgent_eq_zero_iff (e : Surroundings τ) (a : Agent) (w : World) :
    (runAgent e a w).1 = 0 ↔ ∃ c, (a.run e w).result = .ok c := by
  rw [runAgent]
  cases h : (a.run e w).result with
  | ok c => exact ⟨fun _ => ⟨c, rfl⟩, fun _ => rfl⟩
  | error f =>
    refine ⟨fun hcode => absurd hcode Nat.one_ne_zero, ?_⟩
    rintro ⟨c, hc⟩
    cases hc

/-- Exit code 0 takes an agent that can be made, and exit code 0 of what is done with it. -/
theorem withAgent_eq_zero_iff (encoded : String) (next : Agent → World → Nat × World) (w : World) :
    (withAgent encoded next w).1 = 0 ↔
      ∃ a w', Agent.prepare encoded w = (.ok a, w') ∧ (next a w').1 = 0 := by
  rw [withAgent]
  rcases h : Agent.prepare encoded w with ⟨f | a, w'⟩
  · refine ⟨fun hcode => absurd hcode Nat.one_ne_zero, ?_⟩
    rintro ⟨a, w'', hok, -⟩
    cases hok
  · refine ⟨fun hcode => ⟨a, w', rfl, hcode⟩, ?_⟩
    rintro ⟨a', w'', hok, hcode⟩
    cases hok
    exact hcode

/-- The program run once more exits with 0 exactly if its variables can be passed on and the
second run exits with 0. -/
theorem relaunch_eq_zero_iff (e : Surroundings τ) (encoded : String) (a : Agent) (w : World) :
    (relaunch e encoded a w).1 = 0 ↔
      Passable a ∧
        (withAgent encoded (runAgent e)
          (relaunched a.plan.envOverlay (announced a w))).1 = 0 := by
  have hpassable : Passable a ↔
      (a.plan.envOverlay.any fun (key, value) => holdsNul key || holdsNul value) = false := by
    simp [Passable, List.any_eq_false]
  rw [relaunch, hpassable]
  cases (a.plan.envOverlay.any fun (key, value) => holdsNul key || holdsNul value) with
  | true =>
    simp only [if_true, Bool.true_eq_false, false_and, iff_false]
    exact Nat.one_ne_zero
  | false =>
    simp only [Bool.false_eq_true, if_false, true_and]
    rfl

/-- The exit code of a run is 0 exactly if an agent runs in the end and comes to a conclusion. -/
theorem execute_eq_zero_iff (e : Surroundings τ) {args : List String} {encoded : String}
    {withEnv : Bool} (h : read args = some (.run encoded withEnv)) (w : World) :
    (execute e args w).1 = 0 ↔
      ∃ a w', LeadsTo encoded withEnv w a w' ∧ ∃ c, (a.run e w').result = .ok c := by
  have hplain (w : World) : (withAgent encoded (runAgent e) w).1 = 0 ↔
      ∃ a w', LeadsTo encoded false w a w' ∧ ∃ c, (a.run e w').result = .ok c := by
    rw [withAgent_eq_zero_iff]
    constructor
    · rintro ⟨a, w', hprepare, hcode⟩
      exact ⟨a, w', .plain hprepare, (runAgent_eq_zero_iff e a w').mp hcode⟩
    · rintro ⟨a, w', ⟨hprepare⟩, hconclusion⟩
      exact ⟨a, w', hprepare, (runAgent_eq_zero_iff e a w').mpr hconclusion⟩
  rw [execute, h]
  cases withEnv with
  | false => exact hplain w
  | true =>
    show (withAgent encoded (relaunch e encoded) w).1 = 0 ↔ _
    rw [withAgent_eq_zero_iff]
    constructor
    · rintro ⟨first, w₁, hprepare, hcode⟩
      obtain ⟨hpassable, hcode⟩ := (relaunch_eq_zero_iff e encoded first w₁).mp hcode
      obtain ⟨a, w', hleads, hconclusion⟩ := (hplain _).mp hcode
      exact ⟨a, w', .again hprepare hpassable hleads, hconclusion⟩
    · rintro ⟨a, w', hleads, hconclusion⟩
      cases hleads with
      | @again _ w₁ _ first _ hprepare hpassable hleads =>
        have hcode := (hplain _).mpr ⟨a, w', hleads, hconclusion⟩
        exact ⟨first, w₁, hprepare,
          (relaunch_eq_zero_iff e encoded first w₁).mpr ⟨hpassable, hcode⟩⟩

end CommandLine
end CommandAgent
