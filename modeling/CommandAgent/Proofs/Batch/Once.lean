import CommandAgent.Batch.Handler
import CommandAgent.Proofs.Handler.Life

/-!
# A batch runs once

Whatever a batch handler is called for, in any order and with any changes to the world in between,
it starts at most one program (`runs_at_most_once`): during the first submit, and only if the
handler is connected then. Every later submit is told that it was included in that run and how the
run ended, and starts nothing.

How many programs a computation starts is told by how often it asks the machine to run one
(`Starts`).
-/

namespace CommandAgent

/-! ### Programs that are started -/

/-- How a machine runs programs. -/
abbrev Runner := Launch → Place → World → Except LaunchFault Ended × World

/-- The computation starts at most so many programs: each time it hands a launch to the machine, and
goes on with nothing but the answer. -/
inductive Starts {α : Type} : Nat → (Runner → α) → Prop
  | done {n : Nat} (a : α) : Starts n fun _ => a
  | next {n : Nat} (launch : Launch) (output : Place) (w : World)
      (onward : Except LaunchFault Ended × World → Runner → α) :
      (∀ answer, Starts n (onward answer)) →
      Starts (n + 1) fun run => onward (run launch output w) run

namespace Starts

variable {α β : Type} {n m : Nat} {f : Runner → α}

/-- A bound on the programs started is kept if it is raised. -/
theorem mono (h : Starts n f) (hle : n ≤ m) : Starts m f := by
  induction h generalizing m with
  | done a => exact .done a
  | @next n launch output w onward _ ih =>
    obtain ⟨k, rfl⟩ : ∃ k, m = k + 1 := ⟨m - 1, by omega⟩
    apply Starts.next
    intro answer
    exact ih answer (Nat.le_of_succ_le_succ hle)

/-- One computation after another. -/
theorem bind (hf : Starts n f) {g : α → Runner → β} (hg : ∀ a, Starts m (g a)) :
    Starts (n + m) fun run => g (f run) run := by
  induction hf with
  | @done n a => exact (hg a).mono (Nat.le_add_left m n)
  | @next n launch output w onward _ ih =>
    rw [Nat.add_right_comm]
    exact .next launch output w (fun answer run => g (onward answer run) run) ih

/-- What is made of a result starts nothing more. -/
theorem map (hf : Starts n f) (g : α → β) : Starts n fun run => g (f run) := by
  refine hf.bind (m := 0) (g := fun a _ => g a) ?_
  intro a
  exact .done (g a)

end Starts

/-! ### One run -/

/-- What the machine's answer is turned into. -/
def Invocation.captured (i : Invocation) (path : String) :
    Except LaunchFault Ended × World → Except Failure Captured × World
  | (.error (.spawn e), w) =>
    (.error (Failure.command s!"Failed to spawn {i.launch.program}: {e.message}"), w)
  | (.error (.wait e), w) =>
    (.error (Failure.command s!"Failed to wait for {i.launch.program}: {e.message}"), w)
  | (.ok ended, w) =>
    match w.contentOf path with
    | .error e => (.error (Failure.ofOsError e), w)
    | .ok data => (.ok ⟨ended.code, Text.Utf8.decodeLossy data⟩, w)

theorem Invocation.capture_eq (m : Machine) (i : Invocation) (path : String) (w : World) :
    i.capture m path w =
      match w.files.resolveNew w.cwd path with
      | .error e => (.error (Failure.ofOsError e), w)
      | .ok place => i.captured path (m.run i.launch place w) := by
  unfold Invocation.capture Invocation.captured
  rfl

section
variable (duplicate : World → Except OsError Unit)

/-- Once the output has its file, the program is started. -/
theorem starts_capture (i : Invocation) (path : String) (w : World) :
    Starts 1 fun run => i.capture ⟨duplicate, run⟩ path w := by
  simp only [Invocation.capture_eq]
  cases w.files.resolveNew w.cwd path with
  | error e => exact .done _
  | ok place =>
    apply Starts.next i.launch place w (fun answer _ => i.captured path answer)
    intro answer
    exact .done _

/-- Running an invocation starts its program, unless there is no file for the output. -/
theorem starts_invocation (i : Invocation) (w : World) :
    Starts 1 fun run => i.run ⟨duplicate, run⟩ w := by
  unfold Invocation.run
  dsimp only
  cases w.updateFiles (w.files.makeDirectories w.cwd (Invocation.captureDirectory w)) with
  | error e => exact .done _
  | ok v =>
    dsimp only
    generalize Path.join (Invocation.captureDirectory w) s!"output-{v.drawIdentifier.1}.log" = path
    cases v.drawIdentifier.2.storeFile path [] with
    | error e => exact .done _
    | ok v =>
      dsimp only
      cases duplicate v with
      | error e => exact .done _
      | ok u =>
        have hcapture := starts_capture duplicate i path v
        cases i.scratch with
        | none => exact hcapture.map fun r => (r.1, r.2.discardFile path)
        | some scratch =>
          exact hcapture.map fun r => (r.1, (r.2.discardFile path).discardFile scratch)

variable (logger : Logger) (o : BatchOptions) (codes : ErrorCodes)

namespace Batch

/-- What is made of an invocation that has been run. -/
def judged (logger : Logger) (codes : ErrorCodes) (flavor : Flavor) :
    Except Failure Captured × World → Except Failure Outcome × World
  | (.error f, w) => (.error f, w)
  | (.ok c, w) =>
    let cleaned := Output.clean flavor c.output
    let success := Output.succeeded c.exitCode c.output cleaned codes
    (.ok ⟨cleaned, success⟩, logger.log (finished c.exitCode success w.elapsed) w)

theorem runInvocation_eq (m : Machine) (flavor : Flavor) (i : Invocation) (e : ScriptEntry)
    (w : World) :
    runInvocation m logger codes flavor i e w =
      judged logger codes flavor (i.run m (logger.log (running i e) w)) := by
  unfold runInvocation judged
  rfl

/-- The command file is run by one program, and by none where no interpreter is known. -/
theorem starts_run (interpreter : Option String) (w : World) :
    Starts (if interpreter.isSome then 1 else 0) fun run =>
      Batch.run ⟨duplicate, run⟩ logger o codes interpreter w := by
  unfold Batch.run
  cases interpreter with
  | none => exact .done _
  | some program =>
    dsimp only
    cases Bundle.resolve o.cmdFile w with
    | mk entry w' =>
      cases entry with
      | error f => exact .done _
      | ok e =>
        dsimp only
        cases Invocation.build program o.arguments o.auth e w' with
        | mk built w'' =>
          cases built with
          | error f => exact .done _
          | ok i =>
            simp only [runInvocation_eq]
            exact (starts_invocation duplicate i _).map _

/-! ### One call -/

open Handler (Step Turn Script Connected firstSubmitted? connected_concat firstSubmitted?_concat
  not_connected_nil)

/-- What a command is told whose run has this result. -/
def told : Except Failure Outcome → Outcome
  | .ok o => o
  | .error f => .ofFailure f

variable {logger o codes}

/-- The first command that is submitted runs the batch, and the run is kept. -/
theorem submit_of_none (m : Machine) (c : Command) {s : BatchState} (hs : s.batch = none)
    (w : World) :
    submit m logger o codes c s w =
      let r := Batch.run m logger o codes s.interpreter w
      (told r.1, { s with batch := some ⟨c.id, (told r.1).success⟩ }, r.2) := by
  unfold submit
  simp only [hs]
  generalize Batch.run m logger o codes s.interpreter w = r
  obtain ⟨result, w'⟩ := r
  cases result <;> rfl

/-- A later command changes nothing. -/
theorem submit_of_some (m : Machine) (c : Command) {s : BatchState} {b : Batch}
    (hs : s.batch = some b) (w : World) :
    submit m logger o codes c s w = (b.included, s, w) := by
  unfold submit
  rw [hs]

/-- Connecting finds the interpreter or changes nothing. -/
theorem connect_cases (logger : Logger) (o : BatchOptions) (codes : ErrorCodes) (s : BatchState)
    (w : World) :
    (∃ f, connect logger o codes s w = (.error f, s, w)) ∨
      ∃ path w',
        connect logger o codes s w = (.ok (), { s with interpreter := some path }, w') := by
  unfold connect
  dsimp only
  cases w.findProgram? (Text.trim o.program) with
  | none => exact .inl ⟨_, rfl⟩
  | some path => exact .inr ⟨path, _, rfl⟩

section
variable (m : Machine)

theorem handler_connect :
    (handler m logger o codes).connect = connect (logger.child "local") o codes := by
  rw [handler]

theorem handler_submit :
    (handler m logger o codes).submit = submit m (logger.child "local") o codes := by
  rw [handler]

theorem handler_close : (handler m logger o codes).close = close := by
  rw [handler]

end

variable (logger o codes)

/-! ### What the state tells of the past -/

/-- The state knows whether the handler is connected, and the command that was submitted first. -/
structure Recalls (past : List Turn) (s : BatchState) : Prop where
  interpreter : s.interpreter.isSome ↔ Connected past
  batch : s.batch = (firstSubmitted? past).map fun first => ⟨first.1.id, first.2.success⟩

namespace Recalls

theorem fresh : Recalls [] {} where
  interpreter := ⟨fun h => absurd h Bool.false_ne_true, fun h => absurd h not_connected_nil⟩
  batch := rfl

variable {past : List Turn} {s : BatchState}

/-- Whatever the call, the state behind it recalls the past with the turn added. -/
theorem answer (h : Recalls past s) (m : Machine) (call : Step) (w : World) :
    Recalls (past ++ [((handler m logger o codes).answer call s w).1])
      ((handler m logger o codes).answer call s w).2.1 := by
  cases call with
  | connect =>
    simp only [Handler.answer_connect, handler_connect]
    rcases connect_cases (logger.child "local") o codes s w with ⟨f, hf⟩ | ⟨path, w', hpath⟩
    · rw [hf]
      constructor
      · rw [connected_concat]
        simpa using h.interpreter
      · rw [h.batch, firstSubmitted?_concat]
        simp [firstSubmitted?]
    · rw [hpath]
      constructor
      · rw [connected_concat]
        simp
      · rw [h.batch, firstSubmitted?_concat]
        simp [firstSubmitted?]
  | submit c =>
    simp only [Handler.answer_submit, handler_submit]
    cases hs : s.batch with
    | none =>
      have hfirst : firstSubmitted? past = none := by simpa [hs] using h.batch.symm
      rw [submit_of_none m c hs]
      constructor
      · rw [connected_concat]
        simpa using h.interpreter
      · rw [firstSubmitted?_concat, hfirst]
        simp [firstSubmitted?]
    | some b =>
      obtain ⟨first, hfirst, -⟩ := Option.map_eq_some_iff.mp (h.batch.symm.trans hs)
      rw [submit_of_some m c hs]
      constructor
      · rw [connected_concat]
        simpa using h.interpreter
      · rw [h.batch, firstSubmitted?_concat, hfirst]
        simp
  | close =>
    simp only [Handler.answer_close, handler_close, close]
    constructor
    · rw [connected_concat]
      simp
    · rw [h.batch, firstSubmitted?_concat]
      simp [firstSubmitted?]

theorem live (m : Machine) (script : Script) (w : World) :
    Recalls ((handler m logger o codes).live script {} w).1
      ((handler m logger o codes).live script {} w).2.1 := by
  refine Handler.live_keeps (handler m logger o codes) ?_ script fresh w
  intro past call s w h
  exact h.answer logger o codes m call w

end Recalls

/-! ### The whole life -/

/-- Once a command has been submitted, no program is started any more. -/
theorem starts_live_of_some (script : Script) {s : BatchState} {b : Batch} (hs : s.batch = some b)
    (w : World) :
    Starts 0 fun run => (handler ⟨duplicate, run⟩ logger o codes).live script s w := by
  -- on the script; no call takes back that a command has been submitted
  induction script generalizing s w with
  | nil => exact .done _
  | cons entry rest ih =>
    obtain ⟨pause, call⟩ := entry
    simp only [Handler.live_cons]
    cases call with
    | connect =>
      simp only [Handler.answer_connect, handler_connect]
      rcases connect_cases (logger.child "local") o codes s (pause w) with
        ⟨f, hf⟩ | ⟨path, w', hpath⟩
      · rw [hf]
        exact (ih hs _).map fun r => (_ :: r.1, r.2)
      · rw [hpath]
        exact (ih (s := { s with interpreter := some path }) hs _).map fun r => (_ :: r.1, r.2)
    | submit c =>
      simp only [Handler.answer_submit, handler_submit, submit_of_some _ c hs]
      exact (ih hs _).map fun r => (_ :: r.1, r.2)
    | close =>
      simp only [Handler.answer_close, handler_close, close]
      exact (ih (s := { s with interpreter := none }) hs _).map fun r => (_ :: r.1, r.2)

/-- A life starts at most one program. -/
theorem starts_live (script : Script) (s : BatchState) (w : World) :
    Starts 1 fun run => (handler ⟨duplicate, run⟩ logger o codes).live script s w := by
  -- on the script: the first submit uses the one start up, and the rest has none to use
  induction script generalizing s w with
  | nil => exact .done _
  | cons entry rest ih =>
    obtain ⟨pause, call⟩ := entry
    simp only [Handler.live_cons]
    cases call with
    | connect =>
      simp only [Handler.answer_connect, handler_connect]
      generalize connect (logger.child "local") o codes s (pause w) = r
      exact (ih r.2.1 r.2.2).map fun r => (_ :: r.1, r.2)
    | submit c =>
      simp only [Handler.answer_submit, handler_submit]
      cases hs : s.batch with
      | some b =>
        simp only [submit_of_some _ c hs]
        exact (ih s (pause w)).map fun r => (_ :: r.1, r.2)
      | none =>
        simp only [submit_of_none _ c hs]
        have hrun := starts_run duplicate (logger.child "local") o codes s.interpreter (pause w)
        refine (hrun.mono (m := 1) ?_).bind (m := 0) (g := fun r run =>
          let t := (handler ⟨duplicate, run⟩ logger o codes).live rest
            { s with batch := some ⟨c.id, (told r.1).success⟩ } r.2
          (.submitted c (told r.1) :: t.1, t.2)) ?_
        · split <;> omega
        · -- the state that the run leaves has a batch
          intro r
          exact (starts_live_of_some duplicate logger o codes rest rfl r.2).map
            fun t => (_ :: t.1, t.2)
    | close =>
      simp only [Handler.answer_close, handler_close]
      exact (ih (close s (pause w)).1 (close s (pause w)).2).map fun r => (_ :: r.1, r.2)

/-- The first submit starts a program only if the interpreter is known. -/
theorem starts_submit (c : Command) {s : BatchState} (hs : s.batch = none) (w : World) :
    Starts (if s.interpreter.isSome then 1 else 0) fun run =>
      (handler ⟨duplicate, run⟩ logger o codes).answer (.submit c) s w := by
  simp only [Handler.answer_submit, handler_submit, submit_of_none _ c hs]
  exact (starts_run duplicate (logger.child "local") o codes s.interpreter w).map fun r =>
    (Turn.submitted c (told r.1), { s with batch := some ⟨c.id, (told r.1).success⟩ }, r.2)

/-- A call that is no submit starts no program. -/
theorem starts_answer {call : Step} (hcall : ∀ c, call ≠ .submit c) (s : BatchState) (w : World) :
    Starts 0 fun run => (handler ⟨duplicate, run⟩ logger o codes).answer call s w := by
  cases call with
  | connect =>
    simp only [Handler.answer_connect, handler_connect]
    exact .done _
  | close =>
    simp only [Handler.answer_close, handler_close]
    exact .done _
  | submit c => exact absurd rfl (hcall c)

/-- The batch of a handler runs at most once. Over every sequence of calls, with any changes to the
world before each of them, at most one program is started. After any past, a call that is no submit
starts none, and so does the first submit while the handler is not connected. Every later submit
starts none either: it is told that it was included in the run of the first command, with the
success of that run. -/
theorem runs_at_most_once (w : World) :
    (∀ script, Starts 1 fun run => (handler ⟨duplicate, run⟩ logger o codes).live script {} w) ∧
    ∀ (run : Runner) (script : Script) (pause : World → World) (call : Step),
      let past := (handler ⟨duplicate, run⟩ logger o codes).live script {} w
      let turn := fun run' =>
        (handler ⟨duplicate, run'⟩ logger o codes).answer call past.2.1 (pause past.2.2)
      match call, firstSubmitted? past.1 with
      | .submit _, none => Starts 1 turn ∧ (Starts 0 turn ∨ Connected past.1)
      | .submit c, some (first, outcome) =>
        Starts 0 turn ∧ (turn run).1 = .submitted c
          ⟨"Included in the batch run of command " ++ first.id, outcome.success⟩
      | _, _ => Starts 0 turn := by
  refine ⟨fun script => starts_live duplicate logger o codes script {} w, ?_⟩
  intro run script pause call
  have hrecalls := Recalls.live logger o codes ⟨duplicate, run⟩ script w
  dsimp only
  generalize (handler ⟨duplicate, run⟩ logger o codes).live script {} w = past at hrecalls ⊢
  obtain ⟨turns, s, v⟩ := past
  cases call with
  | connect => exact starts_answer duplicate logger o codes (fun c h => by cases h) s (pause v)
  | close => exact starts_answer duplicate logger o codes (fun c h => by cases h) s (pause v)
  | submit c =>
    have hbatch := hrecalls.batch
    cases hfirst : firstSubmitted? turns with
    | none =>
      rw [hfirst] at hbatch
      have hstarts := starts_submit duplicate logger o codes c hbatch (pause v)
      cases hinterpreter : s.interpreter with
      | none =>
        rw [hinterpreter] at hstarts
        exact ⟨hstarts.mono (Nat.zero_le 1), .inl hstarts⟩
      | some program =>
        rw [hinterpreter] at hstarts
        refine ⟨hstarts, .inr ?_⟩
        rw [← hrecalls.interpreter, hinterpreter]
        rfl
    | some first =>
      obtain ⟨first, outcome⟩ := first
      rw [hfirst] at hbatch
      simp only [Handler.answer_submit, handler_submit, submit_of_some _ c hbatch]
      exact ⟨.done _, rfl⟩

end Batch
end
end CommandAgent
