import CommandAgent.Proofs.Cipher.Lengths
import CommandAgent.Proofs.Plan.Transparency

/-!
# What loading fails with

Loading fails as a failure of the configuration and in no other way, whatever the argument, the
files and the content of the command set are (`load_fails_as_config`). Each stage is looked at by
itself; a stage behind others fails in this way if the others do (`FailsAsConfig.bind`).

Also the cipher does, though it could find fault with itself: it opens by lengths, and those are
always the right ones (`Cipher.openByLengths_eq`).
-/

namespace CommandAgent

/-- A result that is a failure of the configuration if it is a failure. -/
def FailsAsConfig {α : Type} (r : Except Failure α) : Prop := ∀ f, r = .error f → f.kind = .config

namespace FailsAsConfig

variable {α β : Type}

theorem ok (a : α) : FailsAsConfig (.ok a) := by
  intro f hf
  cases hf

theorem error {f : Failure} (h : f.kind = .config) :
    FailsAsConfig (.error f : Except Failure α) := by
  intro g hg
  cases hg
  exact h

theorem config (message : String) : FailsAsConfig (.error (.config message) : Except Failure α) :=
  error rfl

/-- One stage behind another. -/
theorem bind {r : Except Failure α} {k : α → Except Failure β} (hr : FailsAsConfig r)
    (hk : ∀ a, FailsAsConfig (k a)) : FailsAsConfig (r >>= k) := by
  cases r with
  | error f => exact error (hr f rfl)
  | ok a => exact hk a

/-- A reason of another kind, told as one of the configuration. -/
theorem mapError {ε : Type} (r : Except ε α) {g : ε → Failure} (hg : ∀ e, (g e).kind = .config) :
    FailsAsConfig (r.mapError g) := by
  cases r with
  | error e => exact error (hg e)
  | ok a => exact ok a

end FailsAsConfig

open FailsAsConfig (ok error config)

/-! ### Checks -/

namespace Check

theorem identifier_fails (value label : String) : FailsAsConfig (identifier value label) := by
  unfold identifier
  dsimp only
  split
  · exact config _
  split
  · exact config _
  · exact ok _

theorem port_fails (value : UInt16) (label : String) : FailsAsConfig (port value label) := by
  unfold port
  split
  · exact config _
  · exact ok _

theorem existingFile_fails (w : World) (value label : String) :
    FailsAsConfig (existingFile w value label) := by
  apply (identifier_fails value label).bind
  intro raw
  dsimp only
  split
  · split
    · exact ok _
    · exact config _
  · exact config _

theorem baseUrl_fails (value label : String) : FailsAsConfig (baseUrl value label) := by
  apply (identifier_fails value label).bind
  intro raw
  split
  · exact config _
  · split
    · exact config _
    · exact ok _

end Check

theorem Backend.parse_fails (raw : String) : FailsAsConfig (parse raw) := by
  unfold parse
  dsimp only
  split
  · exact ok _
  · exact error rfl

/-! ### Opening -/

namespace Cipher

theorem scheduleOfToken_fails (token : String) : FailsAsConfig (scheduleOfToken token) := by
  unfold scheduleOfToken
  dsimp only
  split
  · exact ok _
  · exact error rfl

theorem openPayload_fails (s : Schedule) (payload : Bytes) :
    FailsAsConfig (openPayload s payload) := by
  unfold openPayload
  split
  · exact ok _
  · exact config _

/-- Opening by lengths finds no length that is wrong. -/
theorem openByLengths_fails (token : String) (payload : Bytes) :
    FailsAsConfig (openByLengths token payload) := by
  rw [openByLengths_eq]
  exact (scheduleOfToken_fails token).bind fun s => openPayload_fails s payload

end Cipher

/-- A command set that is sealed is opened by lengths. -/
theorem openCommandSet_eq (envelope : Json) (payload : Bytes) :
    openCommandSet envelope payload =
      if envelope.saysSealed then Cipher.openByLengths (envelope.textOf "token") payload
      else .ok payload := by
  unfold openCommandSet
  split
  · rw [Cipher.openByLengths_eq]
  · rfl

theorem openCommandSet_fails (envelope : Json) (payload : Bytes) :
    FailsAsConfig (openCommandSet envelope payload) := by
  rw [openCommandSet_eq]
  split
  · exact Cipher.openByLengths_fails _ _
  · exact ok _

/-! ### Reading -/

theorem decodeEnvelope_fails (encoded : String) : FailsAsConfig (decodeEnvelope encoded) := by
  unfold decodeEnvelope
  split
  · exact config _
  split
  · exact config _
  split
  · exact ok _
  · exact config _

theorem readCommandSet_fails (isSealed : Bool) (content : Bytes) :
    FailsAsConfig (readCommandSet isSealed content) := by
  unfold readCommandSet
  split
  · exact error rfl
  split
  · exact ok _
  · exact config _

theorem readDocument_fails (envelope commandSet : Json) :
    FailsAsConfig (readDocument envelope commandSet) :=
  FailsAsConfig.mapError _ fun _ => rfl

/-- A document that gives no plan fails as a failure of the configuration. -/
theorem Plan.ofDocument_fails (home : String → String) (d : PlanDocument) :
    FailsAsConfig (ofDocument home d) := by
  apply (Backend.parse_fails d.cmdType).bind
  intro backend
  apply (Check.identifier_fails d.taskId "task_id").bind
  intro taskId
  apply (Check.baseUrl_fails d.host "host").bind
  intro host
  split
  · apply (Check.identifier_fails d.auth.address "auth.address").bind
    intro address
    apply (Check.port_fails d.auth.port "auth.port").bind
    intro port
    exact ok _
  · apply (Check.identifier_fails d.script "script").bind
    intro script
    exact ok _

/-! ### Loading -/

/-- Every failure behind the envelope is one of the configuration. -/
theorem loadFrom_fails (w : World) (envelope : Json) : FailsAsConfig (loadFrom w envelope) := by
  apply (Check.existingFile_fails w _ _).bind
  intro path
  apply (Check.existingFile_fails w _ _).bind
  intro commandFile
  apply FailsAsConfig.bind (FailsAsConfig.mapError (w.contentOf path) fun _ => rfl)
  intro payload
  apply (openCommandSet_fails envelope payload).bind
  intro content
  apply (readCommandSet_fails envelope.saysSealed content).bind
  intro commandSet
  apply (readDocument_fails envelope commandSet).bind
  intro document
  exact Plan.ofDocument_fails w.expandHome document

theorem load_fails (parent : Logger) (encoded : String) (w : World) :
    FailsAsConfig (load parent encoded w).1 := by
  cases hdecode : decodeEnvelope encoded with
  | error f =>
    simp only [load, hdecode]
    exact error (decodeEnvelope_fails encoded f hdecode)
  | ok envelope =>
    rw [load_fst hdecode]
    exact loadFrom_fails _ envelope

/-- Loading fails as a failure of the configuration only. A sealed command set is opened by lengths,
where a key, an initial block or a body of the wrong length would be a failure of the agent itself;
with no token and no payload is there one. -/
theorem load_fails_as_config (parent : Logger) (encoded : String) (w : World) :
    (∀ f, (load parent encoded w).1 = .error f → f.kind = .config) ∧
      (∀ envelope payload, openCommandSet envelope payload =
        if envelope.saysSealed then Cipher.openByLengths (envelope.textOf "token") payload
        else .ok payload) ∧
      ∀ token payload f, Cipher.openByLengths token payload = .error f → f.kind = .config :=
  ⟨load_fails parent encoded w, openCommandSet_eq, Cipher.openByLengths_fails⟩

/-- A payload of exactly one block, which is opened to nothing. -/
theorem load_fails_as_config_one_block :
    ∃ f, (load ⟨"agent", .debug⟩ sealedArgument
        (commandFileOnly.holding ["s"] (List.replicate 16 0) false)).1 = .error f ∧
      f.kind = .config ∧
      f.message = "Failed to parse command set: EOF while parsing a value at line 1 column 0" := by
  obtain ⟨hconfig, -, -⟩ := load_fails_as_config ⟨"agent", .debug⟩ sealedArgument
    (commandFileOnly.holding ["s"] (List.replicate 16 0) false)
  have hmessage : ((load ⟨"agent", .debug⟩ sealedArgument
      (commandFileOnly.holding ["s"] (List.replicate 16 0) false)).1.mapError Failure.message).map
        (fun _ => ()) =
      .error "Failed to parse command set: EOF while parsing a value at line 1 column 0" := by
    decide +kernel
  cases hload : (load ⟨"agent", .debug⟩ sealedArgument
      (commandFileOnly.holding ["s"] (List.replicate 16 0) false)).1 with
  | ok p =>
    rw [hload] at hmessage
    cases hmessage
  | error f =>
    rw [hload] at hmessage
    exact ⟨f, rfl, hconfig f hload, Except.error.inj hmessage⟩

end CommandAgent
