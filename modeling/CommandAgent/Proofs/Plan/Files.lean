import CommandAgent.Proofs.Plan.Stages

/-!
# The files that a plan names

A plan has the paths of two files. Both are checked in the envelope, before the command set has
been read, and both may be replaced by the command set that is laid over the envelope. So a path of
a plan leads to a file if the command set leaves it alone, and else if the path that it gives in its
place happens to lead to one (`load_files`). There is no check on the latter
(`load_unchecked_command_file`).

A part of a record is told by the member under its name (`Json.SetBy.storeMembers`), and a member of
a merged value by those of the two values (`Json.get?_overlay`).
-/

namespace CommandAgent

open Json (SetBy)

/-! ### Members of a merged value -/

namespace Json

/-- There is no member with this key, or it is null. -/
def lacks (j : Json) (key : String) : Bool := ((j.get? key).getD .null).isNull

/-- The text under a key of a command set that is laid over an envelope. -/
def overlaidText (envelope commandSet : Json) (key : String) : String :=
  if commandSet.lacks key then envelope.textOf key else commandSet.textOf key

section
variable {envelope commandSet : Json}

/-- What stands under a key of a merged value without nulls. -/
theorem get?_overlay (henvelope : Canonical envelope) (hset : Canonical commandSet)
    (hobject : commandSet.isObject) (key : String) :
    (stripNulls (envelope.merge commandSet)).get? key =
      if commandSet.lacks key then (stripNulls envelope).get? key
      else (commandSet.get? key).map fun v =>
        (((stripNulls envelope).get? key).getD .null).merge (stripNulls v) := by
  cases commandSet with
  | object upper =>
    have hsorted := (canonical_object.mp hset).1
    rw [stripNulls_merge henvelope hset]
    have hget := get?_merge (stripNulls envelope) (keysSorted_stripMembers hsorted)
      isNull_of_mem_stripMembers key
    rw [lookup?_stripMembers hsorted] at hget
    rw [stripNulls, hget, lacks, get?]
    cases lookup? key upper with
    | none => rfl
    | some v =>
      rw [Option.filter_some]
      cases hnull : v.isNull with
      | true =>
        rw [Option.getD_some, hnull]
        rfl
      | false =>
        rw [Option.getD_some, hnull]
        rfl
  | _ => cases hobject

/-- Where a merged value has a text, that text is from the upper value or from the lower. -/
theorem textOf_overlay (henvelope : Canonical envelope) (hset : Canonical commandSet)
    (hobject : commandSet.isObject) {key : String}
    (htext : ∀ v, (stripNulls (envelope.merge commandSet)).get? key = some v →
      ∃ s, v = .string s) :
    (stripNulls (envelope.merge commandSet)).textOf key =
      overlaidText envelope commandSet key := by
  have hget := get?_overlay henvelope hset hobject key
  rw [overlaidText]
  split at hget
  · next hlacks =>
    rw [if_pos hlacks, ← textOf_stripNulls henvelope, textOf, textOf, hget]
  · next hlacks =>
    rw [if_neg hlacks, textOf, textOf, hget]
    cases hv : commandSet.get? key with
    | none => rfl
    | some v =>
      rw [hv] at hget
      obtain ⟨s, hs⟩ := htext _ hget
      -- only a text is laid over anything as a text
      cases v with
      | string t => rfl
      | null => rw [lacks, hv] at hlacks; exact absurd rfl hlacks
      | object upper =>
        obtain ⟨ms, hms⟩ := exists_merge_object (((stripNulls envelope).get? key).getD .null)
          (stripMembers upper)
        cases hms.symm.trans hs
      | _ => cases hs

end
end Json

/-! ### The two paths -/

/-- The files whose paths a plan has. -/
inductive PlanFile where
  /-- The file with the commands. -/
  | command
  /-- The file with the command set. -/
  | commandSet
deriving DecidableEq, Repr

namespace PlanFile

def key : PlanFile → String
  | command => "cmd_file"
  | commandSet => "cmd_set_filepath"

def given : PlanFile → PlanDocument → String
  | command, d => d.cmdFile
  | commandSet, d => d.cmdSetPath

def path : PlanFile → Plan → String
  | command, p => p.cmdFile
  | commandSet, p => p.cmdSetPath

def field (file : PlanFile) : Json.Expect.Field PlanDocument :=
  ⟨file.key, fun j d => (Json.Expect.text j).map fun s =>
    match file with
    | command => { d with cmdFile := s }
    | commandSet => { d with cmdSetPath := s }⟩

/-- The path is set by its field and by no other. -/
theorem setBy (file : PlanFile) :
    SetBy PlanDocument.fields file.given file.field Json.Expect.text where
  field := by cases file <;> rfl
  own := by
    intro j d d' hstore
    obtain ⟨s, hs, rfl⟩ := Json.map_eq_ok hstore
    rw [hs]
    cases file <;> rfl
  other := by
    intro g hg hname j d d' hstore
    simp only [PlanDocument.fields, List.mem_cons, List.not_mem_nil, or_false] at hg
    rcases hg with rfl | rfl | rfl | rfl | rfl | rfl | rfl | rfl | rfl | rfl | rfl | rfl | rfl |
      rfl | rfl | rfl
    all_goals
      obtain ⟨s, -, rfl⟩ := Json.map_eq_ok hstore
      cases file <;> first | rfl | exact absurd rfl hname

/-- A path of a document is the text that was read. -/
theorem given_eq (file : PlanFile) {envelope commandSet : Json} {d : PlanDocument}
    (henvelope : envelope.Canonical) (hset : commandSet.Canonical) (hobject : commandSet.isObject)
    (h : readDocument envelope commandSet = .ok d) :
    file.given d = Json.overlaidText envelope commandSet file.key := by
  have hread := readDocument_eq_ok h
  have hcanonical := Json.canonical_stripNulls (Json.hereditary_canonical.merge henvelope hset)
  obtain ⟨ms, hms⟩ : ∃ ms, Json.stripNulls (envelope.merge commandSet) = .object ms := by
    cases commandSet with
    | object upper =>
      obtain ⟨ms, hms⟩ := Json.exists_merge_object envelope upper
      exact ⟨Json.stripMembers ms, congrArg Json.stripNulls hms⟩
    | _ => cases hobject
  rw [hms] at hread hcanonical
  obtain ⟨hsome, hnone⟩ :=
    file.setBy.storeMembers (Json.canonical_object.mp hcanonical).1 hread
  have htext : ∀ v, (Json.object ms).get? file.key = some v → v = .string (file.given d) := by
    intro v hv
    have hv := hsome v hv
    cases v with
    | string s => exact congrArg Json.string (Except.ok.inj hv)
    | _ => cases hv
  rw [← Json.textOf_overlay henvelope hset hobject fun v hv => ⟨_, htext v (hms ▸ hv)⟩, hms,
    Json.textOf]
  cases hv : (Json.object ms).get? file.key with
  | none =>
    rw [hnone hv]
    cases file <;> rfl
  | some v =>
    rw [htext v hv]
    rfl

end PlanFile

/-! ### Plans -/

section
variable {w : World} {envelope commandSet : Json} {d : PlanDocument} {p : Plan}

theorem Plan.Stages.hasFile_envelope (h : p.Stages w envelope commandSet d) (file : PlanFile) :
    w.HasFile (w.expandHome (envelope.textOf file.key)) := by
  cases file with
  | command => exact h.commandFile
  | commandSet => exact h.setFile

theorem Plan.Stages.path_eq (h : p.Stages w envelope commandSet d)
    (henvelope : envelope.Canonical) (file : PlanFile) :
    file.path p = w.expandHome (Json.overlaidText envelope commandSet file.key) := by
  rw [← file.given_eq henvelope h.canonical h.object h.document]
  cases file with
  | command => exact h.completes.cmdFile
  | commandSet => exact h.completes.cmdSetPath

/-- A path that the command set leaves alone leads to a file, and one that it gives does so if it
happens to. -/
theorem Plan.Stages.hasFile_iff (h : p.Stages w envelope commandSet d)
    (henvelope : envelope.Canonical) (file : PlanFile) :
    w.HasFile (file.path p) ↔
      commandSet.lacks file.key ∨ w.HasFile (w.expandHome (commandSet.textOf file.key)) := by
  rw [h.path_eq henvelope file, Json.overlaidText]
  by_cases hlacks : commandSet.lacks file.key
  · rw [if_pos hlacks]
    exact iff_of_true (h.hasFile_envelope file) (.inl hlacks)
  · rw [if_neg hlacks]
    exact (or_iff_right hlacks).symm

end

/-- The files of a plan. Where an argument loads to a plan, it gives an envelope, and the file that
the envelope names holds a command set. The paths of the envelope lead to files. A path of the plan
is the command set's, if it gives one, and else the envelope's, with the home directory in place of
a tilde; so it leads to a file exactly if the command set gives none or gives one that does. -/
theorem load_files {parent : Logger} {encoded : String} {w : World} {p : Plan}
    (h : (load parent encoded w).1 = .ok p) :
    ∃ envelope commandSet, decodeEnvelope encoded = .ok envelope ∧
      (announced parent envelope w).Holds envelope commandSet ∧ ∀ file : PlanFile,
        w.HasFile (w.expandHome (envelope.textOf file.key)) ∧
        file.path p = w.expandHome (Json.overlaidText envelope commandSet file.key) ∧
        (w.HasFile (file.path p) ↔
          commandSet.lacks file.key ∨ w.HasFile (w.expandHome (commandSet.textOf file.key))) := by
  obtain ⟨envelope, commandSet, d, hdecode, hstages⟩ := exists_stages_of_load h
  have henvelope := canonical_of_decodeEnvelope hdecode
  refine ⟨envelope, commandSet, hdecode, hstages.held, fun file => ?_⟩
  have hchecked := hstages.hasFile_envelope file
  have hpath := hstages.path_eq henvelope file
  have hiff := hstages.hasFile_iff henvelope file
  simp only [World.hasFile_announced, expandHome_announced] at hchecked hpath hiff
  exact ⟨hchecked, hpath, hiff⟩

/-! ### Two plans -/

/-- The text of a command set that gives another command file. -/
def otherFileText (path : String) : String :=
  "\x7b\"cmd_file\":\"" ++ path ++ "\",\"cmd_set_filepath\":null,\"cmd_type\":\"local_script\","
    ++ "\"host\":\"http://[::1]\",\"script\":\"sh\",\"task_id\":\"t\"\x7d"

/-- What it reads as. -/
def otherFileSet (path : String) : Json :=
  .object
    [("cmd_file", .string path), ("cmd_set_filepath", .null), ("cmd_type", .string "local_script"),
      ("host", .string "http://[::1]"), ("script", .string "sh"), ("task_id", .string "t")]

/-- The plan behind it, with the path as it is used. -/
def otherFilePlan (path : String) : Plan where
  taskId := "t"
  host := "http://[::1]"
  token := ""
  orgId := ""
  backend := .localScript
  script := "sh"
  scriptArgs := []
  auth := {}
  cmdFile := path
  cmdSetPath := "/s"
  commands := []
  encrypted := false
  envs := ""
  prompt := "mysql> "
  columns := 80
  rows := 24

/-- A command file that is another than the one that was checked. -/
theorem load_files_overlaid :
    (load ⟨"agent", .debug⟩ absentArgument (holdingText (otherFileText " /s "))).1 =
        .ok (otherFilePlan "/s") ∧
      ∃ envelope commandSet, decodeEnvelope absentArgument = .ok envelope ∧
        (announced ⟨"agent", .debug⟩ envelope (holdingText (otherFileText " /s "))).Holds envelope
          commandSet ∧ ∀ file : PlanFile,
          (holdingText (otherFileText " /s ")).HasFile
            ((holdingText (otherFileText " /s ")).expandHome (envelope.textOf file.key)) ∧
          file.path (otherFilePlan "/s") = (holdingText (otherFileText " /s ")).expandHome
            (Json.overlaidText envelope commandSet file.key) ∧
          ((holdingText (otherFileText " /s ")).HasFile (file.path (otherFilePlan "/s")) ↔
            commandSet.lacks file.key ∨ (holdingText (otherFileText " /s ")).HasFile
              ((holdingText (otherFileText " /s ")).expandHome (commandSet.textOf file.key))) := by
  have hload : (load ⟨"agent", .debug⟩ absentArgument (holdingText (otherFileText " /s "))).1 =
      .ok (otherFilePlan "/s") := by
    rw [load_holdingText _ (otherFileSet " /s ") (by decide +kernel)]
    exact Json.eq_ok_of_toOption (by decide +kernel)
  exact ⟨hload, load_files hload⟩

/-- A command set that replaces the command file by one that does not exist is loaded. -/
theorem load_unchecked_command_file :
    (load ⟨"agent", .debug⟩ absentArgument (holdingText (otherFileText "/nope"))).1 =
        .ok (otherFilePlan "/nope") ∧
      ¬ (holdingText (otherFileText "/nope")).HasFile (otherFilePlan "/nope").cmdFile := by
  constructor
  · rw [load_holdingText _ (otherFileSet "/nope") (by decide +kernel)]
    exact Json.eq_ok_of_toOption (by decide +kernel)
  · decide +kernel

end CommandAgent
