import CommandAgent.Proofs.Plan.Reload

/-!
# What a plan has come through

Where loading gives a plan, every stage has gone well: the two files that the envelope names are
there, one of them carries a command set, and the plan is the document of the two, completed
(`Plan.Stages`). All that is said of a loaded plan is said of these parts.

The files are looked up behind the line that the log gets about the envelope (`announced`). The line
makes no file and takes none away (`World.hasFile_announced`).
-/

namespace CommandAgent

namespace World

def HasFile (w : World) (path : String) : Prop :=
  ∃ node, w.files.stat w.cwd path = .ok node ∧ node.isFile

instance (w : World) (path : String) : Decidable (w.HasFile path) :=
  decidable_of_iff ((w.files.stat w.cwd path).toOption.any Node.isFile = true) <| by
    unfold HasFile
    cases w.files.stat w.cwd path <;> simp [Except.toOption]

/-- A path that leads to a file leads to one in a file system that is alike up to contents. -/
theorem hasFile_alike {w w' : World} (hfiles : w.files.Alike w'.files) (hcwd : w.cwd = w'.cwd)
    {path : String} (h : w.HasFile path) : w'.HasFile path := by
  obtain ⟨node, hnode, hfile⟩ := h
  have hstat := hfiles.stat w.cwd path
  rw [hnode, hcwd] at hstat
  show ∃ node', w'.files.stat w'.cwd path = .ok node' ∧ node'.isFile
  cases hnode' : w'.files.stat w'.cwd path with
  | error e =>
    rw [hnode'] at hstat
    cases hstat
  | ok node' =>
    rw [hnode'] at hstat
    refine ⟨node', rfl, ?_⟩
    rw [← node'.isFile_emptied, ← Except.ok.inj hstat, node.isFile_emptied]
    exact hfile

end World

/-- The world in which the files of an envelope are looked up: the log has its line. -/
def announced (parent : Logger) (envelope : Json) (w : World) : World :=
  (parent.child "plan").log
    ⟨.debug, "Decoded envelope", Redaction.redact maxLoggedEnvelope envelope⟩ w

section
variable (parent : Logger) (envelope : Json) (w : World)

@[simp] theorem cwd_announced : (announced parent envelope w).cwd = w.cwd := Logger.cwd_log _ _ _

@[simp] theorem expandHome_announced :
    (announced parent envelope w).expandHome = w.expandHome := by
  funext path
  rw [World.expandHome, World.expandHome, announced, Logger.env_log]

theorem World.hasFile_announced {path : String} :
    (announced parent envelope w).HasFile path ↔ w.HasFile path := by
  have halike : w.files.Alike (announced parent envelope w).files := Logger.alike_log _ _ _
  constructor
  · exact hasFile_alike halike.symm (cwd_announced _ _ _)
  · exact hasFile_alike halike (cwd_announced _ _ _).symm

end

/-- A plan that has come through every stage, with the command set that was found and the document
that it gave together with the envelope. -/
structure Plan.Stages (w : World) (envelope commandSet : Json) (d : PlanDocument) (p : Plan) :
    Prop where
  setFile : w.HasFile (w.expandHome (envelope.textOf "cmd_set_filepath"))
  commandFile : w.HasFile (w.expandHome (envelope.textOf "cmd_file"))
  held : w.Holds envelope commandSet
  canonical : commandSet.Canonical
  object : commandSet.isObject
  document : readDocument envelope commandSet = .ok d
  completes : Completes w.expandHome d p

/-- Blanks around a path are not looked at. -/
theorem Environment.expandHome_trim (env : Environment) (path : String) :
    env.expandHome (Text.trim path) = env.expandHome path := by
  rw [expandHome, expandHome, Text.trim_trim]

theorem World.hasFile_of_existingFile {w : World} {value label path : String}
    (h : Check.existingFile w value label = .ok path) : w.HasFile (w.expandHome value) := by
  obtain ⟨hpath, hfile⟩ := Check.existingFile_eq_ok h
  have htrim : w.expandHome (Text.trim value) = w.expandHome value :=
    w.env.expandHome_trim value
  rw [hpath, htrim] at hfile
  exact hfile

section
variable {w : World} {envelope : Json} {p : Plan}

/-- A plan that loads has come through every stage. -/
theorem exists_stages_of_loadFrom (h : loadFrom w envelope = .ok p) :
    ∃ commandSet d, p.Stages w envelope commandSet d := by
  obtain ⟨place, data, x, commandSet, text, hnames, hnode, hcarries, hparse⟩ :=
    exists_file_of_loadFrom h
  have hheld := World.holds_of_file hnames hnode hcarries hparse
  rw [loadFrom_of_holds hheld] at h
  unfold planBehind at h
  obtain ⟨setPath, hset, hrest⟩ := Json.bind_eq_ok h
  obtain ⟨filePath, hfile, hrest⟩ := Json.bind_eq_ok hrest
  obtain ⟨key, -, hrest⟩ := Json.bind_eq_ok hrest
  split at hrest
  · next hobject =>
    obtain ⟨d, hread, hplan⟩ := Json.bind_eq_ok hrest
    exact ⟨commandSet, d, World.hasFile_of_existingFile hset,
      World.hasFile_of_existingFile hfile, hheld, Json.canonical_of_parse hparse, hobject, hread,
      Plan.ofDocument_eq_ok_iff.mp hplan⟩
  · cases hrest

/-- Where loading gives a plan, the argument has an envelope, and the plan has come through all
stages behind it. -/
theorem exists_stages_of_load {parent : Logger} {encoded : String}
    (h : (load parent encoded w).1 = .ok p) :
    ∃ envelope commandSet d, decodeEnvelope encoded = .ok envelope ∧
      p.Stages (announced parent envelope w) envelope commandSet d := by
  cases hdecode : decodeEnvelope encoded with
  | error e =>
    simp only [load, hdecode, reduceCtorEq] at h
  | ok envelope =>
    rw [load_fst hdecode] at h
    obtain ⟨commandSet, d, hstages⟩ := exists_stages_of_loadFrom h
    exact ⟨envelope, commandSet, d, rfl, hstages⟩

end

/-! ### Loading from a text -/

/-- The plan behind the bare envelope, in a world that holds the text of a command set. -/
theorem load_holdingText (parent : Logger) {text : String} (commandSet : Json)
    (hparse : Json.parse (Text.Utf8.encode text) = .ok commandSet) :
    (load parent absentArgument (holdingText text)).1 =
      planBehind (holdingText text) bareEnvelope commandSet := by
  have hnames : (holdingText text).Names bareEnvelope ["s"] := by
    have halike : (holdingText text).files.Alike (holdingText "").files :=
      World.alike_holding _ _ _ _ _
    rw [World.Names, halike.resolve]
    show (holdingText "").files.resolve [] ((holdingText "").expandHome _) = _
    decide
  apply load_fst_of_holds decodeEnvelope_absentArgument
  · exact holds_holdingText hnames (by decide) hparse
  · intro place _
    show (none : Option Place) ≠ some place
    exact (Option.some_ne_none place).symm

end CommandAgent
