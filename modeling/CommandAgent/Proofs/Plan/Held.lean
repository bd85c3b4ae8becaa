import CommandAgent.Proofs.Json.Canonical
import CommandAgent.Proofs.Plan.Transparency

/-!
# The command set that a world holds

An envelope names a file, and the content of that file carries the text of a command set, sealed or
not as the envelope says (`World.Holds`). What loading comes to is then told by the envelope and the
command set alone, with no bytes in between (`loadFrom_of_holds`); and where a plan is loaded there
is such a file (`exists_file_of_loadFrom`).
-/

namespace CommandAgent

/-! ### Contents -/

/-- A content carries a text: it is the text, or, if the envelope says that the command set is
sealed, the key of the envelope's token opens it to the text. Without a key nothing is asked of the
content. -/
structure Json.Carries (envelope : Json) (content text : Bytes) : Prop where
  plain : envelope.saysSealed = false → content = text
  opened : envelope.saysSealed = true → ∀ s,
    Cipher.scheduleOfToken (envelope.textOf "token") = .ok s →
      Cipher.openPayload s content = .ok text

namespace Json.Carries

variable {envelope : Json}

/-- A text carries itself where nothing is sealed. -/
theorem of_plain (h : envelope.saysSealed = false) (text : Bytes) : envelope.Carries text text where
  plain _ := rfl
  opened hsealed := by rw [h] at hsealed; cases hsealed

/-- What has been sealed with the envelope's token carries what it was before. -/
theorem of_sealed (h : envelope.saysSealed = true) {s : Cipher.Schedule}
    (hs : Cipher.scheduleOfToken (envelope.textOf "token") = .ok s) (initial : Cipher.Block)
    (text : Bytes) : envelope.Carries (Cipher.sealBytes s initial text) text where
  plain hplain := by rw [h] at hplain; cases hplain
  opened _ s' hs' := by
    rw [hs] at hs'
    cases hs'
    exact Cipher.openPayload_sealBytes s initial text

end Json.Carries

/-- The key is there, if the envelope says that one is needed. -/
def Json.keyed (envelope : Json) : Except Failure Unit :=
  if envelope.saysSealed then
    (Cipher.scheduleOfToken (envelope.textOf "token")).map fun _ => ()
  else .ok ()

/-- A content that carries a text gives that text, once the key is there. -/
theorem openCommandSet_of_carries {envelope : Json} {content text : Bytes}
    (h : envelope.Carries content text) :
    openCommandSet envelope content = envelope.keyed.map fun _ => text := by
  unfold openCommandSet Json.keyed
  cases hsealed : envelope.saysSealed with
  | false =>
    rw [h.plain hsealed]
    rfl
  | true =>
    simp only [if_true]
    cases hs : Cipher.scheduleOfToken (envelope.textOf "token") with
    | error f => rfl
    | ok s => exact h.opened hsealed s hs

/-- With the key at hand, each text is carried by some content. -/
theorem exists_carries_of_keyed {envelope : Json} (h : envelope.keyed = .ok ()) (text : Bytes) :
    ∃ content, envelope.Carries content text := by
  cases hsealed : envelope.saysSealed with
  | false => exact ⟨text, .of_plain hsealed text⟩
  | true =>
    rw [Json.keyed, hsealed, if_pos rfl] at h
    obtain ⟨s, hs, -⟩ := Json.map_eq_ok h
    let initial : Cipher.Block := ⟨⟨0, 0, 0, 0⟩, ⟨0, 0, 0, 0⟩, ⟨0, 0, 0, 0⟩, ⟨0, 0, 0, 0⟩⟩
    exact ⟨Cipher.sealBytes s initial text, .of_sealed hsealed hs initial text⟩

/-- A content that gives a text carries it. -/
theorem carries_of_openCommandSet {envelope : Json} {content text : Bytes}
    (h : openCommandSet envelope content = .ok text) : envelope.Carries content text := by
  unfold openCommandSet at h
  constructor
  · intro hsealed
    rw [hsealed] at h
    exact Except.ok.inj h
  · intro hsealed s hs
    rw [hsealed, hs] at h
    exact h

/-! ### Files -/

namespace World

section
variable (w : World) (place : Place) (data : Bytes) (x : Bool)

@[simp] theorem cwd_holding : (w.holding place data x).cwd = w.cwd := rfl

@[simp] theorem env_holding : (w.holding place data x).env = w.env := rfl

@[simp] theorem journal_holding : (w.holding place data x).journal = w.journal := rfl

end

/-- The envelope names the place of a command-set file. -/
def Names (w : World) (envelope : Json) (place : Place) : Prop :=
  w.files.resolve w.cwd (w.expandHome (Text.trim (envelope.textOf "cmd_set_filepath"))) = .ok place

/-- Where the envelope names a regular file, it is one whose content carries a text of the command
set. -/
def Holds (w : World) (envelope commandSet : Json) : Prop :=
  ∀ place node, w.Names envelope place → w.files.node? place = some node → node.isFile →
    ∃ data x text, node = .file data x ∧ envelope.Carries data text ∧
      Json.parse text = .ok commandSet

/-- What is found behind a path stands at a place. -/
theorem exists_place_of_stat {w : World} {path : String} {node : Node}
    (h : w.files.stat w.cwd path = .ok node) :
    ∃ place, w.files.resolve w.cwd path = .ok place ∧ w.files.node? place = some node := by
  rw [FileSystem.stat, FileSystem.nodeAt] at h
  obtain ⟨place, hplace, hnode⟩ := Json.bind_eq_ok h
  refine ⟨place, hplace, ?_⟩
  split at hnode
  · next n hn =>
    cases hnode
    exact hn
  · cases hnode

/-- A file at the place that the envelope names decides what command set the world holds. -/
theorem holds_of_file {w : World} {envelope commandSet : Json} {place : Place} {data text : Bytes}
    {x : Bool} (hnames : w.Names envelope place)
    (hnode : w.files.node? place = some (.file data x)) (hcarries : envelope.Carries data text)
    (hparse : Json.parse text = .ok commandSet) : w.Holds envelope commandSet := by
  intro place' node hnames' hnode' _
  rw [Names, hnames] at hnames'
  cases hnames'
  rw [hnode] at hnode'
  cases hnode'
  exact ⟨data, x, text, rfl, hcarries, hparse⟩

end World

/-! ### Loading -/

/-- What loading comes to, told by the envelope and the command set. -/
def planBehind (w : World) (envelope commandSet : Json) : Except Failure Plan := do
  let _ ← Check.existingFile w (envelope.textOf "cmd_set_filepath")
    "Command set file (cmd_set_filepath)"
  let _ ← Check.existingFile w (envelope.textOf "cmd_file") "Command file (cmd_file)"
  let _ ← envelope.keyed
  if commandSet.isObject then
    let document ← readDocument envelope commandSet
    Plan.ofDocument w.expandHome document
  else throw (.config "Command set must be a JSON object")

theorem readCommandSet_of_parse {text : Bytes} {commandSet : Json}
    (h : Json.parse text = .ok commandSet) (isSealed : Bool) :
    readCommandSet isSealed text =
      if commandSet.isObject then .ok commandSet
      else .error (.config "Command set must be a JSON object") := by
  rw [readCommandSet, Json.parseOrExplain, h]
  rfl

/-- Loading from a world that holds the command set. -/
theorem loadFrom_of_holds {w : World} {envelope commandSet : Json}
    (h : w.Holds envelope commandSet) : loadFrom w envelope = planBehind w envelope commandSet := by
  unfold loadFrom planBehind
  -- both go through the same checks, up to where the file is read
  cases hpath : Check.existingFile w (envelope.textOf "cmd_set_filepath")
      "Command set file (cmd_set_filepath)" with
  | error f => simp only [bind, Except.bind]
  | ok path =>
  cases Check.existingFile w (envelope.textOf "cmd_file") "Command file (cmd_file)" with
  | error f => simp only [bind, Except.bind]
  | ok cmdFile =>
    obtain ⟨hwhere, node, hstat, hfile⟩ := Check.existingFile_eq_ok hpath
    obtain ⟨place, hplace, hnode⟩ := World.exists_place_of_stat hstat
    have hnames : w.Names envelope place := by
      rw [World.Names, ← hwhere]
      exact hplace
    obtain ⟨data, x, text, rfl, hcarries, hparse⟩ := h place node hnames hnode hfile
    have hread : w.contentOf path = .ok data := World.contentOf_eq hplace hnode
    have hset := readCommandSet_of_parse hparse envelope.saysSealed
    simp only [bind, Except.bind, Except.mapError, hread, openCommandSet_of_carries hcarries]
    cases envelope.keyed with
    | error f => rfl
    | ok key =>
      simp only [Except.map, hset]
      cases commandSet.isObject <;> rfl

/-- A command set that is read is the JSON value of its text. -/
theorem parse_of_readCommandSet {isSealed : Bool} {text : Bytes} {commandSet : Json}
    (h : readCommandSet isSealed text = .ok commandSet) : Json.parse text = .ok commandSet := by
  rw [readCommandSet, Json.parseOrExplain] at h
  cases hparse : Json.parse text with
  | error f =>
    rw [hparse] at h
    cases h
  | ok j =>
    rw [hparse] at h
    dsimp only [Except.mapError] at h
    split at h
    · cases h
      rfl
    · cases h

/-- No content that holds nothing carries a command set. -/
theorem ne_nil_of_openCommandSet {envelope commandSet : Json} {content text : Bytes}
    (hopen : openCommandSet envelope content = .ok text)
    (hparse : Json.parse text = .ok commandSet) : content ≠ [] := by
  rintro rfl
  unfold openCommandSet at hopen
  split at hopen
  · obtain ⟨s, -, hs⟩ := Json.bind_eq_ok hopen
    cases hs
  · cases hopen
    cases hparse

/-- A plan is loaded from a command set that stands in a file. -/
theorem exists_file_of_loadFrom {w : World} {envelope : Json} {p : Plan}
    (h : loadFrom w envelope = .ok p) :
    ∃ place data x commandSet text, w.Names envelope place ∧
      w.files.node? place = some (.file data x) ∧ envelope.Carries data text ∧
      Json.parse text = .ok commandSet := by
  unfold loadFrom at h
  obtain ⟨path, hpath, hrest⟩ := Json.bind_eq_ok h
  obtain ⟨_, -, hrest⟩ := Json.bind_eq_ok hrest
  obtain ⟨data, hread, hrest⟩ := Json.bind_eq_ok hrest
  obtain ⟨text, hopen, hrest⟩ := Json.bind_eq_ok hrest
  obtain ⟨commandSet, hset, -⟩ := Json.bind_eq_ok hrest
  clear h
  have hparse := parse_of_readCommandSet hset
  obtain ⟨hwhere, node, hstat, hfile⟩ := Check.existingFile_eq_ok hpath
  obtain ⟨place, hplace, hnode⟩ := World.exists_place_of_stat hstat
  have hnames : w.Names envelope place := by
    rw [World.Names, ← hwhere]
    exact hplace
  have hcontent : w.contentOf path = .ok data := by
    cases hcontent : w.contentOf path with
    | error e =>
      rw [hcontent] at hread
      cases hread
    | ok payload =>
      rw [hcontent] at hread
      cases hread
      rfl
  rw [World.contentOf, FileSystem.read, hstat] at hcontent
  -- only a file has a content; all other nodes are refused when they are read
  cases node with
  | file content x =>
    cases hcontent
    exact ⟨place, data, x, commandSet, text, hnames, hnode, carries_of_openCommandSet hopen, hparse⟩
  | unreadable => cases hcontent
  | program name =>
    cases hcontent
    exact absurd rfl (ne_nil_of_openCommandSet hopen hparse)
  | directory => cases hfile
  | link target => cases hfile
  | device => cases hfile

/-! ### Behind the log -/

/-- What loading comes to does not depend on the content of files. -/
theorem planBehind_alike {w w' : World} (hfiles : w.files.Alike w'.files) (hcwd : w.cwd = w'.cwd)
    (henv : w.env = w'.env) (envelope commandSet : Json) :
    planBehind w envelope commandSet = planBehind w' envelope commandSet := by
  have hhome : w.expandHome = w'.expandHome := by
    funext path
    rw [World.expandHome, World.expandHome, henv]
  have hfound := Check.existingFile_alike hfiles hcwd henv
  rw [planBehind, planBehind, hfound, hfound, hhome]

section
variable {w : World} {envelope : Json}

theorem World.names_log (l : Logger) (e : Entry) {place : Place} :
    (l.log e w).Names envelope place ↔ w.Names envelope place := by
  rw [Names, Names, ← (Logger.alike_log l e w).resolve, Logger.cwd_log, expandHome, expandHome,
    Logger.env_log]

/-- The log leaves the command set alone, if it is not written to that file. -/
theorem World.Holds.log {commandSet : Json} (h : w.Holds envelope commandSet)
    (hsink : ∀ place, w.Names envelope place → w.journal.sink ≠ some place) (l : Logger)
    (e : Entry) : (l.log e w).Holds envelope commandSet := by
  intro place node hnames hnode hfile
  rw [names_log] at hnames
  rw [Logger.node?_log l e (hsink place hnames)] at hnode
  exact h place node hnames hnode hfile

variable {parent : Logger} {encoded : String}

/-- The plan that is loaded from a world that holds the command set. -/
theorem load_fst_of_holds {commandSet : Json} (hdecode : decodeEnvelope encoded = .ok envelope)
    (hholds : w.Holds envelope commandSet)
    (hsink : ∀ place, w.Names envelope place → w.journal.sink ≠ some place) :
    (load parent encoded w).1 = planBehind w envelope commandSet := by
  rw [load_fst hdecode, loadFrom_of_holds (hholds.log hsink _ _)]
  exact planBehind_alike (Logger.alike_log _ _ _).symm (Logger.cwd_log _ _ _)
    (Logger.env_log _ _ _) envelope commandSet

/-- A plan is loaded from a command set that stands in a file, before as behind the log. -/
theorem exists_file_of_load {p : Plan} (hdecode : decodeEnvelope encoded = .ok envelope)
    (h : (load parent encoded w).1 = .ok p)
    (hsink : ∀ place, w.Names envelope place → w.journal.sink ≠ some place) :
    ∃ place data x commandSet text, w.Names envelope place ∧
      w.files.node? place = some (.file data x) ∧ envelope.Carries data text ∧
      Json.parse text = .ok commandSet := by
  rw [load_fst hdecode] at h
  obtain ⟨place, data, x, commandSet, text, hnames, hnode, hcarries, hparse⟩ :=
    exists_file_of_loadFrom h
  rw [World.names_log] at hnames
  rw [Logger.node?_log _ _ (hsink place hnames)] at hnode
  exact ⟨place, data, x, commandSet, text, hnames, hnode, hcarries, hparse⟩

end

end CommandAgent
