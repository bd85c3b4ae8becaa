import CommandAgent.Proofs.Json.Equality
import CommandAgent.Proofs.Log.Journal
import CommandAgent.Proofs.Orchestrator.Reporter
import CommandAgent.Proofs.Plan.Mark
import CommandAgent.Proofs.Plan.Sealed

/-!
# Sealing a command set changes nothing but the mark

A command set that is sealed with the envelope's token loads like the same command set unsealed
(`load_sealed_like_plain`): both give plans that differ at most in the field `encrypted`, or the
same failure up to its hint. The content may be anything, also no JSON at all.

The two runs find worlds that differ only in the content of one file, so the checks on the paths end
alike (`Check.existingFile_alike`). Opening gives the content that the other run reads as it is
(`openPayload_sealBytes`), and behind that only the mark is left, which no stage looks at
(`plan_unmarked`).
-/

namespace CommandAgent

/-! ### Paths -/

namespace Check

/-- Whether a path names a file does not depend on the content of files. -/
theorem existingFile_alike {w w' : World} (hfiles : w.files.Alike w'.files) (hcwd : w.cwd = w'.cwd)
    (henv : w.env = w'.env) (value label : String) :
    existingFile w value label = existingFile w' value label := by
  have hhome : w.expandHome = w'.expandHome := by
    funext path
    rw [World.expandHome, World.expandHome, henv]
  unfold existingFile
  rw [hhome, hcwd]
  simp only [Bind.bind, Except.bind]
  cases identifier value label with
  | error f => simp only
  | ok raw =>
    have hstat := hfiles.stat w'.cwd (w'.expandHome raw)
    simp only
    revert hstat
    generalize w.files.stat w'.cwd (w'.expandHome raw) = r
    generalize w'.files.stat w'.cwd (w'.expandHome raw) = r'
    intro hstat
    cases r <;> cases r' <;>
      simp only [Except.map, Except.ok.injEq, Except.error.injEq, reduceCtorEq] at hstat
    · rw [hstat]
    · next node node' =>
      have hfile : node.isFile = node'.isFile := by
        rw [← node.isFile_emptied, hstat, node'.isFile_emptied]
      simp only [hfile]

/-- A text that names something is used without the blanks around it. -/
theorem eq_trim_of_identifier {value label raw : String} (h : identifier value label = .ok raw) :
    raw = Text.trim value := by
  simp only [identifier] at h
  split at h
  · cases h
  split at h
  · cases h
  · exact (Except.ok.inj h).symm

/-- A path that has been checked is the one that was given, and it leads to a regular file. -/
theorem existingFile_eq_ok {w : World} {value label path : String}
    (h : existingFile w value label = .ok path) :
    path = w.expandHome (Text.trim value) ∧
      ∃ node, w.files.stat w.cwd path = .ok node ∧ node.isFile := by
  unfold existingFile at h
  simp only [Bind.bind, Except.bind] at h
  cases hraw : identifier value label with
  | error f => simp only [hraw, reduceCtorEq] at h
  | ok raw =>
    have htrim := eq_trim_of_identifier hraw
    simp only [hraw] at h
    split at h
    · next node hnode =>
      split at h
      · next hfile =>
        obtain rfl := Except.ok.inj h
        exact ⟨by rw [htrim], node, hnode, hfile⟩
      · cases h
    · cases h

end Check

/-- The content of the file that a path leads to. -/
theorem World.contentOf_eq {w : World} {path : String} {place : Place} {data : Bytes} {x : Bool}
    (hplace : w.files.resolve w.cwd path = .ok place)
    (hnode : w.files.node? place = some (.file data x)) : w.contentOf path = .ok data := by
  simp [World.contentOf, FileSystem.read, FileSystem.stat, FileSystem.nodeAt, hplace, hnode,
    Bind.bind, Except.bind, pure, Except.pure]

/-- A regular file does not stand at the root. -/
theorem World.ne_root_of_isFile {w : World} {path : String} {place : Place}
    (hplace : w.files.resolve w.cwd path = .ok place)
    (hfile : ∃ node, w.files.stat w.cwd path = .ok node ∧ node.isFile) : place ≠ [] := by
  rintro rfl
  obtain ⟨node, hnode, hfile⟩ := hfile
  have hroot : w.files.stat w.cwd path = .ok .directory := by
    rw [FileSystem.stat, hplace]
    rfl
  rw [hroot] at hnode
  obtain rfl := Except.ok.inj hnode
  cases hfile

/-! ### Envelopes -/

/-- The envelope with a mark. -/
def marked (isSealed : Bool) (members : Members) : Json :=
  .object (Json.insertMember markKey (.bool isSealed) members)

@[simp] theorem saysSealed_marked (isSealed : Bool) (members : Members) :
    (marked isSealed members).saysSealed = isSealed := by
  simp [marked, Json.saysSealed, Json.get?, markKey, Json.lookup?_insertMember, Json.asBool?]

theorem textOf_marked (isSealed : Bool) (members : Members) {key : String} (h : key ≠ markKey) :
    (marked isSealed members).textOf key = (Json.object members).textOf key := by
  simp [marked, Json.textOf, Json.get?, Json.lookup?_insertMember, h]

/-! ### Loading -/

/-- Two results of loading that differ in nothing but the mark of a plan or the hint of a
failure. -/
inductive SameButMark : Except Failure Plan → Except Failure Plan → Prop
  | loaded {p q : Plan} (h : p.unmarked = q.unmarked) : SameButMark (.ok p) (.ok q)
  | failed {f g : Failure} (hkind : f.kind = g.kind) (hcode : f.code = g.code)
      (hmessage : f.message = g.message) (hdetails : f.details = g.details) :
      SameButMark (.error f) (.error g)

namespace SameButMark

theorem error (f : Failure) : SameButMark (.error f) (.error f) := .failed rfl rfl rfl rfl

theorem of_unmarked {r r' : Except Failure Plan}
    (h : r.map Plan.unmarked = r'.map Plan.unmarked) : SameButMark r r' := by
  cases r <;> cases r' <;>
    simp only [Except.map, Except.ok.injEq, Except.error.injEq, reduceCtorEq] at h
  · rw [h]
    exact error _
  · exact .loaded h

end SameButMark

/-- The same content, said to have been sealed or not, reads as the same command set; only the hint
for content that is no JSON tells the difference. -/
theorem readCommandSet_cases (content : Bytes) :
    (∃ upper, ∀ isSealed, readCommandSet isSealed content = .ok (.object upper)) ∨
      ∃ f : Failure, ∀ isSealed, ∃ hint,
        readCommandSet isSealed content = .error { f with hint := hint } := by
  unfold readCommandSet
  cases Json.parseOrExplain content with
  | error e =>
    exact .inr ⟨.config s!"Failed to parse command set: {e}", fun isSealed => ⟨_, rfl⟩⟩
  | ok j =>
    cases j with
    | object upper => exact .inl ⟨upper, fun _ => rfl⟩
    | _ => exact .inr ⟨.config "Command set must be a JSON object", fun _ => ⟨none, rfl⟩⟩

/-- From the content on, a sealed command set and a plain one go the same way. -/
theorem sameButMark_of_content (expandHome : String → String) (members : Members)
    (content : Bytes) :
    SameButMark
      (readCommandSet true content >>= fun upper =>
        readDocument (marked true members) upper >>= Plan.ofDocument expandHome)
      (readCommandSet false content >>= fun upper =>
        readDocument (marked false members) upper >>= Plan.ofDocument expandHome) := by
  rcases readCommandSet_cases content with ⟨upper, hupper⟩ | ⟨f, hf⟩
  · rw [hupper, hupper]
    exact .of_unmarked (plan_unmarked expandHome (.insert_mark members) upper)
  · obtain ⟨hint, hsealed⟩ := hf true
    obtain ⟨hint', hplain⟩ := hf false
    rw [hsealed, hplain]
    exact .failed rfl rfl rfl rfl

/-- The plans behind a sealed command set and behind the same command set unsealed, in two worlds
that hold the one and the other. -/
theorem loadFrom_sameButMark {w w' : World} {members : Members} {token : String}
    {s : Cipher.Schedule} {x : Bool} (place : Place) (initial : Cipher.Block) (content : Bytes)
    (htoken : (Json.object members).textOf "token" = token)
    (hschedule : Cipher.scheduleOfToken token = .ok s)
    (hfiles : w.files.Alike w'.files) (hcwd : w.cwd = w'.cwd) (henv : w.env = w'.env)
    (hplace : w.files.resolve w.cwd
      (w.expandHome (Text.trim ((Json.object members).textOf "cmd_set_filepath"))) = .ok place)
    (hsealed : place ≠ [] →
      w.files.node? place = some (.file (Cipher.sealBytes s initial content) x))
    (hplain : place ≠ [] → w'.files.node? place = some (.file content x)) :
    SameButMark (loadFrom w (marked true members)) (loadFrom w' (marked false members)) := by
  have hhome : w.expandHome = w'.expandHome := by
    funext path
    rw [World.expandHome, World.expandHome, henv]
  unfold loadFrom
  rw [textOf_marked _ _ (by decide), textOf_marked _ _ (by decide), textOf_marked _ _ (by decide),
    textOf_marked _ _ (by decide), Check.existingFile_alike hfiles hcwd henv,
    Check.existingFile_alike hfiles hcwd henv]
  cases hpath : Check.existingFile w' ((Json.object members).textOf "cmd_set_filepath")
      "Command set file (cmd_set_filepath)" with
  | error f => exact .error f
  | ok path =>
  cases Check.existingFile w' ((Json.object members).textOf "cmd_file")
      "Command file (cmd_file)" with
  | error f => exact .error f
  | ok cmdFile =>
    have hresolve : w.files.resolve w.cwd path = .ok place := by
      rw [(Check.existingFile_eq_ok hpath).1, ← hhome]
      exact hplace
    have hresolve' : w'.files.resolve w'.cwd path = .ok place := by
      rw [← hfiles.resolve, ← hcwd]
      exact hresolve
    have hroot : place ≠ [] :=
      World.ne_root_of_isFile hresolve' (Check.existingFile_eq_ok hpath).2
    have hread : w.contentOf path = .ok (Cipher.sealBytes s initial content) :=
      World.contentOf_eq hresolve (hsealed hroot)
    have hread' : w'.contentOf path = .ok content := World.contentOf_eq hresolve' (hplain hroot)
    have hopen : openCommandSet (marked true members) (Cipher.sealBytes s initial content)
        = .ok content := by
      rw [openCommandSet, saysSealed_marked, if_pos rfl, textOf_marked _ _ (by decide), htoken,
        hschedule]
      exact Cipher.openPayload_sealBytes s initial content
    have hopen' : openCommandSet (marked false members) content = .ok content := by
      rw [openCommandSet, saysSealed_marked]
      rfl
    have hcontent := sameButMark_of_content w'.expandHome members content
    simp only [Bind.bind, Except.bind, Except.mapError, hread, hread', hopen, hopen', hhome,
      saysSealed_marked] at hcontent ⊢
    exact hcontent

/-! ### Files -/

/-- The world with a file of this content at a place. -/
def World.holding (w : World) (place : Place) (data : Bytes) (executable : Bool) : World :=
  { w with files := w.files.set place (.file data executable) }

theorem World.node?_holding (w : World) {place : Place} (h : place ≠ []) (data : Bytes) (x : Bool) :
    (w.holding place data x).files.node? place = some (.file data x) := by
  rw [holding, FileSystem.node?_set, if_neg h, if_pos rfl]

/-- Worlds that hold different content at one place are alike. -/
theorem World.alike_holding (w : World) (place : Place) (data data' : Bytes) (x : Bool) :
    (w.holding place data x).files.Alike (w.holding place data' x).files := by
  intro p
  simp only [holding, FileSystem.node?_set]
  split
  · rfl
  split <;> rfl

/-- The result of loading is that of the stages behind the envelope, in the world after the first
line. -/
theorem load_fst {encoded : String} {envelope : Json} (h : decodeEnvelope encoded = .ok envelope)
    (parent : Logger) (w : World) :
    (load parent encoded w).1 =
      loadFrom ((parent.child "plan").log
        ⟨.debug, "Decoded envelope", Redaction.redact maxLoggedEnvelope envelope⟩ w) envelope := by
  simp only [load, h]
  split <;> next heq => rw [heq]

/-- Sealing the command set makes no difference to the plan. With a token of at least 32 bytes, an
envelope that says that its command set is sealed, where the file that it names holds a sealed
content, loads like the same envelope that says that it is not, where the file holds the content
itself: both give a plan, and the plans differ in nothing but the mark, or both give a failure, and
the failures differ in nothing but the hint. The log is not written to that file. -/
theorem load_sealed_like_plain (parent : Logger) (w : World) (place : Place) (executable : Bool)
    (members : Members) (token encodedSealed encodedPlain : String)
    (htoken : Json.lookup? "token" members = some (.string token))
    (hlong : Cipher.keySize ≤ (Text.Utf8.encode token).length)
    (hsealed : decodeEnvelope encodedSealed =
      .ok (.object (Json.insertMember "encrypted_data" (.bool true) members)))
    (hplain : decodeEnvelope encodedPlain =
      .ok (.object (Json.insertMember "encrypted_data" (.bool false) members)))
    (hsink : w.journal.sink ≠ some place) :
    ∃ s, Cipher.scheduleOfToken token = .ok s ∧ ∀ (initial : Cipher.Block) (content : Bytes),
      (w.holding place content executable).files.resolve w.cwd
        (w.expandHome (Text.trim ((Json.object members).textOf "cmd_set_filepath"))) = .ok place →
      SameButMark
        (load parent encodedSealed
          (w.holding place (Cipher.sealBytes s initial content) executable)).1
        (load parent encodedPlain (w.holding place content executable)).1 := by
  obtain ⟨s, hs⟩ := Cipher.exists_scheduleOfToken hlong
  refine ⟨s, hs token rfl, fun initial content hleads => ?_⟩
  have htext : (Json.object members).textOf "token" = token := by
    simp only [Json.textOf, Json.get?, htoken, Option.bind_some, Json.asString?, Option.getD_some]
  rw [load_fst hsealed, load_fst hplain]
  refine loadFrom_sameButMark (x := executable) place initial content htext (hs token rfl)
    ?_ ?_ ?_ ?_ ?_ ?_
  · exact (Logger.alike_log _ _ _).symm.trans
      ((World.alike_holding w place _ content executable).trans (Logger.alike_log _ _ _))
  · simp only [Logger.cwd_log, World.holding]
  · simp only [Logger.env_log, World.holding]
  · rw [(Logger.alike_log _ _ _).symm.resolve, (World.alike_holding w place _ content _).resolve,
      Logger.cwd_log, World.expandHome, Logger.env_log]
    exact hleads
  · intro hroot
    exact (Logger.node?_log _ _ (w := w.holding place _ executable) hsink).trans
      (w.node?_holding hroot _ _)
  · intro hroot
    exact (Logger.node?_log _ _ (w := w.holding place _ executable) hsink).trans
      (w.node?_holding hroot _ _)

/-! ### One envelope -/

/-- An argument is read from its characters. -/
theorem decodeEnvelope_ofList {cs : List Char} {ms : Members}
    (h : (Base64.decode ((Text.dropTrailingBlanks (Text.dropBlanks cs)).flatMap
      String.utf8EncodeChar)).toOption.bind (fun raw => (Json.parseOrExplain raw).toOption)
        = some (.object ms)) :
    decodeEnvelope (String.ofList cs) = .ok (.object ms) := by
  have htext : Text.Utf8.encode (Text.trim (String.ofList cs))
      = (Text.dropTrailingBlanks (Text.dropBlanks cs)).flatMap String.utf8EncodeChar := by
    rw [Text.Utf8.encode, Text.trim, String.toList_ofList, String.toList_ofList]
  rw [decodeEnvelope, htext]
  cases hraw : Base64.decode
      ((Text.dropTrailingBlanks (Text.dropBlanks cs)).flatMap String.utf8EncodeChar) with
  | error e =>
    rw [hraw] at h
    cases h
  | ok raw =>
    replace h : (Json.parseOrExplain raw).toOption = some (.object ms) := by rwa [hraw] at h
    cases hj : Json.parseOrExplain raw with
    | error e =>
      rw [hj] at h
      cases h
    | ok j =>
      rw [hj] at h
      obtain rfl := Option.some.inj h
      simp only [hj]
      rfl

/-- An envelope without its mark. -/
def envelopeMembers : Members :=
  [("cmd_file", .string "/c"), ("cmd_set_filepath", .string "/s"),
    ("token", .string "0123456789abcdef0123456789abcdef")]

/-- The argument for the envelope with a sealed command set. -/
def sealedArgument : String :=
  String.ofList
    ("eyJjbWRfZmlsZSI6Ii9jIiwiY21kX3NldF9m".toList ++ "aWxlcGF0aCI6Ii9zIiwiZW5jcnlwdGVkX2Rh".toList
      ++ "dGEiOnRydWUsInRva2VuIjoiMDEyMzQ1Njc4".toList
      ++ "OWFiY2RlZjAxMjM0NTY3ODlhYmNkZWYifQ==".toList)

/-- The argument for the envelope with a plain command set. -/
def plainArgument : String :=
  String.ofList
    ("eyJjbWRfZmlsZSI6Ii9jIiwiY21kX3NldF9m".toList ++ "aWxlcGF0aCI6Ii9zIiwiZW5jcnlwdGVkX2Rh".toList
      ++ "dGEiOmZhbHNlLCJ0b2tlbiI6IjAxMjM0NTY3".toList
      ++ "ODlhYmNkZWYwMTIzNDU2Nzg5YWJjZGVmIn0=".toList)

/-- A world with an empty command file, where the command set is expected at `/s`. -/
def commandFileOnly : World := { files := ⟨[(["c"], .file [] false)]⟩, cwd := [], env := [] }

/-- The end of a command set for an interpreter. -/
def scriptEnd : String :=
  "\"cmd_type\":\"script\",\"host\":\"http://[::1]\",\"script\":\"sh\",\"task_id\":\"t\"\x7d"

def scriptText : String := "\x7b\"command_set\":[\x7b\"id\":\"1\"\x7d]," ++ scriptEnd

/-- The plan behind that command set and an envelope with this token. -/
def scriptPlan (token : String) : Plan where
  taskId := "t"
  host := "http://[::1]"
  token := token
  orgId := ""
  backend := .script
  script := "sh"
  scriptArgs := []
  auth := {}
  cmdFile := "/c"
  cmdSetPath := "/s"
  commands := [{ id := "1" }]
  encrypted := false
  envs := ""
  prompt := "mysql> "
  columns := 80
  rows := 24

/-- One envelope and a command set for an interpreter, sealed and plain: both give a plan. -/
theorem load_sealed_like_plain_script :
    ∃ s, Cipher.scheduleOfToken "0123456789abcdef0123456789abcdef" = .ok s ∧
      (load ⟨"agent", .debug⟩ plainArgument
          (commandFileOnly.holding ["s"] (Text.Utf8.encode scriptText) false)).1 =
        .ok (scriptPlan "0123456789abcdef0123456789abcdef") ∧
      SameButMark
        (load ⟨"agent", .debug⟩ sealedArgument
          (commandFileOnly.holding ["s"]
            (Cipher.sealBytes s ⟨⟨1, 2, 3, 4⟩, ⟨0, 0, 0, 0⟩, ⟨0, 0, 0, 0⟩, ⟨0, 0, 0, 9⟩⟩
              (Text.Utf8.encode scriptText)) false)).1
        (load ⟨"agent", .debug⟩ plainArgument
          (commandFileOnly.holding ["s"] (Text.Utf8.encode scriptText) false)).1 := by
  have hsealed : decodeEnvelope sealedArgument =
      .ok (.object (Json.insertMember "encrypted_data" (.bool true) envelopeMembers)) :=
    decodeEnvelope_ofList (by decide +kernel)
  have hplain : decodeEnvelope plainArgument =
      .ok (.object (Json.insertMember "encrypted_data" (.bool false) envelopeMembers)) :=
    decodeEnvelope_ofList (by decide +kernel)
  obtain ⟨s, hs, hload⟩ := load_sealed_like_plain ⟨"agent", .debug⟩ commandFileOnly ["s"] false
    envelopeMembers "0123456789abcdef0123456789abcdef" sealedArgument plainArgument
    rfl (by decide +kernel) hsealed hplain (by decide)
  refine ⟨s, hs, ?_, hload _ _ (by decide +kernel)⟩
  rw [load_fst hplain]
  decide +kernel

end CommandAgent
