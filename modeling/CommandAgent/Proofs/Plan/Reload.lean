import CommandAgent.Proofs.Json.Ranged
import CommandAgent.Proofs.Plan.Absence
import CommandAgent.Proofs.Plan.Completion

/-!
# Loading a plan from its own document

A plan that was loaded is loaded again, unchanged in every field, once its document takes the place
of the command set (`load_reload`). The envelope stays, and so does everything else in the world.

The document has the plan's commands, and their positions fit into 64 bits, because they came from a
text (`PlanDocument.positioned_ofJson`); so the document reads as it was written
(`Plan.parse_toDocument`). Over the envelope it gives the plan's own fields
(`PlanDocument.ofJson_overlay`), and completing them changes nothing (`Plan.ofDocument_document`).
-/

namespace CommandAgent

open Json.Expect

/-! ### Positions -/

/-- The position of a command fits into 64 bits with sign. -/
def Command.Positioned (c : Command) : Prop :=
  -(Nat.pow 2 63 : Int) ≤ c.index ∧ c.index < Nat.pow 2 63

/-- A command has a position of 64 bits if the value that it is read from has no larger number. -/
theorem Command.positioned_ofJson {j : Json} {c : Command} (hj : j.Ranged)
    (h : ofJson j = .ok c) : c.Positioned := by
  refine Json.record_keeps Json.hereditary_ranged (I := Positioned) ?_ hj
    ⟨by decide, by decide⟩ h
  intro f hf j r r' hj hr hstore
  simp only [fields, List.mem_cons, List.not_mem_nil, or_false] at hf
  rcases hf with rfl | rfl | rfl | rfl
  case inr.inr.inl =>
    obtain ⟨n, hn, rfl⟩ := Json.map_eq_ok hstore
    unfold integer64 at hn
    split at hn
    · split at hn
      · next hlt =>
        cases hn
        exact ⟨hj.1, hlt⟩
      · cases hn
    · cases hn
  all_goals
    obtain ⟨s, -, rfl⟩ := Json.map_eq_ok hstore
    exact hr

/-- So have all commands of a document. -/
theorem PlanDocument.positioned_ofJson {j : Json} {d : PlanDocument} (hj : j.Ranged)
    (h : ofJson j = .ok d) : ∀ c ∈ d.commands, c.Positioned := by
  refine Json.record_keeps Json.hereditary_ranged (I := fun d => ∀ c ∈ d.commands, c.Positioned)
    ?_ hj (fun c hc => absurd hc List.not_mem_nil) h
  intro f hf j r r' hj hr hstore
  simp only [fields, List.mem_cons, List.not_mem_nil, or_false] at hf
  rcases hf with rfl | rfl | rfl | rfl | rfl | rfl | rfl | rfl | rfl | rfl | rfl | rfl | rfl | rfl |
    rfl | rfl
  case inr.inr.inr.inr.inr.inr.inr.inr.inr.inr.inl =>
    obtain ⟨commands, hcommands, rfl⟩ := Json.map_eq_ok hstore
    exact Json.forall_list Json.hereditary_ranged Command.positioned_ofJson hj hcommands
  all_goals
    obtain ⟨s, -, rfl⟩ := Json.map_eq_ok hstore
    exact hr

/-! ### The text of a document -/

section
variable {p : Plan}

theorem Plan.canonical_toDocument (p : Plan) : p.toDocument.Canonical := by
  rw [toDocument_eq, Auth.toJson_eq]
  exact canonical_members p.auth.canonical_members

theorem Json.writable_nat {room n : Nat} (h : n ≤ Json.maxWord) : Writable room (.nat n) :=
  ⟨Int.le_trans (by decide) (Int.natCast_nonneg n), Int.ofNat_le.mpr h⟩

theorem Json.writable_word (room : Nat) (n : UInt16) : Writable room (.nat n.toNat) :=
  writable_nat (Nat.le_trans n.toNat_lt.le (by decide))

theorem Auth.writable_toJson (a : Auth) : Json.Writable 127 a.toJson := by
  rw [toJson_eq]
  refine ⟨by decide, Json.writableMembers_iff.mpr ?_⟩
  simp only [members, List.forall_mem_cons]
  exact ⟨trivial, trivial, trivial, Json.writable_word _ _, trivial, trivial,
    fun m hm => absurd hm List.not_mem_nil⟩

theorem Command.writable_toJson {c : Command} (h : c.Positioned) :
    Json.Writable 126 c.toJson := by
  have hhigh : c.index ≤ Json.maxWord := Int.le_trans (Int.le_of_lt h.2) (by decide)
  rw [toJson_eq]
  refine ⟨by decide, Json.writableMembers_iff.mpr ?_⟩
  simp only [members, List.forall_mem_cons]
  exact ⟨trivial, trivial, ⟨h.1, hhigh⟩, trivial, fun m hm => absurd hm List.not_mem_nil⟩

/-- The document of a plan has integers of 64 bits only, and is nested no deeper than the reader
goes. -/
theorem Plan.writable_toDocument (h : ∀ c ∈ p.commands, c.Positioned) :
    Json.Writable Json.nesting p.toDocument := by
  have hcommands : Json.Writable 127 (.array (p.commands.map Command.toJson)) := by
    refine ⟨by decide, Json.writableItems_iff.mpr ?_⟩
    intro j hj
    obtain ⟨c, hc, rfl⟩ := List.mem_map.mp hj
    exact Command.writable_toJson (h c hc)
  have harguments : Json.Writable 127 (.array (p.scriptArgs.map .string)) := by
    refine ⟨by decide, Json.writableItems_iff.mpr ?_⟩
    intro j hj
    obtain ⟨s, -, rfl⟩ := List.mem_map.mp hj
    trivial
  rw [toDocument_eq]
  refine ⟨by decide, Json.writableMembers_iff.mpr ?_⟩
  simp only [members, List.forall_mem_cons]
  exact ⟨p.auth.writable_toJson, trivial, trivial, trivial, hcommands, trivial, trivial, trivial,
    trivial, trivial, Json.writable_word _ _, Json.writable_word _ _, trivial, harguments, trivial,
    trivial, fun m hm => absurd hm List.not_mem_nil⟩

def Plan.documentText (p : Plan) : Bytes := Text.Utf8.encode p.toDocument.render

theorem Plan.parse_documentText (h : ∀ c ∈ p.commands, c.Positioned) :
    Json.parse p.documentText = .ok p.toDocument :=
  Json.parse_render p.canonical_toDocument (writable_toDocument h)

end

/-! ### Loading -/

section
variable {w : World} {envelope commandSet : Json} {p : Plan}

theorem Json.isObject_toDocument (p : Plan) : p.toDocument.isObject := by
  rw [Plan.toDocument_eq]
  rfl

/-- A document is read from the command set laid over the envelope, without the nulls. -/
theorem readDocument_eq_ok {d : PlanDocument} (h : readDocument envelope commandSet = .ok d) :
    PlanDocument.ofJson (Json.stripNulls (envelope.merge commandSet)) = .ok d := by
  rw [readDocument] at h
  cases hread : PlanDocument.ofJson (Json.stripNulls (envelope.merge commandSet)) with
  | error e =>
    rw [hread] at h
    cases h
  | ok d' =>
    rw [hread] at h
    cases h
    rfl

/-- Behind a plan are a key, the document that was read, and checks that the command set has no part
in. -/
theorem planBehind_eq_ok (h : planBehind w envelope commandSet = .ok p) :
    ∃ d, envelope.keyed = .ok () ∧ readDocument envelope commandSet = .ok d ∧
      Plan.ofDocument w.expandHome d = .ok p ∧
      ∀ commandSet' : Json, commandSet'.isObject → planBehind w envelope commandSet' =
        readDocument envelope commandSet' >>= Plan.ofDocument w.expandHome := by
  unfold planBehind at h
  obtain ⟨setPath, hset, hrest⟩ := Json.bind_eq_ok h
  obtain ⟨filePath, hfile, hrest⟩ := Json.bind_eq_ok hrest
  obtain ⟨key, hkey, hrest⟩ := Json.bind_eq_ok hrest
  split at hrest
  · obtain ⟨d, hread, hplan⟩ := Json.bind_eq_ok hrest
    refine ⟨d, hkey, hread, hplan, ?_⟩
    intro commandSet' hobject
    unfold planBehind
    simp only [hset, hfile, hkey, hobject, if_true, bind, Except.bind]
  · cases hrest

/-- The plan behind an envelope and a command set is the one behind the envelope and the plan's
document. -/
theorem planBehind_toDocument (hcanonical : envelope.Canonical)
    (hindex : ∀ c ∈ p.commands, c.Positioned) (h : planBehind w envelope commandSet = .ok p)
    (hhost : Check.baseUrl p.host "host" = .ok p.host) (hhome : w.env.HomeAbsolute) :
    planBehind w envelope p.toDocument = .ok p := by
  obtain ⟨d, -, -, hplan, hbehind⟩ := planBehind_eq_ok h
  have hread : readDocument envelope p.toDocument = .ok p.document := by
    rw [readDocument, PlanDocument.ofJson_overlay hcanonical fun c hc => (hindex c hc).2]
    rfl
  rw [hbehind _ (Json.isObject_toDocument p), hread]
  simp only [bind, Except.bind]
  exact Plan.ofDocument_document hplan hhome hhost

theorem positioned_of_planBehind (henvelope : envelope.Ranged) (hset : commandSet.Ranged)
    (h : planBehind w envelope commandSet = .ok p) : ∀ c ∈ p.commands, c.Positioned := by
  obtain ⟨d, -, hread, hplan, -⟩ := planBehind_eq_ok h
  have hmerged := Json.ranged_stripNulls (Json.hereditary_ranged.merge henvelope hset)
  rw [(Plan.ofDocument_eq_ok_iff.mp hplan).commands]
  exact PlanDocument.positioned_ofJson hmerged (readDocument_eq_ok hread)

end

/-- A plan is loaded again from its own document. Where an envelope loads to a plan, it names a file
with the command set; and with any content in place of that file's that carries the text of the
plan's document, sealed or plain as the envelope says, it loads to the same plan. Such a content
exists. The home directory is an absolute path without outer blanks, the check on the base of the
URLs gives the plan's own back unchanged, and the log is not written to that file. -/
theorem load_reload (parent : Logger) {w : World} {encoded : String} {envelope : Json} {p : Plan}
    (hdecode : decodeEnvelope encoded = .ok envelope) (hload : (load parent encoded w).1 = .ok p)
    (hhost : Check.baseUrl p.host "host" = .ok p.host) (hhome : w.env.HomeAbsolute)
    (hsink : ∀ place, w.Names envelope place → w.journal.sink ≠ some place) :
    ∃ place data x, w.Names envelope place ∧ w.files.node? place = some (.file data x) ∧
      (∃ content, envelope.Carries content p.documentText) ∧
      ∀ content, envelope.Carries content p.documentText →
        (load parent encoded (w.holding place content x)).1 = .ok p := by
  obtain ⟨place, data, x, commandSet, text, hnames, hnode, hcarries, hparse⟩ :=
    exists_file_of_load hdecode hload hsink
  rw [load_fst_of_holds hdecode (World.holds_of_file hnames hnode hcarries hparse) hsink] at hload
  obtain ⟨_, hkeyed, -, -, -⟩ := planBehind_eq_ok hload
  refine ⟨place, data, x, hnames, hnode, exists_carries_of_keyed hkeyed _, ?_⟩
  intro content hcontent
  have hindex := positioned_of_planBehind (Json.ofParts_ranged.decodeEnvelope hdecode)
    (Json.ranged_of_parse hparse) hload
  have hplaced : place ≠ [] := by
    rintro rfl
    cases hnode
  have halike : w.files.Alike (w.holding place content x).files :=
    FileSystem.Alike.of_set hnode content
  have hnames' : ∀ place', (w.holding place content x).Names envelope place' ↔
      w.Names envelope place' := by
    intro place'
    rw [World.Names, World.Names, ← halike.resolve]
    rfl
  have hholds : (w.holding place content x).Holds envelope p.toDocument :=
    World.holds_of_file ((hnames' place).mpr hnames) (w.node?_holding hplaced content x) hcontent
      (Plan.parse_documentText hindex)
  have hsink' : ∀ place', (w.holding place content x).Names envelope place' →
      (w.holding place content x).journal.sink ≠ some place' :=
    fun place' hplace => hsink place' ((hnames' place').mp hplace)
  rw [load_fst_of_holds hdecode hholds hsink', ← planBehind_alike halike rfl rfl]
  exact planBehind_toDocument (canonical_of_decodeEnvelope hdecode) hindex hload hhost hhome

/-! ### One plan -/

/-- The text of a command set for an interpreter. -/
def interpreterText : String :=
  "\x7b\"cmd_file\":\"~/c\",\"cmd_type\":\"script\","
    ++ "\"command_set\":[\x7b\"id\":\"1\",\"index\":-1\x7d],"
    ++ "\"host\":\"http://[::1]\",\"script\":\" sh\",\"task_id\":\"t \"\x7d"

/-- What it reads as. -/
def interpreterSet : Json :=
  .object
    [("cmd_file", .string "~/c"), ("cmd_type", .string "script"),
      ("command_set", .array [.object [("id", .string "1"), ("index", .int (-1))]]),
      ("host", .string "http://[::1]"), ("script", .string " sh"), ("task_id", .string "t ")]

/-- A world that holds the command set and has a home directory. -/
def interpreterWorld : World := { holdingText interpreterText with env := [("HOME", "/home")] }

/-- The plan behind the two. -/
def interpreterPlan : Plan where
  taskId := "t"
  host := "http://[::1]"
  token := ""
  orgId := ""
  backend := .script
  script := "sh"
  scriptArgs := []
  auth := {}
  cmdFile := "/home/c"
  cmdSetPath := "/s"
  commands := [{ id := "1", index := -1 }]
  encrypted := false
  envs := ""
  prompt := "mysql> "
  columns := 80
  rows := 24

/-- A plan with a trimmed text, a tilde and defaults. -/
theorem load_reload_interpreter :
    (load ⟨"agent", .debug⟩ absentArgument interpreterWorld).1 = .ok interpreterPlan ∧
      ∃ place data x, interpreterWorld.Names bareEnvelope place ∧
        interpreterWorld.files.node? place = some (.file data x) ∧
        (∃ content, bareEnvelope.Carries content interpreterPlan.documentText) ∧
        ∀ content, bareEnvelope.Carries content interpreterPlan.documentText →
          (load ⟨"agent", .debug⟩ absentArgument (interpreterWorld.holding place content x)).1 =
            .ok interpreterPlan := by
  have hparse : Json.parse (Text.Utf8.encode interpreterText) = .ok interpreterSet := by
    decide +kernel
  have hnames : interpreterWorld.Names bareEnvelope ["s"] := by
    unfold World.Names
    decide +kernel
  have hnode : interpreterWorld.files.node? ["s"] =
      some (.file (Text.Utf8.encode interpreterText) false) :=
    World.node?_holding _ (by decide) _ _
  have hsink (place : Place) : interpreterWorld.journal.sink ≠ some place := by
    show (none : Option Place) ≠ some place
    exact (Option.some_ne_none place).symm
  have hload : (load ⟨"agent", .debug⟩ absentArgument interpreterWorld).1 =
      .ok interpreterPlan := by
    rw [load_fst_of_holds decodeEnvelope_absentArgument
      (World.holds_of_file hnames hnode (.of_plain (by decide) _) hparse)
      fun place _ => hsink place]
    exact Json.eq_ok_of_toOption (by decide)
  refine ⟨hload, load_reload _ decodeEnvelope_absentArgument hload ?_ ?_ ?_⟩
  · exact Json.eq_ok_of_toOption (by decide)
  · intro home hset
    cases hset
    decide
  · exact fun place _ => hsink place

end CommandAgent
