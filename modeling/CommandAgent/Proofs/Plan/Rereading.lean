import CommandAgent.Plan.Load
import CommandAgent.Proofs.Json.Overlay
import CommandAgent.Proofs.Json.RoundTrip

/-!
# A plan's document over any envelope

The document of a plan, laid over an envelope, reads as the plan's own fields, whatever members the
envelope has beside or below it (`PlanDocument.ofJson_overlay`). The same is so of the record of how
to reach a database, which may lie over anything (`Auth.ofJson_overlay`).
-/

namespace CommandAgent

open Json (KeysSorted)
open Json.Expect

/-! ### Reading what was written -/

namespace Json.Expect

@[simp] theorem word16_nat (n : UInt16) : word16 (.nat n.toNat) = .ok n := by
  have hrange : 0 ≤ (n.toNat : Int) ∧ (n.toNat : Int) < 65536 := by
    have hlt := n.toNat_lt
    omega
  rw [Json.nat, word16, if_pos hrange, Int.toNat_natCast, UInt16.ofNat_toNat]

theorem integer64_int {n : Int} (h : n < Nat.pow 2 63) : integer64 (.int n) = .ok n := if_pos h

/-- A list is read back if each item is. -/
theorem list_map {α : Type} {read : Json → Except String α} {write : α → Json} {xs : List α}
    (h : ∀ x ∈ xs, read (write x) = .ok x) : list read (.array (xs.map write)) = .ok xs := by
  show (xs.map write).mapM read = .ok xs
  induction xs with
  | nil => rfl
  | cons x xs ih =>
    obtain ⟨hx, hxs⟩ := List.forall_mem_cons.mp h
    rw [List.map_cons, List.mapM_cons, hx, ih hxs]
    rfl

/-- A member that is a field is stored before the others. -/
theorem storeMembers_cons {ρ : Type} {fields : List (Json.Expect.Field ρ)} {k : String} {j : Json}
    {ms : Members} {r r' : ρ} {f : Json.Expect.Field ρ} (hf : field? fields k = some f)
    (hstore : f.store j r = .ok r') : storeMembers fields ((k, j) :: ms) r =
      storeMembers fields ms r' := by
  rw [storeMembers, hf]
  show (f.store j r).bind _ = _
  rw [hstore]
  rfl

end Json.Expect

/-! ### How to reach a database -/

namespace Auth

/-- The members of the record, in the order of their keys. -/
def members (a : Auth) : Members :=
  [("address", .string a.address), ("db_name", .string a.dbName), ("password", .string a.password),
    ("port", .nat a.port.toNat), ("privileged", .bool a.privileged),
    ("username", .string a.username)]

theorem keysSorted_members (a : Auth) : KeysSorted a.members := by
  rw [KeysSorted, ← List.pairwise_map]
  show List.Pairwise _ ["address", "db_name", "password", "port", "privileged", "username"]
  decide

theorem toJson_eq (a : Auth) : a.toJson = .object a.members := by
  apply Json.ofMembers_eq
  · show List.Nodup ["address", "port", "username", "password", "db_name", "privileged"]
    decide
  · exact a.keysSorted_members
  · intro m hm
    simp only [List.mem_cons, List.not_mem_nil, or_false] at hm
    rcases hm with rfl | rfl | rfl | rfl | rfl | rfl <;>
      simp only [members, List.mem_cons, true_or, or_true]
  · exact Nat.le_refl 6

/-- An `auth` record is read back from its members. -/
theorem storeMembers_members (a : Auth) : storeMembers fields a.members {} = .ok a := by
  rw [members]
  refine (storeMembers_cons rfl rfl).trans ?_
  refine (storeMembers_cons rfl rfl).trans ?_
  refine (storeMembers_cons rfl rfl).trans ?_
  refine (storeMembers_cons rfl (by dsimp only; rw [word16_nat]; exact rfl)).trans ?_
  refine (storeMembers_cons rfl rfl).trans ?_
  refine (storeMembers_cons rfl rfl).trans ?_
  rfl

theorem canonical_members (a : Auth) : (Json.object a.members).Canonical := by
  refine Json.canonical_object.mpr ⟨a.keysSorted_members, ?_⟩
  simp [members, Json.Canonical, Json.nat]

/-- The record may be laid over anything. -/
theorem ofJson_overlay (a : Auth) {base : Json} (hbase : base.Canonical) :
    ofJson (Json.stripNulls (base.merge a.toJson)) = .ok a := by
  have hnull : ∀ m ∈ a.members, m.2.isNull = false := by simp [members, Json.isNull, Json.nat]
  have hnames : ∀ k ∈ fields.map Json.Expect.Field.name, k ∈ a.members.map Prod.fst := by
    show ∀ k ∈ ["address", "port", "username", "password", "db_name", "privileged"],
      k ∈ ["address", "db_name", "password", "port", "privileged", "username"]
    decide
  have hover : Json.overlaid base a.members = a.members := rfl
  rw [toJson_eq, ofJson, Json.record_overlay hbase a.canonical_members hnull hnames, hover,
    storeMembers_members]

end Auth

/-! ### Commands -/

namespace Command

/-- The members of a command, in the order of their keys. -/
def members (c : Command) : Members :=
  [("category", .string c.category), ("id", .string c.id), ("index", .int c.index),
    ("input", .string c.input)]

theorem keysSorted_members (c : Command) : KeysSorted c.members := by
  rw [KeysSorted, ← List.pairwise_map]
  show List.Pairwise _ ["category", "id", "index", "input"]
  decide

theorem toJson_eq (c : Command) : c.toJson = .object c.members := by
  apply Json.ofMembers_eq
  · show List.Nodup ["id", "input", "index", "category"]
    decide
  · exact c.keysSorted_members
  · intro m hm
    simp only [List.mem_cons, List.not_mem_nil, or_false] at hm
    rcases hm with rfl | rfl | rfl | rfl <;> simp only [members, List.mem_cons, true_or, or_true]
  · exact Nat.le_refl 4

theorem canonical_toJson (c : Command) : c.toJson.Canonical := by
  rw [toJson_eq]
  refine Json.canonical_object.mpr ⟨c.keysSorted_members, ?_⟩
  simp [members, Json.Canonical, Json.int]

theorem stripNulls_toJson (c : Command) : Json.stripNulls c.toJson = c.toJson := by
  rw [toJson_eq]
  rfl

/-- A command whose position is below `2 ^ 63` is read back. -/
theorem ofJson_toJson {c : Command} (h : c.index < Nat.pow 2 63) : ofJson c.toJson = .ok c := by
  rw [toJson_eq]
  show storeMembers fields c.members {} = .ok c
  rw [members]
  refine (storeMembers_cons rfl rfl).trans ?_
  refine (storeMembers_cons rfl rfl).trans ?_
  refine (storeMembers_cons rfl (by dsimp only; rw [integer64_int h]; exact rfl)).trans ?_
  refine (storeMembers_cons rfl rfl).trans ?_
  rfl

end Command

/-! ### Plans -/

namespace Plan

def document (p : Plan) : PlanDocument where
  taskId := p.taskId
  host := p.host
  token := p.token
  orgId := p.orgId
  script := p.script
  scriptArgs := p.scriptArgs
  auth := p.auth
  cmdType := p.backend.name
  cmdFile := p.cmdFile
  cmdSetPath := p.cmdSetPath
  commands := p.commands
  encrypted := p.encrypted
  envs := p.envs
  prompt := some p.prompt
  columns := some p.columns
  rows := some p.rows

/-- The members of a plan's document, in the order of their keys, with `auth` as it is given. -/
def members (p : Plan) (auth : Json) : Members :=
  [("auth", auth), ("cmd_file", .string p.cmdFile), ("cmd_set_filepath", .string p.cmdSetPath),
    ("cmd_type", .string p.backend.name), ("command_set", .array (p.commands.map Command.toJson)),
    ("encrypted_data", .bool p.encrypted), ("envs", .string p.envs), ("host", .string p.host),
    ("org_id", .string p.orgId), ("prompt", .string p.prompt), ("pty_cols", .nat p.columns.toNat),
    ("pty_rows", .nat p.rows.toNat), ("script", .string p.script),
    ("script_args", .array (p.scriptArgs.map .string)), ("task_id", .string p.taskId),
    ("token", .string p.token)]

theorem keysSorted_members (p : Plan) (auth : Json) : KeysSorted (p.members auth) := by
  rw [KeysSorted, ← List.pairwise_map]
  show List.Pairwise _
    ["auth", "cmd_file", "cmd_set_filepath", "cmd_type", "command_set", "encrypted_data", "envs",
      "host", "org_id", "prompt", "pty_cols", "pty_rows", "script", "script_args", "task_id",
      "token"]
  decide

/-- The document of a plan is the object of its members. -/
theorem toDocument_eq (p : Plan) : p.toDocument = .object (p.members p.auth.toJson) := by
  apply Json.ofMembers_eq
  · show List.Nodup
      ["task_id", "host", "token", "org_id", "script", "script_args", "auth", "cmd_type",
        "cmd_file", "cmd_set_filepath", "command_set", "encrypted_data", "envs", "prompt",
        "pty_cols", "pty_rows"]
    decide
  · exact p.keysSorted_members _
  · intro m hm
    simp only [List.mem_cons, List.not_mem_nil, or_false] at hm
    rcases hm with rfl | rfl | rfl | rfl | rfl | rfl | rfl | rfl | rfl | rfl | rfl | rfl | rfl |
      rfl | rfl | rfl <;> simp only [members, List.mem_cons, true_or, or_true]
  · exact Nat.le_refl 16

/-- A document is read back from its members, one field after the other. -/
theorem storeMembers_members {p : Plan} {auth : Json} (hauth : Auth.ofJson auth = .ok p.auth)
    (hindex : ∀ c ∈ p.commands, c.index < Nat.pow 2 63) :
    storeMembers PlanDocument.fields (p.members auth) {} = .ok p.document := by
  have hcommands : list Command.ofJson (.array (p.commands.map Command.toJson)) =
      .ok p.commands :=
    list_map fun c hc => Command.ofJson_toJson (hindex c hc)
  have harguments : list text (.array (p.scriptArgs.map .string)) = .ok p.scriptArgs :=
    list_map fun _ _ => rfl
  have hcolumns : optional word16 (.nat p.columns.toNat) = .ok (some p.columns) := by
    show (word16 (.nat p.columns.toNat)).map some = _
    rw [word16_nat]
    rfl
  have hrows : optional word16 (.nat p.rows.toNat) = .ok (some p.rows) := by
    show (word16 (.nat p.rows.toNat)).map some = _
    rw [word16_nat]
    rfl
  rw [members]
  refine (storeMembers_cons rfl (by dsimp only; rw [hauth]; exact rfl)).trans ?_
  refine (storeMembers_cons rfl rfl).trans ?_
  refine (storeMembers_cons rfl rfl).trans ?_
  refine (storeMembers_cons rfl rfl).trans ?_
  dsimp only
  refine (storeMembers_cons rfl (by dsimp only; rw [hcommands]; exact rfl)).trans ?_
  refine (storeMembers_cons rfl rfl).trans ?_
  refine (storeMembers_cons rfl rfl).trans ?_
  refine (storeMembers_cons rfl rfl).trans ?_
  dsimp only
  refine (storeMembers_cons rfl rfl).trans ?_
  refine (storeMembers_cons rfl rfl).trans ?_
  refine (storeMembers_cons rfl (by dsimp only; rw [hcolumns]; exact rfl)).trans ?_
  refine (storeMembers_cons rfl (by dsimp only; rw [hrows]; exact rfl)).trans ?_
  dsimp only
  refine (storeMembers_cons rfl rfl).trans ?_
  refine (storeMembers_cons rfl (by dsimp only; rw [harguments]; exact rfl)).trans ?_
  refine (storeMembers_cons rfl rfl).trans ?_
  refine (storeMembers_cons rfl rfl).trans ?_
  rfl

/-- The document has neither nulls nor keys out of order. -/
theorem canonical_members {p : Plan} {auth : Json} (hauth : auth.Canonical) :
    (Json.object (p.members auth)).Canonical := by
  have hcommands : (Json.array (p.commands.map Command.toJson)).Canonical := by
    rw [Json.Canonical, Json.canonicalItems_iff]
    intro j hj
    obtain ⟨c, -, rfl⟩ := List.mem_map.mp hj
    exact c.canonical_toJson
  have harguments : (Json.array (p.scriptArgs.map .string)).Canonical := by
    rw [Json.Canonical, Json.canonicalItems_iff]
    intro j hj
    obtain ⟨s, -, rfl⟩ := List.mem_map.mp hj
    trivial
  refine Json.canonical_object.mpr ⟨p.keysSorted_members _, ?_⟩
  simp only [members, List.forall_mem_cons]
  exact ⟨hauth, trivial, trivial, trivial, hcommands, trivial, trivial, trivial, trivial, trivial,
    trivial, trivial, trivial, harguments, trivial, trivial, fun m hm => absurd hm List.not_mem_nil⟩

/-- Laid over a document, the plan's own members stand as they are, but for `auth`. -/
theorem overlaid_members (p : Plan) (base auth : Json) :
    Json.overlaid base (p.members auth) =
      p.members (Json.stripNulls (((base.get? "auth").getD .null).merge auth)) := by
  have hcommands : Json.stripItems (p.commands.map Command.toJson) =
      p.commands.map Command.toJson := by
    apply Json.stripItems_of_forall
    intro j hj
    obtain ⟨c, -, rfl⟩ := List.mem_map.mp hj
    exact c.stripNulls_toJson
  have harguments : Json.stripItems (p.scriptArgs.map .string) = p.scriptArgs.map .string := by
    apply Json.stripItems_of_forall
    intro j hj
    obtain ⟨s, -, rfl⟩ := List.mem_map.mp hj
    rfl
  simp only [Json.overlaid, members, List.map_cons, List.map_nil, Json.nat, Json.merge,
    Json.stripNulls, hcommands, harguments]

end Plan

/-- The document of a plan may be laid over any envelope: its fields are the plan's. -/
theorem PlanDocument.ofJson_overlay {p : Plan} {envelope : Json} (henvelope : envelope.Canonical)
    (hindex : ∀ c ∈ p.commands, c.index < Nat.pow 2 63) :
    ofJson (Json.stripNulls (envelope.merge p.toDocument)) = .ok p.document := by
  have hnull : ∀ m ∈ p.members p.auth.toJson, m.2.isNull = false := by
    rw [Auth.toJson_eq]
    simp [Plan.members, Json.isNull, Json.nat]
  have hnames : ∀ k ∈ fields.map Json.Expect.Field.name,
      k ∈ (p.members p.auth.toJson).map Prod.fst := by
    show ∀ k ∈
        ["task_id", "host", "token", "org_id", "script", "script_args", "auth", "cmd_type",
          "cmd_file", "cmd_set_filepath", "command_set", "encrypted_data", "envs", "prompt",
          "pty_cols", "pty_rows"],
      k ∈ ["auth", "cmd_file", "cmd_set_filepath", "cmd_type", "command_set", "encrypted_data",
        "envs", "host", "org_id", "prompt", "pty_cols", "pty_rows", "script", "script_args",
        "task_id", "token"]
    decide
  have hbase : ((envelope.get? "auth").getD .null).Canonical := by
    cases envelope with
    | object ms =>
      cases hfound : (Json.object ms).get? "auth" with
      | none => trivial
      | some v => exact Json.hereditary_canonical.of_lookup? henvelope hfound
    | _ => trivial
  have hauth := p.auth.ofJson_overlay hbase
  have hcanonical : p.auth.toJson.Canonical := by
    rw [Auth.toJson_eq]
    exact p.auth.canonical_members
  rw [Plan.toDocument_eq, ofJson, Json.record_overlay henvelope (Plan.canonical_members hcanonical)
    hnull hnames, Plan.overlaid_members, Plan.storeMembers_members hauth hindex]

end CommandAgent
