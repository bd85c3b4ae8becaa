import CommandAgent.Plan.Basic

/-!
# The document of a plan

The envelope and the command set share one form, a record in which every field may be missing.
`PlanDocument.ofJson` reads it, `Plan.toDocument` writes a plan in it.
-/

namespace CommandAgent

namespace Auth

/-- The fields of an `auth` record, in the order of its array form. -/
def fields : List (Json.Expect.Field Auth) :=
  [⟨"address", fun j a => (Json.Expect.text j).map fun s => { a with address := s }⟩,
    ⟨"port", fun j a => (Json.Expect.word16 j).map fun n => { a with port := n }⟩,
    ⟨"username", fun j a => (Json.Expect.text j).map fun s => { a with username := s }⟩,
    ⟨"password", fun j a => (Json.Expect.text j).map fun s => { a with password := s }⟩,
    ⟨"db_name", fun j a => (Json.Expect.text j).map fun s => { a with dbName := s }⟩,
    ⟨"privileged", fun j a => (Json.Expect.flag j).map fun b => { a with privileged := b }⟩]

def ofJson (j : Json) : Except String Auth := Json.Expect.record "Auth" fields {} j

def toJson (a : Auth) : Json :=
  .ofMembers
    [("address", .string a.address), ("port", .nat a.port.toNat), ("username", .string a.username),
      ("password", .string a.password), ("db_name", .string a.dbName),
      ("privileged", .bool a.privileged)]

end Auth

namespace Command

/-- The fields of a command, in the order of its array form. -/
def fields : List (Json.Expect.Field Command) :=
  [⟨"id", fun j c => (Json.Expect.text j).map fun s => { c with id := s }⟩,
    ⟨"input", fun j c => (Json.Expect.text j).map fun s => { c with input := s }⟩,
    ⟨"index", fun j c => (Json.Expect.integer64 j).map fun n => { c with index := n }⟩,
    ⟨"category", fun j c => (Json.Expect.text j).map fun s => { c with category := s }⟩]

def ofJson (j : Json) : Except String Command := Json.Expect.record "Command" fields {} j

def toJson (c : Command) : Json :=
  .ofMembers
    [("id", .string c.id), ("input", .string c.input), ("index", .int c.index),
      ("category", .string c.category)]

end Command

/-- The fields of an envelope or a command set, with their defaults. -/
structure PlanDocument where
  taskId : String := ""
  host : String := ""
  token : String := ""
  orgId : String := ""
  script : String := ""
  scriptArgs : List String := []
  auth : Auth := {}
  cmdType : String := ""
  cmdFile : String := ""
  cmdSetPath : String := ""
  commands : List Command := []
  encrypted : Bool := false
  envs : String := ""
  prompt : Option String := none
  columns : Option UInt16 := none
  rows : Option UInt16 := none
deriving DecidableEq, Repr

namespace PlanDocument

open Json.Expect in
/-- The fields of a document, in the order of its array form. -/
def fields : List (Json.Expect.Field PlanDocument) :=
  [⟨"task_id", fun j d => (text j).map fun s => { d with taskId := s }⟩,
    ⟨"host", fun j d => (text j).map fun s => { d with host := s }⟩,
    ⟨"token", fun j d => (text j).map fun s => { d with token := s }⟩,
    ⟨"org_id", fun j d => (text j).map fun s => { d with orgId := s }⟩,
    ⟨"script", fun j d => (text j).map fun s => { d with script := s }⟩,
    ⟨"script_args", fun j d => (list text j).map fun l => { d with scriptArgs := l }⟩,
    ⟨"auth", fun j d => (Auth.ofJson j).map fun a => { d with auth := a }⟩,
    ⟨"cmd_type", fun j d => (text j).map fun s => { d with cmdType := s }⟩,
    ⟨"cmd_file", fun j d => (text j).map fun s => { d with cmdFile := s }⟩,
    ⟨"cmd_set_filepath", fun j d => (text j).map fun s => { d with cmdSetPath := s }⟩,
    ⟨"command_set", fun j d => (list Command.ofJson j).map fun l => { d with commands := l }⟩,
    ⟨"encrypted_data", fun j d => (flag j).map fun b => { d with encrypted := b }⟩,
    ⟨"envs", fun j d => (text j).map fun s => { d with envs := s }⟩,
    ⟨"prompt", fun j d => (optional text j).map fun p => { d with prompt := p }⟩,
    ⟨"pty_cols", fun j d => (optional word16 j).map fun n => { d with columns := n }⟩,
    ⟨"pty_rows", fun j d => (optional word16 j).map fun n => { d with rows := n }⟩]

def ofJson (j : Json) : Except String PlanDocument :=
  Json.Expect.record "PlanDocument" fields {} j

end PlanDocument

/-- A plan in the form of a document. -/
def Plan.toDocument (p : Plan) : Json :=
  .ofMembers
    [("task_id", .string p.taskId), ("host", .string p.host), ("token", .string p.token),
      ("org_id", .string p.orgId), ("script", .string p.script),
      ("script_args", .array (p.scriptArgs.map .string)), ("auth", p.auth.toJson),
      ("cmd_type", .string p.backend.name), ("cmd_file", .string p.cmdFile),
      ("cmd_set_filepath", .string p.cmdSetPath),
      ("command_set", .array (p.commands.map Command.toJson)),
      ("encrypted_data", .bool p.encrypted), ("envs", .string p.envs), ("prompt", .string p.prompt),
      ("pty_cols", .nat p.columns.toNat), ("pty_rows", .nat p.rows.toNat)]

end CommandAgent
