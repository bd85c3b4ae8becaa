import CommandAgent.Failure
import CommandAgent.Json.Expect

/-!
# Plans

A plan is what the agent has been approved to do: which task it is, whom to report to, which backend
to use and how to reach it, and the commands in their order.
-/

namespace CommandAgent

inductive Backend where
  | mysql
  | oracle
  /-- An interactive program on a pseudo-terminal. -/
  | script
  /-- One run of a program over the whole command file. -/
  | localScript
deriving DecidableEq, Repr

namespace Backend

def all : List Backend := [mysql, oracle, script, localScript]

def name : Backend → String
  | mysql => "mysql"
  | oracle => "oracle"
  | script => "script"
  | localScript => "local_script"

/-- Whether the backend is a database that is reached by address and port. -/
def isNative : Backend → Bool
  | mysql | oracle => true
  | script | localScript => false

def parse (raw : String) : Except Failure Backend :=
  let name := Text.trim raw
  match all.find? (·.name = name) with
  | some b => .ok b
  | none =>
    .error <| (Failure.config s!"Unsupported command type: {name}").withDetails <|
      .ofMembers [("allowed", .array (all.map fun b => .string b.name))]

end Backend

/-- How to reach a database, and as whom. -/
structure Auth where
  address : String := ""
  port : UInt16 := 0
  username : String := ""
  password : String := ""
  dbName : String := ""
  privileged : Bool := false
deriving DecidableEq, Repr

structure Command where
  id : String := ""
  input : String := ""
  index : Int := 0
  category : String := ""
deriving DecidableEq, Repr

/-- A plan that has passed every check. -/
structure Plan where
  taskId : String
  host : String
  token : String
  orgId : String
  backend : Backend
  script : String
  scriptArgs : List String
  auth : Auth
  cmdFile : String
  cmdSetPath : String
  commands : List Command
  encrypted : Bool
  envs : String
  prompt : String
  columns : UInt16
  rows : UInt16
deriving DecidableEq, Repr

namespace Plan

def defaultPrompt : String := "mysql> "

/-- The width of a terminal where the plan gives none. -/
def defaultColumns : UInt16 := 80

/-- The height of a terminal where the plan gives none. -/
def defaultRows : UInt16 := 24

def summary (p : Plan) : Json :=
  .ofMembers
    [("task_id", .string p.taskId), ("backend", .string p.backend.name),
      ("script", .string p.script), ("commands", .nat p.commands.length),
      ("encrypted", .bool p.encrypted),
      ("target", .string s!"{p.auth.address}:{p.auth.port.toNat}")]

end Plan
end CommandAgent
