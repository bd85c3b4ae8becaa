import CommandAgent.Json.Basic
import CommandAgent.Url.Basic

/-!
# Exchanges over HTTP

A request and what came back. Like a database, the server at the other end may let its answer depend
on everything it was asked before, so it is a function of the exchanges so far. A request whose
address is no usable URL never reaches a server.
-/

namespace CommandAgent.Http

inductive Method where
  | patch
  | post
deriving DecidableEq, Repr

def Method.name : Method → String
  | patch => "PATCH"
  | post => "POST"

structure Request where
  method : Method
  /-- The address as it was put together. -/
  address : String
  authorization : String
  organization : String
  body : Json
deriving Repr

inductive Reply where
  | answered (code : Nat) (text : String)
  /-- No answer came, and why. -/
  | lost (reason : String)
deriving DecidableEq, Repr

structure Exchange where
  request : Request
  reply : Reply
deriving Repr

/-! ### Addresses -/

def schemes : List String := ["http", "https"]

def withoutCredentials (u : Url) : Url := { u with username := "", password := none }

/-- The URL that a request goes to, or why it cannot be sent. -/
def Request.url (r : Request) : Except String Url :=
  match Url.parse r.address with
  | .error f => .error ("builder error: " ++ f.message)
  | .ok u =>
    let refuse (u : Url) := Except.error
      ("builder error for url (" ++ u.toText ++ "): URL scheme is not allowed")
    if u.host.isNone then refuse u
    else if schemes.contains u.scheme then .ok (withoutCredentials u)
    else refuse (withoutCredentials u)

/-- What a URL asks its server for: the path and the query. -/
def target (u : Url) : String := u.path ++ (u.query.map ("?" ++ ·)).getD ""

/-! ### Servers -/

/-- How a server answers the requests that reach it. -/
abbrev Server := List Exchange → Request → Reply

/-- A server that no network leads to. -/
def unreachable (reason : String) : Server := fun _ r =>
  match r.url with
  | .ok u =>
    .lost ("error sending request for url (" ++ u.toText
      ++ "): error trying to connect: tcp connect error: " ++ reason)
  | .error reason => .lost reason

/-- Send a request, after some exchanges. -/
def Request.send (r : Request) (server : Server) (past : List Exchange) : Exchange :=
  match r.url with
  | .error reason => ⟨r, .lost reason⟩
  | .ok _ => ⟨r, server past r⟩

theorem Request.request_send (r : Request) (server : Server) (past : List Exchange) :
    (r.send server past).request = r := by
  unfold Request.send; split <;> rfl

end CommandAgent.Http
