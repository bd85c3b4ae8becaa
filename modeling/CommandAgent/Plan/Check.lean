import CommandAgent.Failure
import CommandAgent.Host.World
import CommandAgent.Url.Basic

/-!
# Checks on the values of a plan

Each check takes a value and the label under which it is reported, and gives the value back in the
form in which it is used, or a failure of the configuration.
-/

namespace CommandAgent.Check

/-- A text that names something: not blank, and without NUL. -/
def identifier (value label : String) : Except Failure String :=
  let trimmed := Text.trim value
  if trimmed.isEmpty then .error (.config s!"{label} must be a non-empty string")
  else if trimmed.toList.contains '\x00' then
    .error (.config s!"{label} must not contain null bytes")
  else .ok trimmed

def minPort : Nat := 1

def maxPort : Nat := 65535

def port (value : UInt16) (label : String) : Except Failure UInt16 :=
  if value.toNat < minPort then
    .error (.config s!"{label} must be an integer between {minPort} and {maxPort}")
  else .ok value

/-- The path of a regular file that exists. -/
def existingFile (w : World) (value label : String) : Except Failure String := do
  let raw ← identifier value label
  let path := w.expandHome raw
  match w.files.stat w.cwd path with
  | .ok node =>
    if node.isFile then return path
    else throw (.config s!"{label} is not a regular file: {path}")
  | .error e => throw (.config s!"{label} does not exist: {path} ({e.message})")

/-- The base of the orchestrator's URLs, without slashes at its end. -/
def baseUrl (value label : String) : Except Failure String := do
  let raw ← identifier value label
  match Url.parse raw with
  | .error e => throw (.config s!"{label} must be a valid URL: {e.message}")
  | .ok url =>
    if url.scheme ≠ "http" ∧ url.scheme ≠ "https" then
      throw (.config s!"{label} must use http or https")
    else return Text.trimEndSlashes raw

end CommandAgent.Check
