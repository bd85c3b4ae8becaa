import CommandAgent.Json.Expect
import CommandAgent.Log.Logger
import CommandAgent.Failure

/-!
# Error codes

A local interpreter may report an error and still exit with zero. The error codes are prefixes by
which such output is recognised; they come from a file with a JSON array of texts. An empty prefix
would match everything and is left out.
-/

namespace CommandAgent

/-- Prefixes that mark an output as failed; none of them is empty. -/
structure ErrorCodes where
  codes : List String
deriving DecidableEq, Repr

namespace ErrorCodes

/-- The codes of a list that are not empty. -/
def ofList (codes : List String) : ErrorCodes := ⟨codes.filter (!·.isEmpty)⟩

def none : ErrorCodes := ⟨[]⟩

def matchesOutput (c : ErrorCodes) (output : String) : Bool :=
  c.codes.any fun code => code.toList.isPrefixOf output.toList

def size (c : ErrorCodes) : Nat := c.codes.length

/-- The codes in a file. -/
def ofFile (w : World) (path : String) : Except Failure ErrorCodes := do
  let raw ← (w.contentOf path).mapError fun e =>
    Failure.config s!"Failed to read error code file {path}: {e.message}"
  let codes ← (Json.Stream.document (Json.Stream.list Json.Stream.text) raw).mapError fun e =>
    Failure.config s!"Error code file {path} must be a JSON array of strings: {e}"
  return ofList codes

/-- The codes in a file; a file that is missing or malformed gives none, and a warning. -/
def ofFileOrNone (logger : Logger) (path : String) (w : World) : ErrorCodes × World :=
  match ofFile w path with
  | .ok c =>
    let found := Json.ofMembers [("path", .string path), ("count", .nat c.size)]
    (c, logger.log ⟨.debug, "Loaded error codes", found⟩ w)
  | .error e =>
    let reason := Json.ofMembers [("path", .string path), ("error", .string e.message)]
    (none, logger.log
      ⟨.warn, "Error code file unavailable, output classification uses exit codes only", reason⟩ w)

end ErrorCodes
end CommandAgent
