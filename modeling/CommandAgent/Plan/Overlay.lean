import CommandAgent.Plan.Basic
import CommandAgent.Text.Blank

/-!
# The environment of a plan

The field `envs` of a plan lists environment variables as `KEY=VALUE` entries separated by
semicolons. Blank entries, entries without an equals sign and entries without a key are skipped. A
value may hold equals signs, and blanks at its start belong to it; blanks at the end of an entry do
not.
-/

namespace CommandAgent.EnvOverlay

def trimChars (cs : List Char) : List Char := Text.dropTrailingBlanks (Text.dropBlanks cs)

/-- The key and value of an entry. -/
def pair? (part : List Char) : Option (String × String) :=
  let part := trimChars part
  match part.dropWhile (· != '=') with
  | [] => none
  | _ :: value =>
    let key := trimChars (part.takeWhile (· != '='))
    if key.isEmpty then none else some (String.ofList key, String.ofList value)

/-- The variables that a text lists, in order. -/
def parse (raw : String) : List (String × String) := (raw.toList.splitOn ';').filterMap pair?

def render (pairs : List (String × String)) : String :=
  ";".intercalate (pairs.map fun (k, v) => k ++ "=" ++ v)

end CommandAgent.EnvOverlay

/-- The environment variables that a plan sets. -/
def CommandAgent.Plan.envOverlay (p : CommandAgent.Plan) : List (String × String) :=
  EnvOverlay.parse p.envs
