import CommandAgent.ErrorCodes

/-!
# The output of a local run

What an interpreter is called decides how its output is cleaned (`Flavor`). The mysql client repeats
the statement between two rules of dashes and ends with a farewell; `stripBanner` keeps what stands
between the second rule and the farewell. A run has failed if it exits with anything but zero, or if
its output starts with an error code.
-/

namespace CommandAgent

/-- The kinds of interpreters that are treated differently. -/
inductive Flavor where
  | mysql
  | sqlplus
  | generic
deriving DecidableEq, Repr

namespace Flavor

/-- The flavor of a program, from the last part of its path. -/
def ofProgram (program : String) : Flavor :=
  match Path.name? program with
  | some "mysql" => mysql
  | some "sqlplus" => sqlplus
  | _ => generic

def name : Flavor → String
  | mysql => "Mysql"
  | sqlplus => "Sqlplus"
  | generic => "Generic"

end Flavor

namespace Output

/-- The rule above and below a repeated statement, with the end of its line. -/
def rule : List Char := "--------------\n".toList

/-- The text behind the first occurrence of `needle`. -/
def behind? (needle cs : List Char) : Option (List Char) :=
  (Text.find? needle cs).map fun i => cs.drop (i + needle.length)

/-- The text before a farewell at its very end. -/
def beforeFarewell? (cs : List Char) : Option (List Char) :=
  match cs.reverse with
  | 'e' :: 'y' :: 'B' :: back => some back.reverse
  | 'y' :: 'B' :: back => some back.reverse
  | _ => none

/-- The part of a text between the statement it repeats and its farewell. -/
def withoutBanner? (cs : List Char) : Option (List Char) := do
  let statement ← behind? rule cs
  let result ← behind? ('\n' :: rule) statement
  beforeFarewell? result

/-- The output without the repeated statement and the farewell; any other output is unchanged. -/
def stripBanner (output : String) : String :=
  match withoutBanner? (Text.dropTrailingBlanks output.toList) with
  | some kept => String.ofList kept
  | none => output

def clean (flavor : Flavor) (raw : String) : String :=
  Text.trim (match flavor with
    | .mysql => stripBanner raw
    | .sqlplus | .generic => raw)

def succeeded (exitCode : Int) (raw cleaned : String) (codes : ErrorCodes) : Bool :=
  exitCode == 0 && !(codes.matchesOutput cleaned || codes.matchesOutput (Text.trimStart raw))

end Output
end CommandAgent
