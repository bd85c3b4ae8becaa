import CommandAgent.Shell.Pattern
import CommandAgent.Shell.Process
import CommandAgent.Shell.Utility

/-!
# Fields

A word that has been expanded is a list of atoms: bytes that know whether they may be split or taken
as part of a pattern, and the borders between the arguments of `"$@"`. Splitting turns the atoms
into the fields that a command receives.
-/

namespace CommandAgent.Shell

/-- A part of an expanded word. -/
inductive Atom where
  | byte (b : UInt8) (splits quoted : Bool)
  /-- A border between fields. -/
  | border
  /-- Something quoted, which makes a field even if it is empty. -/
  | quote
deriving DecidableEq, Repr

namespace Atom

def ofBytes (data : Bytes) (splits quoted : Bool) : List Atom :=
  (if quoted then [quote] else []) ++ data.map fun b => byte b splits quoted

def bytes (atoms : List Atom) : Bytes :=
  atoms.filterMap fun a =>
    match a with
    | byte b _ _ => some b
    | _ => none

def isBlank (b : UInt8) : Bool := b = 32 || b = 9 || b = 10

/-- Split atoms into fields at the separators; `current` is the field at hand, if one has begun. -/
def fields (separators : Bytes) : (current : Option (List Atom)) → List Atom → List (List Atom)
  | none, [] => []
  | some f, [] => [f.reverse]
  | current, border :: as =>
    (match current with
      | some f => [f.reverse]
      | none => [])
      ++ fields separators none as
  | current, quote :: as => fields separators (some (quote :: current.getD [])) as
  | current, byte b splits q :: as =>
    if splits && separators.contains b then
      match current with
      | some f => f.reverse :: fields separators none as
      | none => if isBlank b then fields separators none as else [] :: fields separators none as
    else fields separators (some (byte b splits q :: current.getD [])) as

/-- The pattern that atoms write: quoted characters stand for themselves. -/
def pattern (atoms : List Atom) : List Char :=
  atoms.flatMap fun a =>
    match a with
    | byte b _ true => ['\\', Char.ofNat b.toNat]
    | byte b _ false => [Char.ofNat b.toNat]
    | _ => []

/-- Whether atoms hold a character with a meaning in patterns. -/
def isPattern (atoms : List Atom) : Bool :=
  atoms.any fun a =>
    match a with
    | byte b _ false => b = 42 || b = 63 || b = 91
    | _ => false

/-- The names that a field stands for: those that match, or the field itself. -/
def names (w : World) (atoms : List Atom) : List Bytes :=
  if !isPattern atoms then [bytes atoms]
  else
    let written := Text.Utf8.decodeLossy (bytes atoms)
    let split := written.toList.reverse
    let directory := String.ofList (split.dropWhile (· != '/')).reverse
    let wanted := pattern (atoms.drop (atoms.length - (split.takeWhile (· != '/')).length))
    let wanted := if directory.isEmpty then pattern atoms else wanted
    match w.files.resolve w.cwd (if directory.isEmpty then "." else directory) with
    | .error _ => [bytes atoms]
    | .ok place =>
      let found := (w.files.list place).filter fun n =>
        (!n.startsWith "." || wanted.head? = some '.')
          && matchesGlob wanted (Filter.byteChars (Text.Utf8.encode n))
      if found.isEmpty then [bytes atoms]
      else found.map fun n => Text.Utf8.encode (directory ++ n)

end Atom
end CommandAgent.Shell
