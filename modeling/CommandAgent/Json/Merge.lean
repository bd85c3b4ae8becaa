import CommandAgent.Json.Basic

/-!
# Overlaying documents

The command set is laid over the envelope: objects merge member by member, any other value replaces
what it is laid on, and null leaves the value below as it is. Afterwards members that are null are
dropped at every depth, so that a member that is null and one that is absent mean the same.
-/

namespace CommandAgent.Json

mutual

/-- `upper` laid over `base`. -/
def merge (base : Json) : (upper : Json) → Json
  | .null => base
  | .object upper =>
    match base with
    | .object below => .object (mergeMembers below upper)
    | _ => .object upper
  | other => other

/-- The members of an object laid over those of another. -/
def mergeMembers (below : Members) : (upper : List (String × Json)) → Members
  | [] => below
  | (k, v) :: rest => mergeMembers (mergeMember below k v) rest

def mergeMember (below : Members) (k : String) : (v : Json) → Members
  | .null => below
  | .object upper =>
    match lookup? k below with
    | some (.object inner) => insertMember k (.object (mergeMembers inner upper)) below
    | _ => insertMember k (.object upper) below
  | v => insertMember k v below

end

mutual

/-- The value without members that are null. -/
def stripNulls : Json → Json
  | .object ms => .object (stripMembers ms)
  | .array items => .array (stripItems items)
  | j => j

/-- Each item without members that are null. -/
def stripItems : List Json → List Json
  | [] => []
  | j :: rest => stripNulls j :: stripItems rest

/-- The members that are not null, each stripped. -/
def stripMembers : List (String × Json) → Members
  | [] => []
  | (k, j) :: rest =>
    if j.isNull then stripMembers rest else (k, stripNulls j) :: stripMembers rest

end

end CommandAgent.Json
