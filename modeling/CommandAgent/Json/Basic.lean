import CommandAgent.Number.Binary64

/-!
# JSON values

The documents that the agent reads and writes, and the metadata of a log line, are JSON values. A
number is an integer of 64 bits, with or without sign, or a double; there is no third kind. The
members of an object are kept in ascending order of their keys, each key once, so that two equal
objects are equal values: `insertMember` keeps that order (`KeysSorted.insertMember`), and
`Json.Canonical` says it of a value at every depth.
-/

namespace CommandAgent

/-- A JSON number: an integer within 64 bits, or a double. -/
inductive Number where
  | integer (value : Int)
  | double (value : Binary64)
deriving DecidableEq, Repr

/-- A JSON value. -/
inductive Json where
  | null
  | bool (value : Bool)
  | number (value : Number)
  | string (value : String)
  | array (items : List Json)
  | object (members : List (String × Json))
deriving Repr

abbrev Members := List (String × Json)

namespace Json

def int (n : Int) : Json := .number (.integer n)

/-- A JSON integer that is not negative. -/
def nat (n : Nat) : Json := .number (.integer n)

/-- A text, or null where there is none. -/
def ofOption : Option String → Json
  | some s => .string s
  | none => .null

def isObject : Json → Bool
  | .object _ => true
  | _ => false

def isNull : Json → Bool
  | .null => true
  | _ => false

/-! ### Members -/

/-- Put a member in its place; an earlier one with the same key is replaced. -/
def insertMember (key : String) (value : Json) : Members → Members
  | [] => [(key, value)]
  | (k, v) :: rest =>
    if key < k then (key, value) :: (k, v) :: rest
    else if key = k then (key, value) :: rest
    else (k, v) :: insertMember key value rest

def lookup? (key : String) : Members → Option Json
  | [] => none
  | (k, v) :: rest => if key = k then some v else lookup? key rest

/-- An object from members in any order; of two with one key the later counts. -/
def ofMembers (ms : List (String × Json)) : Json :=
  .object (ms.foldl (fun acc m => insertMember m.1 m.2 acc) [])

/-- The value of a member, if this is an object that has it. -/
def get? (key : String) : Json → Option Json
  | .object ms => lookup? key ms
  | _ => none

def asString? : Json → Option String
  | .string s => some s
  | _ => none

def asBool? : Json → Option Bool
  | .bool b => some b
  | _ => none

/-! ### Canonical values -/

/-- The keys ascend strictly. -/
def KeysSorted (ms : Members) : Prop := ms.Pairwise (fun a b => a.1 < b.1)

mutual

/-- Every object inside the value, and the value itself, has its keys in strictly
ascending order. -/
def Canonical : Json → Prop
  | .array items => CanonicalItems items
  | .object ms => KeysSorted ms ∧ CanonicalMembers ms
  | _ => True

def CanonicalItems : List Json → Prop
  | [] => True
  | j :: rest => Canonical j ∧ CanonicalItems rest

def CanonicalMembers : List (String × Json) → Prop
  | [] => True
  | (_, j) :: rest => Canonical j ∧ CanonicalMembers rest

end

/-- A member of the list after an insertion is the inserted one or was there before. -/
theorem mem_insertMember {m : String × Json} {key : String} {value : Json} {ms : Members}
    (h : m ∈ insertMember key value ms) : m = (key, value) ∨ m ∈ ms := by
  induction ms with
  | nil => simpa [insertMember] using h
  | cons a l ih =>
    obtain ⟨k, v⟩ := a
    simp only [insertMember] at h
    split at h
    · simpa using h
    · split at h
      · rcases List.mem_cons.1 h with h | h
        · exact .inl h
        · exact .inr (List.mem_cons_of_mem _ h)
      · rcases List.mem_cons.1 h with h | h
        · exact .inr (by simp [h])
        · rcases ih h with h | h
          · exact .inl h
          · exact .inr (List.mem_cons_of_mem _ h)

/-- Inserting a member keeps the order of the keys. -/
theorem KeysSorted.insertMember {ms : Members} (h : KeysSorted ms) (key : String) (value : Json) :
    KeysSorted (Json.insertMember key value ms) := by
  induction ms with
  | nil => simp [Json.insertMember, KeysSorted]
  | cons m rest ih =>
    obtain ⟨k, v⟩ := m
    obtain ⟨hk, hrest⟩ := List.pairwise_cons.1 h
    simp only [Json.insertMember]
    split
    · next hlt =>
      refine List.pairwise_cons.2 ⟨?_, h⟩
      intro m hm
      rcases List.mem_cons.1 hm with rfl | hm
      · exact hlt
      · exact String.lt_trans hlt (hk m hm)
    · split
      · next heq =>
        subst heq
        exact List.pairwise_cons.2 ⟨hk, hrest⟩
      · next hlt hne =>
        refine List.pairwise_cons.2 ⟨?_, ih hrest⟩
        intro m hm
        have hgt : k < key := by
          rcases Decidable.em (k < key) with h1 | h1
          · exact h1
          · exact absurd (String.le_antisymm (String.not_lt.1 h1) (String.not_lt.1 hlt)) hne
        rcases mem_insertMember hm with rfl | hm
        · exact hgt
        · exact hk m hm

end Json
end CommandAgent
