import CommandAgent.Json.Merge
import CommandAgent.Proofs.Json.Scan

/-!
# Canonical values

What the reader gives is canonical (`canonical_of_parse`), and so is one canonical value laid over
another (`Hereditary.merge`). Both are said for every property that goes down to the members of an
object and is kept when a member is put in its place (`Hereditary`), since a document is read and
merged by nothing but such insertions.
-/

namespace CommandAgent.Json

/-! ### Members -/

/-- A member that has been put in its place is found there, and the others where they were. -/
theorem lookup?_insertMember (k key : String) (v : Json) (ms : Members) :
    lookup? k (insertMember key v ms) = if k = key then some v else lookup? k ms := by
  induction ms with
  | nil => rfl
  | cons m ms ih =>
    obtain ⟨k', v'⟩ := m
    rw [insertMember]
    split
    · rfl
    split
    · next heq =>
      rw [lookup?, lookup?, heq]
      split <;> rfl
    · next hne =>
      rw [lookup?, lookup?, ih]
      split
      · next hk =>
        have hkey : k ≠ key := by rw [hk]; exact fun heq => hne heq.symm
        rw [if_neg hkey]
      · rfl

theorem mem_of_lookup? {key : String} {v : Json} {ms : Members} (h : lookup? key ms = some v) :
    (key, v) ∈ ms := by
  induction ms with
  | nil => cases h
  | cons m ms ih =>
    obtain ⟨k, w⟩ := m
    rw [lookup?] at h
    split at h
    · next heq =>
      cases h
      rw [heq]
      exact List.mem_cons_self
    · exact List.mem_cons_of_mem _ (ih h)

theorem lookup?_eq_none {key : String} {ms : Members} (h : ∀ m ∈ ms, key ≠ m.1) :
    lookup? key ms = none := by
  induction ms with
  | nil => rfl
  | cons m ms ih =>
    obtain ⟨hm, hms⟩ := List.forall_mem_cons.mp h
    rw [lookup?, if_neg hm]
    exact ih hms

theorem canonicalItems_iff {items : List Json} :
    CanonicalItems items ↔ ∀ j ∈ items, Canonical j := by
  induction items with
  | nil => simp [CanonicalItems]
  | cons j items ih => simp [CanonicalItems, ih]

theorem canonicalMembers_iff {ms : Members} :
    CanonicalMembers ms ↔ ∀ m ∈ ms, Canonical m.2 := by
  induction ms with
  | nil => simp [CanonicalMembers]
  | cons m ms ih =>
    obtain ⟨k, j⟩ := m
    simp [CanonicalMembers, ih]

theorem canonical_object {ms : Members} :
    Canonical (.object ms) ↔ KeysSorted ms ∧ ∀ m ∈ ms, Canonical m.2 := by
  rw [Canonical, canonicalMembers_iff]

/-! ### Properties of all parts -/

/-- A property that goes down to the parts of a value, and that an object keeps when a member that
has it is put in its place. -/
structure Hereditary (P : Json → Prop) : Prop where
  nil : P (.object [])
  insert {ms : Members} {v : Json} (key : String) : P (.object ms) → P v →
    P (.object (insertMember key v ms))
  cons {m : String × Json} {ms : Members} : P (.object (m :: ms)) → P m.2 ∧ P (.object ms)
  array {items : List Json} : P (.array items) ↔ ∀ j ∈ items, P j

namespace Hereditary

variable {P : Json → Prop}

/-- A hereditary property of an object holds of each value in it. -/
theorem of_mem (hP : Hereditary P) {ms : Members} (h : P (.object ms)) {m : String × Json}
    (hm : m ∈ ms) : P m.2 := by
  induction ms with
  | nil => cases hm
  | cons m' ms ih =>
    obtain ⟨hfirst, hrest⟩ := hP.cons h
    rcases List.mem_cons.mp hm with rfl | hm
    · exact hfirst
    · exact ih hrest hm

theorem of_lookup? (hP : Hereditary P) {ms : Members} (h : P (.object ms)) {key : String}
    {v : Json} (hv : lookup? key ms = some v) : P v :=
  hP.of_mem h (mem_of_lookup? hv)

/-- An object made of members has every hereditary property that their values have. -/
theorem ofMembers (hP : Hereditary P) {ms : List (String × Json)} (h : ∀ m ∈ ms, P m.2) :
    P (ofMembers ms) := by
  -- on the members still to be put in, over those that have been
  have hfold : ∀ (todo : List (String × Json)) (done : Members), (∀ m ∈ todo, P m.2) →
      P (.object done) →
      P (.object (todo.foldl (fun acc m => insertMember m.1 m.2 acc) done)) := by
    intro todo
    induction todo with
    | nil =>
      intro done _ hdone
      exact hdone
    | cons m todo ih =>
      intro done htodo hdone
      obtain ⟨hm, htodo⟩ := List.forall_mem_cons.mp htodo
      exact ih _ htodo (hP.insert m.1 hdone hm)
  exact hfold ms [] h hP.nil

/-! ### Merging -/

mutual

/-- One value laid over another has what both have. -/
theorem merge (hP : Hereditary P) {base : Json} (hbase : P base) :
    ∀ {upper : Json}, P upper → P (base.merge upper)
  | .null, _ => by rwa [Json.merge]
  | .object upper, hupper => by
    cases base with
    | object below =>
      rw [Json.merge]
      exact hP.mergeMembers hbase hupper
    | _ => exact hupper
  | .bool _, hupper => hupper
  | .number _, hupper => hupper
  | .string _, hupper => hupper
  | .array _, hupper => hupper

theorem mergeMembers (hP : Hereditary P) {below : Members} (hbelow : P (.object below)) :
    ∀ {upper : Members}, P (.object upper) → P (.object (mergeMembers below upper))
  | [], _ => hbelow
  | (k, v) :: rest, hupper => by
    obtain ⟨hv, hrest⟩ := hP.cons hupper
    rw [Json.mergeMembers]
    exact hP.mergeMembers (hP.mergeMember k hbelow hv) hrest

/-- A hereditary property is kept when one member is laid over an object. -/
theorem mergeMember (hP : Hereditary P) {below : Members} (k : String)
    (hbelow : P (.object below)) : ∀ {v : Json}, P v → P (.object (mergeMember below k v))
  | .null, _ => hbelow
  | .object upper, hv => by
    rw [Json.mergeMember]
    split
    · next inner hinner =>
      exact hP.insert k hbelow (hP.mergeMembers (hP.of_lookup? hbelow hinner) hv)
    · exact hP.insert k hbelow hv
  | .bool _, hv => hP.insert k hbelow hv
  | .number _, hv => hP.insert k hbelow hv
  | .string _, hv => hP.insert k hbelow hv
  | .array _, hv => hP.insert k hbelow hv

end

end Hereditary

/-! ### Reading -/

section
variable {α : Type} {item : Cursor → Except Fault (α × Cursor)} {Q : α → Prop}

/-- The items of an array have what its reader of items gives them. -/
theorem forall_items (hitem : ∀ {c x c'}, item c = .ok (x, c') → Q x) {fuel : Nat} {first : Bool}
    {c c' : Cursor} {xs : List α} (h : items item fuel first c = .ok (xs, c')) : ∀ x ∈ xs, Q x := by
  induction fuel generalizing first c xs with
  | zero => cases h
  | succ fuel ih =>
    rw [items] at h
    obtain ⟨⟨more, d⟩, -, hmore⟩ := bind_eq_ok h
    cases more with
    | false =>
      cases hmore
      exact fun x hx => absurd hx List.not_mem_nil
    | true =>
      obtain ⟨⟨x, e⟩, hx, hrest⟩ := bind_eq_ok hmore
      obtain ⟨⟨rest, f⟩, hxs, hend⟩ := bind_eq_ok hrest
      cases hend
      exact List.forall_mem_cons.mpr ⟨hitem hx, ih hxs⟩

/-- The values of an object have what its reader of values gives them. -/
theorem forall_members (hitem : ∀ {c x c'}, item c = .ok (x, c') → Q x) {fuel : Nat}
    {first : Bool} {c c' : Cursor} {ms : List (String × α)}
    (h : members item fuel first c = .ok (ms, c')) : ∀ m ∈ ms, Q m.2 := by
  induction fuel generalizing first c ms with
  | zero => cases h
  | succ fuel ih =>
    rw [members] at h
    obtain ⟨⟨more, d⟩, -, hmore⟩ := bind_eq_ok h
    cases more with
    | false =>
      cases hmore
      exact fun m hm => absurd hm List.not_mem_nil
    | true =>
      obtain ⟨⟨key, e⟩, -, hkey⟩ := bind_eq_ok hmore
      obtain ⟨f, -, hcolon⟩ := bind_eq_ok hkey
      obtain ⟨⟨x, g⟩, hx, hrest⟩ := bind_eq_ok hcolon
      obtain ⟨⟨rest, l⟩, hms, hend⟩ := bind_eq_ok hrest
      cases hend
      exact List.forall_mem_cons.mpr ⟨hitem hx, ih hms⟩

end

/-- A hereditary property that single values have, the numbers as they are read. -/
structure OfParts (P : Json → Prop) : Prop extends Hereditary P where
  null : P .null
  bool (b : Bool) : P (.bool b)
  string (s : String) : P (.string s)
  number {negative : Bool} {c c' : Cursor} {n : Number} :
    numberTail negative c = .ok (n, c') → P (.number n)

namespace OfParts

variable {P : Json → Prop}

/-- What the reader gives has the property. -/
theorem value (hP : OfParts P) {fuel room : Nat} {c c' : Cursor} {j : Json}
    (h : value fuel room c = .ok (j, c')) : P j := by
  -- on the fuel, which is what the reader recurses on
  induction fuel generalizing room c j c' with
  | zero => cases h
  | succ fuel ih =>
    simp only [Json.value] at h
    split at h
    · cases h
    split at h
    · obtain ⟨_, -, heq⟩ := map_eq_ok h
      cases heq
      exact hP.null
    split at h
    · obtain ⟨_, -, heq⟩ := map_eq_ok h
      cases heq
      exact hP.bool true
    split at h
    · obtain ⟨_, -, heq⟩ := map_eq_ok h
      cases heq
      exact hP.bool false
    split at h
    · obtain ⟨_, hnumber, heq⟩ := map_eq_ok h
      cases heq
      exact hP.number hnumber
    split at h
    · obtain ⟨_, hnumber, heq⟩ := map_eq_ok h
      cases heq
      exact hP.number hnumber
    split at h
    · obtain ⟨_, -, heq⟩ := map_eq_ok h
      cases heq
      exact hP.string _
    split at h
    · split at h
      · cases h
      · obtain ⟨⟨xs, d⟩, hitems, hrest⟩ := bind_eq_ok h
        obtain ⟨_, -, hend⟩ := bind_eq_ok hrest
        cases hend
        exact hP.array.mpr (forall_items ih hitems)
    split at h
    · split at h
      · cases h
      · obtain ⟨⟨ms, d⟩, hmembers, hrest⟩ := bind_eq_ok h
        obtain ⟨_, -, hend⟩ := bind_eq_ok hrest
        cases hend
        exact hP.ofMembers (forall_members ih hmembers)
    · cases h

/-- What is read from a text has every property of this kind. -/
theorem parse (hP : OfParts P) {input : Bytes} {j : Json} (h : parse input = .ok j) : P j := by
  obtain ⟨⟨j', c⟩, hvalue, hend⟩ := bind_eq_ok h
  dsimp only at hend
  split at hend
  · cases hend
    exact hP.value hvalue
  · cases hend

/-- The same for a document that is read with its fault explained. -/
theorem parseOrExplain (hP : OfParts P) {input : Bytes} {j : Json}
    (h : parseOrExplain input = .ok j) : P j := by
  rw [Json.parseOrExplain] at h
  cases hparse : Json.parse input with
  | error f =>
    rw [hparse] at h
    cases h
  | ok j' =>
    rw [hparse] at h
    cases h
    exact hP.parse hparse

end OfParts

/-! ### Canonical values -/

/-- Being canonical passes from the members to the object. -/
theorem hereditary_canonical : Hereditary Canonical where
  nil := canonical_object.mpr ⟨.nil, fun m hm => absurd hm List.not_mem_nil⟩
  insert := by
    intro ms v key hms hv
    obtain ⟨hsorted, hmembers⟩ := canonical_object.mp hms
    refine canonical_object.mpr ⟨hsorted.insertMember key v, ?_⟩
    intro m hm
    rcases mem_insertMember hm with rfl | hm
    · exact hv
    · exact hmembers m hm
  cons := by
    intro m ms h
    obtain ⟨hsorted, hmembers⟩ := canonical_object.mp h
    obtain ⟨hm, hms⟩ := List.forall_mem_cons.mp hmembers
    exact ⟨hm, canonical_object.mpr ⟨hsorted.of_cons, hms⟩⟩
  array := canonicalItems_iff

theorem ofParts_canonical : OfParts Canonical where
  toHereditary := hereditary_canonical
  null := trivial
  bool _ := trivial
  string _ := trivial
  number _ := trivial

/-- What the reader gives is canonical. -/
theorem canonical_of_parse {input : Bytes} {j : Json} (h : parse input = .ok j) : Canonical j :=
  ofParts_canonical.parse h

end CommandAgent.Json
