import CommandAgent.Plan.Load
import Mathlib.Data.List.Forall2

/-!
# The mark of a sealed command set

The envelope says with one member, `encrypted_data`, whether the command set is sealed. This module
follows two envelopes that differ in nothing but this mark through the stages after the command set
has been opened: overlay, removal of nulls, reading of the fields and completion of the plan. No
stage looks at the mark, so what comes out differs in nothing but the field `encrypted`, or is the
same failure.

Members are compared with `MarkAlike`, documents and plans by what is left without the mark
(`unmarked`).
-/

namespace CommandAgent

/-! ### Members -/

def markKey : String := "encrypted_data"

/-- The same members in the same order, but for a mark that is true on the one side and false on the
other. -/
def MarkAlike : Members → Members → Prop :=
  List.Forall₂ fun m m' => m = m' ∨ (m = (markKey, .bool true) ∧ m' = (markKey, .bool false))

namespace MarkAlike

open Json

variable {ms ms' : Members}

theorem refl (ms : Members) : MarkAlike ms ms := by
  induction ms with
  | nil => exact .nil
  | cons m ms ih => exact .cons (.inl rfl) ih

/-- Setting the mark makes the difference. -/
theorem insert_mark (ms : Members) :
    MarkAlike (insertMember markKey (.bool true) ms) (insertMember markKey (.bool false) ms) := by
  induction ms with
  | nil => exact .cons (.inr ⟨rfl, rfl⟩) .nil
  | cons m ms ih =>
    obtain ⟨k, v⟩ := m
    simp only [Json.insertMember]
    split
    · exact .cons (.inr ⟨rfl, rfl⟩) (refl _)
    split
    · exact .cons (.inr ⟨rfl, rfl⟩) (refl _)
    · exact .cons (.inl rfl) ih

/-- Documents that are alike up to the mark stay so when a member is put in. -/
theorem insertMember (h : MarkAlike ms ms') (key : String) (value : Json) :
    MarkAlike (insertMember key value ms) (insertMember key value ms') := by
  induction h with
  | nil => exact refl _
  | @cons m m' ms ms' hm hms ih =>
    obtain ⟨k, v⟩ := m
    obtain ⟨k', v'⟩ := m'
    have hkeys : k = k' := by
      rcases hm with hm | ⟨hm, hm'⟩
      · exact congrArg Prod.fst hm
      · exact (congrArg Prod.fst hm).trans (congrArg Prod.fst hm').symm
    subst hkeys
    simp only [Json.insertMember]
    split
    · exact .cons (.inl rfl) (.cons hm hms)
    split
    · exact .cons (.inl rfl) hms
    · exact .cons hm ih

/-- Under a key both have the same value, or one has the mark set and the other has not. -/
theorem lookup? (h : MarkAlike ms ms') (key : String) :
    lookup? key ms = lookup? key ms' ∨
      (lookup? key ms = some (.bool true) ∧ lookup? key ms' = some (.bool false)) := by
  induction h with
  | nil => exact .inl rfl
  | @cons m m' ms ms' hm hms ih =>
    rcases hm with rfl | ⟨rfl, rfl⟩
    · simp only [Json.lookup?]
      split
      · exact .inl rfl
      · exact ih
    · simp only [Json.lookup?]
      split
      · exact .inr ⟨rfl, rfl⟩
      · exact ih

/-- A truth value below is replaced like any other that is not an object. -/
theorem mergeMember (h : MarkAlike ms ms') (key : String) (value : Json) :
    MarkAlike (mergeMember ms key value) (mergeMember ms' key value) := by
  cases value with
  | null => simpa only [Json.mergeMember] using h
  | object upper =>
    rcases h.lookup? key with heq | ⟨htrue, hfalse⟩
    · simp only [Json.mergeMember, heq]
      split
      · exact h.insertMember _ _
      · exact h.insertMember _ _
    · simp only [Json.mergeMember, htrue, hfalse]
      exact h.insertMember _ _
  | _ => simpa only [Json.mergeMember] using h.insertMember _ _

/-- They stay alike when an object is laid over both. -/
theorem mergeMembers (h : MarkAlike ms ms') (upper : Members) :
    MarkAlike (mergeMembers ms upper) (mergeMembers ms' upper) := by
  induction upper generalizing ms ms' with
  | nil => simpa only [Json.mergeMembers] using h
  | cons m upper ih =>
    obtain ⟨k, v⟩ := m
    simp only [Json.mergeMembers]
    exact ih (h.mergeMember k v)

theorem stripMembers (h : MarkAlike ms ms') : MarkAlike (stripMembers ms) (stripMembers ms') := by
  induction h with
  | nil => exact refl _
  | @cons m m' ms ms' hm hms ih =>
    rcases hm with rfl | ⟨rfl, rfl⟩
    · simp only [Json.stripMembers]
      split
      · exact ih
      · exact .cons (.inl rfl) ih
    · simp only [Json.stripMembers, isNull, stripNulls]
      exact .cons (.inr ⟨rfl, rfl⟩) ih

end MarkAlike

/-! ### Documents -/

namespace PlanDocument

/-- The document without the mark. -/
def unmarked (d : PlanDocument) : PlanDocument := { d with encrypted := false }

theorem eq_of_unmarked {d d' : PlanDocument} (h : d.unmarked = d'.unmarked) :
    d' = { d with encrypted := d'.encrypted } := by
  cases d
  cases d'
  simp_all [unmarked]

theorem map_unmarked_map {α : Type} (r : Except String α) {store store' : α → PlanDocument}
    (h : ∀ a, (store a).unmarked = (store' a).unmarked) :
    (r.map store).map unmarked = (r.map store').map unmarked := by
  cases r with
  | error e => rfl
  | ok a => exact congrArg Except.ok (h a)

/-- No field is read differently because of the mark. -/
theorem store_unmarked {f : Json.Expect.Field PlanDocument} (hf : f ∈ fields) (j : Json)
    {d d' : PlanDocument} (h : d.unmarked = d'.unmarked) :
    (f.store j d).map unmarked = (f.store j d').map unmarked := by
  rw [eq_of_unmarked h]
  simp only [fields, List.mem_cons, List.not_mem_nil, or_false] at hf
  -- every field puts what it reads into the record, whatever the mark is
  rcases hf with rfl | rfl | rfl | rfl | rfl | rfl | rfl | rfl | rfl | rfl | rfl | rfl | rfl | rfl |
    rfl | rfl
  all_goals exact map_unmarked_map _ fun _ => rfl

/-- Reading members that differ in the mark. -/
theorem storeMembers_unmarked {ms ms' : Members} (hms : MarkAlike ms ms') {d d' : PlanDocument}
    (h : d.unmarked = d'.unmarked) :
    (Json.Expect.storeMembers fields ms d).map unmarked =
      (Json.Expect.storeMembers fields ms' d').map unmarked := by
  induction hms generalizing d d' with
  | nil => exact congrArg Except.ok h
  | @cons m m' ms ms' hm hms ih =>
    rcases hm with rfl | ⟨rfl, rfl⟩
    · obtain ⟨k, j⟩ := m
      simp only [Json.Expect.storeMembers]
      cases hf : Json.Expect.field? fields k with
      | none => exact ih h
      | some f =>
        have hstore := store_unmarked (List.mem_of_find?_eq_some hf) j h
        show ((f.store j d).bind _).map unmarked = ((f.store j d').bind _).map unmarked
        cases hd : f.store j d <;> cases hd' : f.store j d' <;>
          simp only [hd, hd', Except.map, Except.ok.injEq, Except.error.injEq, reduceCtorEq]
            at hstore
        · rw [hstore]
          rfl
        · exact ih hstore
    · have hset : ({ d with encrypted := true } : PlanDocument).unmarked
          = ({ d' with encrypted := false } : PlanDocument).unmarked := h
      exact ih hset

end PlanDocument

/-! ### Plans -/

theorem map_bind_except {ε α β γ : Type} (r : Except ε α) (f : α → Except ε β) (g : β → γ) :
    (r >>= f).map g = r >>= fun a => (f a).map g := by
  cases r <;> rfl

/-- The plan without the mark. -/
def Plan.unmarked (p : Plan) : Plan := { p with encrypted := false }

/-- The mark is only copied when a document is completed. -/
theorem Plan.ofDocument_unmarked (expandHome : String → String) (d : PlanDocument) :
    (Plan.ofDocument expandHome d).map unmarked = Plan.ofDocument expandHome d.unmarked := by
  simp only [Plan.ofDocument, PlanDocument.unmarked, map_bind_except]
  refine bind_congr fun backend => bind_congr fun taskId => bind_congr fun host => ?_
  cases backend.isNative with
  | false =>
    simp only [Bool.false_eq_true, if_false, map_bind_except]
    exact bind_congr fun _ => rfl
  | true =>
    simp only [if_true, map_bind_except]
    exact bind_congr fun _ => bind_congr fun _ => rfl

/-- What comes of two envelopes that differ in the mark, under the same command set. -/
theorem plan_unmarked (expandHome : String → String) {ms ms' : Members} (h : MarkAlike ms ms')
    (upper : Members) :
    (readDocument (.object ms) (.object upper) >>= Plan.ofDocument expandHome).map Plan.unmarked =
      (readDocument (.object ms') (.object upper) >>= Plan.ofDocument expandHome).map
        Plan.unmarked := by
  have hdefault : ({} : PlanDocument).unmarked = ({} : PlanDocument).unmarked := rfl
  have hread := PlanDocument.storeMembers_unmarked (h.mergeMembers upper).stripMembers hdefault
  simp only [map_bind_except, Plan.ofDocument_unmarked]
  simp only [readDocument, Json.merge, Json.stripNulls, PlanDocument.ofJson, Json.Expect.record]
  revert hread
  generalize Json.Expect.storeMembers _ (Json.stripMembers (Json.mergeMembers ms upper)) _ = r
  generalize Json.Expect.storeMembers _ (Json.stripMembers (Json.mergeMembers ms' upper)) _ = r'
  intro hread
  cases r <;> cases r' <;>
    simp only [Except.map, Except.ok.injEq, Except.error.injEq, reduceCtorEq] at hread
  · rw [hread]
  · next d d' =>
    simp only [Except.mapError, Bind.bind, Except.bind]
    rw [hread]

end CommandAgent
