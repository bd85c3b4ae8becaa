import CommandAgent.Json.Expect
import CommandAgent.Proofs.Json.Nulls
import Mathlib.Data.List.Sort

/-!
# Reading an overlaid document

What stands under a key of a merged object is told by what stands there in the two objects
(`get?_merge`). And a record reads the same from two objects that have the same values under the
names of its fields, whatever else they have (`storeMembers_congr`). So a record that is laid over
any document can be read from it again.
-/

namespace CommandAgent.Json

/-! ### Objects by their keys -/

/-- In an object whose keys ascend, to be a member is to be found under the key. -/
theorem mem_iff_lookup? {ms : Members} (h : KeysSorted ms) {m : String × Json} :
    m ∈ ms ↔ lookup? m.1 ms = some m.2 := by
  constructor
  · intro hm
    induction ms with
    | nil => cases hm
    | cons m' ms ih =>
      obtain ⟨k, v⟩ := m'
      obtain ⟨hk, hms⟩ := keysSorted_cons.mp h
      rcases List.mem_cons.mp hm with rfl | hm
      · rw [lookup?, if_pos rfl]
      · have hne : ¬ m.1 = k := (String.ne_of_lt (hk m hm)).symm
        rw [lookup?, if_neg hne]
        exact ih hms hm
  · exact mem_of_lookup?

/-- Objects in order that have the same members are the same. -/
theorem eq_of_mem_iff {ms ms' : Members} (h : KeysSorted ms) (h' : KeysSorted ms')
    (hmem : ∀ m, m ∈ ms ↔ m ∈ ms') : ms = ms' := by
  have hirrefl : Std.Irrefl fun a b : String × Json => a.1 < b.1 :=
    ⟨fun a => String.lt_irrefl a.1⟩
  have hantisymm : Std.Antisymm fun a b : String × Json => a.1 < b.1 :=
    ⟨fun a b hab hba => absurd (String.lt_trans hab hba) (String.lt_irrefl a.1)⟩
  exact List.Pairwise.eq_of_mem_iff h h' hmem

/-- A member under a new key joins the others. -/
theorem mem_insertMember_iff {key : String} {v : Json} {ms : Members} (h : ∀ m ∈ ms, m.1 ≠ key)
    {m : String × Json} : m ∈ insertMember key v ms ↔ m = (key, v) ∨ m ∈ ms := by
  induction ms with
  | nil => simp [insertMember]
  | cons m' ms ih =>
    obtain ⟨k, w⟩ := m'
    obtain ⟨hk, hms⟩ := List.forall_mem_cons.mp h
    have hne : ¬ key = k := fun heq => hk heq.symm
    rw [insertMember, if_neg hne]
    split
    · simp only [List.mem_cons]
    · rw [List.mem_cons, ih hms, List.mem_cons]
      exact or_left_comm

/-- An object made from members with different keys has these members in the order of the keys. -/
theorem ofMembers_eq {given ms : Members} (hkeys : (given.map Prod.fst).Nodup)
    (hsorted : KeysSorted ms) (hsubset : given ⊆ ms) (hlength : ms.length ≤ given.length) :
    ofMembers given = .object ms := by
  have hperm : given.Perm ms :=
    (List.subperm_of_subset hkeys.of_map hsubset).perm_of_length_le hlength
  have hfold : ∀ todo done : Members, (todo.map Prod.fst).Nodup →
      (∀ m ∈ done, m.1 ∉ todo.map Prod.fst) → ∀ m,
      m ∈ todo.foldl (fun acc m => insertMember m.1 m.2 acc) done ↔ m ∈ todo ∨ m ∈ done := by
    intro todo
    induction todo with
    | nil =>
      intro done _ _ m
      simp
    | cons x todo ih =>
      intro done hnodup hfresh m
      obtain ⟨hx, hnodup⟩ := List.nodup_cons.mp hnodup
      have hnew : ∀ m ∈ done, m.1 ≠ x.1 := by
        intro m hm heq
        exact hfresh m hm (heq ▸ List.mem_cons_self)
      have hfresh' : ∀ m ∈ insertMember x.1 x.2 done, m.1 ∉ todo.map Prod.fst := by
        intro m hm
        rcases (mem_insertMember_iff hnew).mp hm with rfl | hm
        · exact hx
        · exact fun hin => hfresh m hm (List.mem_cons_of_mem _ hin)
      rw [List.foldl_cons, ih _ hnodup hfresh' m, mem_insertMember_iff hnew, List.mem_cons]
      exact or_left_comm.trans or_assoc.symm
  have hcanonical : KeysSorted (given.foldl (fun acc m => insertMember m.1 m.2 acc) []) := by
    have hinsert : ∀ todo done : Members, KeysSorted done →
        KeysSorted (todo.foldl (fun acc m => insertMember m.1 m.2 acc) done) := by
      intro todo
      induction todo with
      | nil =>
        intro done hdone
        exact hdone
      | cons x todo ih =>
        intro done hdone
        exact ih _ (hdone.insertMember x.1 x.2)
    exact hinsert given [] .nil
  rw [ofMembers]
  congr 1
  apply eq_of_mem_iff hcanonical hsorted
  intro m
  rw [hfold given [] hkeys (fun m hm => absurd hm List.not_mem_nil), ← hperm.mem_iff]
  simp

/-! ### Merged values -/

/-- Whatever an object is laid over, an object comes of it. -/
theorem exists_merge_object (base : Json) (upper : Members) :
    ∃ ms, base.merge (.object upper) = .object ms := by
  cases base <;> exact ⟨_, rfl⟩

/-- Laying a member over an object replaces what stands under its key by the merged value. -/
theorem mergeMember_eq (below : Members) (k : String) {v : Json} (hv : v.isNull = false) :
    mergeMember below k v = insertMember k (((lookup? k below).getD .null).merge v) below := by
  cases v with
  | null => cases hv
  | object upper =>
    rw [mergeMember]
    cases lookup? k below with
    | none => rfl
    | some w => cases w <;> rfl
  | _ => rfl

/-- What stands under a key of an object over which another has been laid: a member that is null
leaves what is below as it is. -/
theorem lookup?_mergeMembers {below upper : Members} (hupper : KeysSorted upper) (key : String) :
    lookup? key (mergeMembers below upper) =
      match (lookup? key upper).filter (fun v => !v.isNull) with
      | some v => some (((lookup? key below).getD .null).merge v)
      | none => lookup? key below := by
  induction upper generalizing below with
  | nil => rfl
  | cons m upper ih =>
    obtain ⟨k, v⟩ := m
    obtain ⟨hk, hupper⟩ := keysSorted_cons.mp hupper
    rw [mergeMembers, ih hupper]
    by_cases hkey : key = k
    · subst hkey
      -- the key comes once, so the others leave the merged value alone
      have hnone : lookup? key upper = none := by
        apply lookup?_eq_none
        intro m hm
        exact String.ne_of_lt (hk m hm)
      rw [hnone, lookup?, if_pos rfl, Option.filter_some]
      cases hv : v.isNull with
      | true => cases v <;> first | rfl | cases hv
      | false =>
        rw [mergeMember_eq below key hv, Option.filter_none, lookup?_insertMember, if_pos rfl]
        rfl
    · have hsame : lookup? key (mergeMember below k v) = lookup? key below := by
        cases hv : v.isNull with
        | true => cases v <;> first | rfl | cases hv
        | false => rw [mergeMember_eq below k hv, lookup?_insertMember, if_neg hkey]
      rw [hsame, lookup?, if_neg hkey]

/-- What stands under a key of a value over which an object has been laid. -/
theorem get?_merge (base : Json) {upper : Members} (hupper : KeysSorted upper)
    (hnull : ∀ m ∈ upper, m.2.isNull = false) (key : String) :
    (base.merge (.object upper)).get? key =
      match lookup? key upper with
      | some v => some (((base.get? key).getD .null).merge v)
      | none => base.get? key := by
  have hplain : ∀ v : Json, lookup? key upper = some v → Json.null.merge v = v := by
    intro v _
    cases v <;> rfl
  cases base with
  | object below =>
    have hfilter : (lookup? key upper).filter (fun v => !v.isNull) = lookup? key upper := by
      cases hv : lookup? key upper with
      | none => rfl
      | some v => rw [Option.filter_some, hnull _ (mem_of_lookup? hv)]; rfl
    have hlookup := @lookup?_mergeMembers below upper hupper key
    rw [hfilter] at hlookup
    exact hlookup
  | _ =>
    show lookup? key upper = _
    cases hv : lookup? key upper with
    | none => rfl
    | some v => exact congrArg some (hplain v hv).symm

/-! ### Values without nulls -/

mutual

theorem canonical_stripNulls : ∀ {j : Json}, Canonical j → Canonical (stripNulls j)
  | .null, _ => trivial
  | .bool _, _ => trivial
  | .number _, _ => trivial
  | .string _, _ => trivial
  | .array _, h => canonicalItems_stripItems h
  | .object _, h => ⟨keysSorted_stripMembers h.1, canonicalMembers_stripMembers h.2⟩

theorem canonicalItems_stripItems :
    ∀ {items : List Json}, CanonicalItems items → CanonicalItems (stripItems items)
  | [], _ => trivial
  | _ :: _, h => ⟨canonical_stripNulls h.1, canonicalItems_stripItems h.2⟩

theorem canonicalMembers_stripMembers :
    ∀ {ms : Members}, CanonicalMembers ms → CanonicalMembers (stripMembers ms)
  | [], _ => trivial
  | (_, _) :: _, h => by
    rw [stripMembers]
    split
    · exact canonicalMembers_stripMembers h.2
    · exact ⟨canonical_stripNulls h.1, canonicalMembers_stripMembers h.2⟩

theorem keysSorted_stripMembers : ∀ {ms : Members}, KeysSorted ms → KeysSorted (stripMembers ms)
  | [], h => h
  | (_, _) :: _, h => by
    obtain ⟨hk, hms⟩ := keysSorted_cons.mp h
    rw [stripMembers]
    split
    · exact keysSorted_stripMembers hms
    · exact keysSorted_cons.mpr ⟨lt_of_mem_stripMembers hk, keysSorted_stripMembers hms⟩

end

/-- Items that have no nulls stay as they are. -/
theorem stripItems_of_forall {items : List Json} (h : ∀ j ∈ items, stripNulls j = j) :
    stripItems items = items := by
  induction items with
  | nil => rfl
  | cons j items ih =>
    obtain ⟨hj, hitems⟩ := List.forall_mem_cons.mp h
    rw [stripItems, hj, ih hitems]

/-! ### Records -/

open Expect

section
variable {ρ : Type} {fields : List (Expect.Field ρ)}

theorem isSome_field?_iff {name : String} :
    (field? fields name).isSome ↔ name ∈ fields.map Expect.Field.name := by
  simp [field?, List.find?_isSome, List.mem_map]

/-- Members that are not fields are passed over. -/
theorem storeMembers_filter (ms : Members) (r : ρ) :
    storeMembers fields (ms.filter fun m => (field? fields m.1).isSome) r =
      storeMembers fields ms r := by
  induction ms generalizing r with
  | nil => rfl
  | cons m ms ih =>
    obtain ⟨k, j⟩ := m
    cases hf : field? fields k with
    | none =>
      rw [List.filter_cons_of_neg (by simp [hf]), storeMembers, hf]
      exact ih r
    | some f =>
      have hothers := funext ih
      rw [List.filter_cons_of_pos (by simp [hf]), storeMembers, storeMembers, hf]
      dsimp only
      rw [hothers]

/-- A record reads the same from two objects that have the same values under the names of its
fields. -/
theorem storeMembers_congr {ms ms' : Members} (h : KeysSorted ms) (h' : KeysSorted ms')
    (hsame : ∀ k ∈ fields.map Expect.Field.name, lookup? k ms = lookup? k ms') (r : ρ) :
    storeMembers fields ms r = storeMembers fields ms' r := by
  -- left to the fields, both objects have the same members in the same order
  have hfilter : ms.filter (fun m => (field? fields m.1).isSome) =
      ms'.filter (fun m => (field? fields m.1).isSome) := by
    apply eq_of_mem_iff (h.filter _) (h'.filter _)
    intro m
    rw [List.mem_filter, List.mem_filter, mem_iff_lookup? h, mem_iff_lookup? h']
    constructor
    · rintro ⟨hm, hfield⟩
      exact ⟨hsame m.1 (isSome_field?_iff.mp hfield) ▸ hm, hfield⟩
    · rintro ⟨hm, hfield⟩
      exact ⟨(hsame m.1 (isSome_field?_iff.mp hfield)).symm ▸ hm, hfield⟩
  rw [← storeMembers_filter ms, hfilter, storeMembers_filter]

/-- A part of a record that one field sets, to what is read from its value, and no other field
changes. -/
structure SetBy {α : Type} (fields : List (Expect.Field ρ)) (part : ρ → α) (f : Expect.Field ρ)
    (read : Json → Except String α) : Prop where
  field : field? fields f.name = some f
  own {j : Json} {r r' : ρ} : f.store j r = .ok r' → read j = .ok (part r')
  other {g : Expect.Field ρ} : g ∈ fields → g.name ≠ f.name →
    ∀ {j : Json} {r r' : ρ}, g.store j r = .ok r' → part r' = part r

/-- A part of a record that has been read comes from the member with the name of its field, if there
is one, and is left as it was if there is none. -/
theorem SetBy.storeMembers {α : Type} {part : ρ → α} {f : Expect.Field ρ}
    {read : Json → Except String α} (hset : SetBy fields part f read) {ms : Members}
    (hms : KeysSorted ms) {r r' : ρ} (h : storeMembers fields ms r = .ok r') :
    (∀ v, lookup? f.name ms = some v → read v = .ok (part r')) ∧
      (lookup? f.name ms = none → part r' = part r) := by
  induction ms generalizing r with
  | nil =>
    cases h
    refine ⟨fun v hv => ?_, fun _ => rfl⟩
    cases hv
  | cons m ms ih =>
    obtain ⟨k, j⟩ := m
    obtain ⟨hk, hsorted⟩ := keysSorted_cons.mp hms
    rw [Expect.storeMembers] at h
    by_cases hname : f.name = k
    · subst hname
      -- the name comes once, so what has been stored is not changed by the others
      have hnone : lookup? f.name ms = none := by
        apply lookup?_eq_none
        intro m hm
        exact String.ne_of_lt (hk m hm)
      rw [hset.field] at h
      obtain ⟨q, hq, hrest⟩ := bind_eq_ok h
      have hread := hset.own hq
      rw [← (ih hsorted hrest).2 hnone] at hread
      rw [lookup?, if_pos rfl]
      refine ⟨fun v hv => ?_, fun hv => ?_⟩
      · cases hv
        exact hread
      · cases hv
    · rw [lookup?, if_neg hname]
      cases hf : field? fields k with
      | none =>
        rw [hf] at h
        exact ih hsorted h
      | some g =>
        rw [hf] at h
        obtain ⟨q, hq, hrest⟩ := bind_eq_ok h
        have hg : g.name = k := by simpa using List.find?_some hf
        have hkept : part q = part r :=
          hset.other (List.mem_of_find?_eq_some hf) (fun heq => hname (heq.symm.trans hg)) hq
        rw [← hkept]
        exact ih hsorted hrest

/-- The members of an object as they stand when it lies over some value, without nulls. -/
def overlaid (base : Json) (upper : Members) : Members :=
  upper.map fun m => (m.1, stripNulls (((base.get? m.1).getD .null).merge m.2))

theorem keysSorted_overlaid (base : Json) {upper : Members} (h : KeysSorted upper) :
    KeysSorted (overlaid base upper) := by
  rw [KeysSorted, overlaid, List.pairwise_map]
  exact h

/-- Under a key stands what the upper object has there, laid over what the lower one has, without
the nulls. -/
theorem lookup?_overlaid (base : Json) (upper : Members) (key : String) :
    lookup? key (overlaid base upper) =
      (lookup? key upper).map fun v => stripNulls (((base.get? key).getD .null).merge v) := by
  induction upper with
  | nil => rfl
  | cons m upper ih =>
    obtain ⟨k, v⟩ := m
    show lookup? key ((k, _) :: overlaid base upper) = _
    rw [lookup?, lookup?, ih]
    split
    · next heq => rw [heq]; rfl
    · rfl

/-- A record whose fields are all given by an object is read from that object, whatever it is laid
over. -/
theorem record_overlay {base : Json} {upper : Members} (hbase : Canonical base)
    (hupper : Canonical (.object upper)) (hnull : ∀ m ∈ upper, m.2.isNull = false)
    (hnames : ∀ k ∈ fields.map Expect.Field.name, k ∈ upper.map Prod.fst) (name : String) (r : ρ) :
    record name fields r (stripNulls (base.merge (.object upper))) =
      storeMembers fields (overlaid base upper) r := by
  have hsorted := (canonical_object.mp hupper).1
  have hget := get?_merge base hsorted hnull
  obtain ⟨ms, hms⟩ := exists_merge_object base upper
  have hmerged := hereditary_canonical.merge hbase hupper
  rw [hms] at hget hmerged ⊢
  have hmsorted := (canonical_object.mp hmerged).1
  show storeMembers fields (stripMembers ms) r = _
  apply storeMembers_congr (keysSorted_stripMembers hmsorted) (keysSorted_overlaid base hsorted)
  intro k hk
  obtain ⟨m, hm, rfl⟩ := List.mem_map.mp (hnames k hk)
  have hlookup := (mem_iff_lookup? hsorted).mp hm
  have hthere := hget m.1
  rw [hlookup] at hthere
  have hthere : lookup? m.1 ms = some (((base.get? m.1).getD .null).merge m.2) := hthere
  rw [lookup?_stripMembers hmsorted, lookup?_overlaid, hlookup, hthere]
  -- what lies on top is not null, so the merged value is not
  have hnot : (((base.get? m.1).getD .null).merge m.2).isNull = false := by
    have hv := hnull m hm
    cases hm2 : m.2 with
    | null => rw [hm2] at hv; cases hv
    | object upper =>
      cases (base.get? m.1).getD .null <;> rfl
    | _ => rfl
  rw [Option.filter_some, hnot]
  rfl

end

end CommandAgent.Json
