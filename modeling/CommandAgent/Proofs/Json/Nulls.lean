import CommandAgent.Proofs.Json.Canonical

/-!
# Members that are null

Dropping the members that are null commutes with laying one value over another
(`stripNulls_merge`): it is the same to drop them from the merged value or from the two values
before they are merged. So a merged value without nulls depends on nothing but what is left of both
without theirs.
-/

namespace CommandAgent.Json

@[simp] theorem isNull_stripNulls (j : Json) : (stripNulls j).isNull = j.isNull := by
  cases j <;> rfl

@[simp] theorem isObject_stripNulls (j : Json) : (stripNulls j).isObject = j.isObject := by
  cases j <;> rfl

/-! ### Keys -/

theorem keysSorted_cons {k : String} {v : Json} {ms : Members} :
    KeysSorted ((k, v) :: ms) ↔ (∀ m ∈ ms, k < m.1) ∧ KeysSorted ms :=
  List.pairwise_cons

/-- A member whose key comes before all others is put first. -/
theorem insertMember_of_lt {key : String} {ms : Members} (h : ∀ m ∈ ms, key < m.1) (v : Json) :
    insertMember key v ms = (key, v) :: ms := by
  cases ms with
  | nil => rfl
  | cons m ms => rw [insertMember, if_pos (h m List.mem_cons_self)]

/-- What is left of the members has keys that were there before. -/
theorem exists_mem_of_mem_stripMembers {m : String × Json} {ms : Members}
    (h : m ∈ stripMembers ms) : ∃ v, (m.1, v) ∈ ms ∧ v.isNull = false ∧ m.2 = stripNulls v := by
  induction ms with
  | nil => cases h
  | cons m' ms ih =>
    obtain ⟨k, v⟩ := m'
    rw [stripMembers] at h
    split at h
    · obtain ⟨w, hw, hnull⟩ := ih h
      exact ⟨w, List.mem_cons_of_mem _ hw, hnull⟩
    · next hv =>
      rcases List.mem_cons.mp h with rfl | h
      · exact ⟨v, List.mem_cons_self, Bool.eq_false_iff.mpr hv, rfl⟩
      · obtain ⟨w, hw, hnull⟩ := ih h
        exact ⟨w, List.mem_cons_of_mem _ hw, hnull⟩

theorem isNull_of_mem_stripMembers {ms : Members} : ∀ m ∈ stripMembers ms, m.2.isNull = false := by
  intro m hm
  obtain ⟨v, -, hnull, heq⟩ := exists_mem_of_mem_stripMembers hm
  rw [heq, isNull_stripNulls, hnull]

theorem lt_of_mem_stripMembers {key : String} {ms : Members} (h : ∀ m ∈ ms, key < m.1) :
    ∀ m ∈ stripMembers ms, key < m.1 := by
  intro m hm
  obtain ⟨v, hv, -⟩ := exists_mem_of_mem_stripMembers hm
  exact h (m.1, v) hv

/-! ### Members without nulls -/

/-- Under a key stands what stood there before, unless that was null. -/
theorem lookup?_stripMembers {ms : Members} (hms : KeysSorted ms) (key : String) :
    lookup? key (stripMembers ms) =
      ((lookup? key ms).filter (fun v => !v.isNull)).map stripNulls := by
  induction ms with
  | nil => rfl
  | cons m ms ih =>
    obtain ⟨k, v⟩ := m
    obtain ⟨hk, hms⟩ := keysSorted_cons.mp hms
    by_cases hkey : key = k
    · subst hkey
      cases hv : v.isNull with
      | true =>
        -- the key is found no more, as it stands but once
        have hnone : lookup? key (stripMembers ms) = none := by
          apply lookup?_eq_none
          intro m hm
          exact String.ne_of_lt (lt_of_mem_stripMembers hk m hm)
        rw [stripMembers, if_pos hv, hnone, lookup?, if_pos rfl, Option.filter_some, hv]
        rfl
      | false =>
        have hnot : ¬ v.isNull = true := by rw [hv]; exact Bool.false_ne_true
        rw [stripMembers, if_neg hnot, lookup?, if_pos rfl, lookup?, if_pos rfl,
          Option.filter_some, hv]
        rfl
    · rw [stripMembers, lookup?, if_neg hkey, ← ih hms]
      split
      · rfl
      · rw [lookup?, if_neg hkey]

/-- What stands under a key in a value without nulls. -/
theorem get?_stripNulls {j : Json} (h : Canonical j) (key : String) :
    (stripNulls j).get? key = ((j.get? key).filter (fun v => !v.isNull)).map stripNulls := by
  cases j with
  | object ms => exact lookup?_stripMembers (canonical_object.mp h).1 key
  | _ => rfl

/-- A member that is not null may be put in its place before or after. -/
theorem stripMembers_insertMember {ms : Members} (hms : KeysSorted ms) (key : String) {v : Json}
    (hv : v.isNull = false) :
    stripMembers (insertMember key v ms) = insertMember key (stripNulls v) (stripMembers ms) := by
  have hnot : ¬ v.isNull = true := by rw [hv]; exact Bool.false_ne_true
  induction ms with
  | nil =>
    show (if v.isNull = true then stripMembers [] else (key, stripNulls v) :: stripMembers []) = _
    rw [if_neg hnot]
    rfl
  | cons m ms ih =>
    obtain ⟨k, w⟩ := m
    obtain ⟨hk, hms⟩ := keysSorted_cons.mp hms
    rw [insertMember]
    split
    · next hlt =>
      have hbefore : ∀ m ∈ stripMembers ((k, w) :: ms), key < m.1 := by
        apply lt_of_mem_stripMembers
        intro m hm
        rcases List.mem_cons.mp hm with rfl | hm
        · exact hlt
        · exact String.lt_trans hlt (hk m hm)
      rw [insertMember_of_lt hbefore, stripMembers, if_neg hnot]
    split
    · next hnlt heq =>
      subst heq
      rw [stripMembers, if_neg hnot, stripMembers]
      split
      · rw [insertMember_of_lt (lt_of_mem_stripMembers hk)]
      · rw [insertMember, if_neg hnlt, if_pos rfl]
    · next hnlt hne =>
      rw [stripMembers, stripMembers, ih hms]
      split
      · rfl
      · rw [insertMember, if_neg hnlt, if_neg hne]

/-! ### Merging -/

mutual

/-- It is the same to drop nulls before or after merging. -/
theorem stripNulls_merge {base : Json} (hbase : Canonical base) : ∀ {upper : Json},
    Canonical upper → stripNulls (base.merge upper) = (stripNulls base).merge (stripNulls upper)
  | .null, _ => rfl
  | .object upper, hupper => by
    cases base with
    | object below =>
      rw [merge, stripNulls, stripMembers_mergeMembers hbase hupper]
      rfl
    | _ => rfl
  | .bool _, _ => rfl
  | .number _, _ => rfl
  | .string _, _ => rfl
  | .array _, _ => rfl

/-- Null members may be taken out before or after objects are laid over each other. -/
theorem stripMembers_mergeMembers {below : Members} (hbelow : Canonical (.object below)) :
    ∀ {upper : Members}, Canonical (.object upper) →
      stripMembers (mergeMembers below upper) =
        mergeMembers (stripMembers below) (stripMembers upper)
  | [], _ => rfl
  | (k, v) :: rest, hupper => by
    obtain ⟨hv, hrest⟩ := hereditary_canonical.cons hupper
    have hone := hereditary_canonical.mergeMember k hbelow hv
    rw [mergeMembers, stripMembers_mergeMembers hone hrest, stripMembers_mergeMember k hbelow hv,
      stripMembers]
    cases hnull : v.isNull with
    | true =>
      rw [if_pos rfl]
      cases v <;> first | rfl | cases hnull
    | false =>
      rw [if_neg Bool.false_ne_true, mergeMembers]

/-- The same for one member, the induction being on its value. -/
theorem stripMembers_mergeMember (k : String) {below : Members}
    (hbelow : Canonical (.object below)) : ∀ {v : Json}, Canonical v →
      stripMembers (mergeMember below k v) = mergeMember (stripMembers below) k (stripNulls v)
  | .null, _ => rfl
  | .object upper, hv => by
    have hsorted := (canonical_object.mp hbelow).1
    rw [mergeMember, stripNulls, mergeMember, lookup?_stripMembers hsorted]
    cases hfound : lookup? k below with
    | none => exact stripMembers_insertMember hsorted k rfl
    | some w =>
      have hw := hereditary_canonical.of_lookup? hbelow hfound
      cases w with
      | object inner =>
        show stripMembers (insertMember k (.object (mergeMembers inner upper)) below) = _
        rw [stripMembers_insertMember hsorted k rfl, stripNulls,
          stripMembers_mergeMembers hw hv]
        rfl
      | _ => exact stripMembers_insertMember hsorted k rfl
  | .bool _, _ => stripMembers_insertMember (canonical_object.mp hbelow).1 k rfl
  | .number _, _ => stripMembers_insertMember (canonical_object.mp hbelow).1 k rfl
  | .string _, _ => stripMembers_insertMember (canonical_object.mp hbelow).1 k rfl
  | .array _, _ => stripMembers_insertMember (canonical_object.mp hbelow).1 k rfl

end

end CommandAgent.Json
