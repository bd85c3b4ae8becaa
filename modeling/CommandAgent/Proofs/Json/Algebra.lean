import CommandAgent.Proofs.Json.Overlay

/-!
# The laws of overlaying

Laying a document over another a second time, or over itself, changes nothing, and dropping the
members that are null can be done before or after (`overlay_laws`).

An object is told by what stands under its keys (`eq_of_lookup?`). So the laws are proved key by
key: what stands under a key of a merged object is merged from what stands there in both
(`lookup?_mergeMembers`), and these are parts of the two values (`byParts`).
-/

namespace CommandAgent.Json

/-! ### Parts of a value -/

/-- What holds of the single values, and of an array or an object if it holds of what is in it,
holds of every value. -/
@[elab_as_elim]
theorem byParts {motive : Json → Prop} (null : motive .null) (bool : ∀ b, motive (.bool b))
    (number : ∀ n, motive (.number n)) (string : ∀ s, motive (.string s))
    (array : ∀ items, (∀ j ∈ items, motive j) → motive (.array items))
    (object : ∀ ms, (∀ m ∈ ms, motive m.2) → motive (.object ms)) (j : Json) : motive j := by
  -- on the size, as the values in an array or an object stand in lists
  induction hsize : sizeOf j using Nat.strongRecOn generalizing j with
  | ind n ih =>
    subst hsize
    cases j with
    | null => exact null
    | bool b => exact bool b
    | number n => exact number n
    | string s => exact string s
    | array items =>
      refine array items fun j hj => ih (sizeOf j) ?_ j rfl
      have hless := List.sizeOf_lt_of_mem hj
      rw [Json.array.sizeOf_spec]
      omega
    | object ms =>
      refine object ms fun m hm => ih (sizeOf m.2) ?_ m.2 rfl
      have hvalue : sizeOf m = 1 + sizeOf m.1 + sizeOf m.2 := by cases m; rfl
      have hless := List.sizeOf_lt_of_mem hm
      rw [Json.object.sizeOf_spec]
      omega

/-- A value that is another one or stands inside it, at any depth. -/
inductive PartOf : Json → Json → Prop where
  | whole (j : Json) : PartOf j j
  | item {j item : Json} {items : List Json} : item ∈ items → PartOf j item →
    PartOf j (.array items)
  | member {j : Json} {m : String × Json} {ms : Members} : m ∈ ms → PartOf j m.2 →
    PartOf j (.object ms)

/-- Objects in order that have the same values under all keys are the same. -/
theorem eq_of_lookup? {ms ms' : Members} (h : KeysSorted ms) (h' : KeysSorted ms')
    (hsame : ∀ key, lookup? key ms = lookup? key ms') : ms = ms' := by
  apply eq_of_mem_iff h h'
  intro m
  rw [mem_iff_lookup? h, mem_iff_lookup? h', hsame]

/-! ### Values without nulls -/

theorem stripItems_eq_map (items : List Json) : stripItems items = items.map stripNulls := by
  induction items with
  | nil => rfl
  | cons j items ih => rw [stripItems, ih, List.map_cons]

/-- Members that have no nulls stay as they are. -/
theorem stripMembers_of_forall {ms : Members}
    (h : ∀ m ∈ ms, m.2.isNull = false ∧ stripNulls m.2 = m.2) : stripMembers ms = ms := by
  induction ms with
  | nil => rfl
  | cons m ms ih =>
    obtain ⟨k, v⟩ := m
    obtain ⟨⟨hnull, hv⟩, hms⟩ := List.forall_mem_cons.mp h
    rw [stripMembers, if_neg (Bool.eq_false_iff.mp hnull), hv, ih hms]

/-- No object in a value that has been stripped has a member that is null. -/
theorem isNull_of_partOf_stripNulls {ms : Members} {j : Json}
    (h : PartOf (.object ms) (stripNulls j)) : ∀ m ∈ ms, m.2.isNull = false := by
  induction j using byParts with
  | array items ih =>
    rw [stripNulls, stripItems_eq_map] at h
    cases h with
    | item hitem hpart =>
      obtain ⟨j, hj, rfl⟩ := List.mem_map.mp hitem
      exact ih j hj hpart
  | object members ih =>
    rw [stripNulls] at h
    cases h with
    | whole => exact isNull_of_mem_stripMembers
    | member hmember hpart =>
      obtain ⟨v, hv, -, heq⟩ := exists_mem_of_mem_stripMembers hmember
      rw [heq] at hpart
      exact ih _ hv hpart
  | _ => cases h

/-- There is nothing left to be dropped from a value that has been stripped. -/
theorem stripNulls_stripNulls (j : Json) : stripNulls (stripNulls j) = stripNulls j := by
  induction j using byParts with
  | array items ih =>
    rw [stripNulls, stripNulls, stripItems_of_forall]
    rw [stripItems_eq_map]
    exact List.forall_mem_map.mpr ih
  | object ms ih =>
    rw [stripNulls, stripNulls, stripMembers_of_forall]
    intro m hm
    obtain ⟨v, hv, hnull, heq⟩ := exists_mem_of_mem_stripMembers hm
    rw [heq, isNull_stripNulls]
    exact ⟨hnull, ih _ hv⟩
  | _ => rfl

/-! ### Overlaying -/

/-- A value laid over itself. -/
theorem merge_self {j : Json} (h : Canonical j) : j.merge j = j := by
  induction j using byParts with
  | object ms ih =>
    obtain ⟨hsorted, hms⟩ := canonical_object.mp h
    have hmerged := (canonical_object.mp (hereditary_canonical.mergeMembers h h)).1
    refine congrArg object (eq_of_lookup? hmerged hsorted fun key => ?_)
    rw [lookup?_mergeMembers hsorted]
    cases hv : lookup? key ms with
    | none => rfl
    | some v =>
      rw [Option.filter_some]
      cases hnull : v.isNull with
      | true => rfl
      | false =>
        have hmem := mem_of_lookup? hv
        exact congrArg some (ih _ hmem (hms _ hmem))
  | _ => rfl

/-- What has been laid over a value may be laid over it again. -/
theorem merge_merge_self {base upper : Json} (hbase : Canonical base) (hupper : Canonical upper) :
    (base.merge upper).merge upper = base.merge upper := by
  induction upper using byParts generalizing base with
  | null => rfl
  | object upper ih =>
    cases base with
    | object below =>
      obtain ⟨hsorted, hvalues⟩ := canonical_object.mp hupper
      have honce := hereditary_canonical.mergeMembers hbase hupper
      have htwice := hereditary_canonical.mergeMembers honce hupper
      refine congrArg object (eq_of_lookup? (canonical_object.mp htwice).1
        (canonical_object.mp honce).1 fun key => ?_)
      rw [lookup?_mergeMembers hsorted, lookup?_mergeMembers hsorted]
      cases hv : (lookup? key upper).filter (fun v => !v.isNull) with
      | none => rfl
      | some v =>
        have hmem := mem_of_lookup? (Option.filter_eq_some_iff.mp hv).1
        have hthere : Canonical ((lookup? key below).getD .null) := by
          cases hw : lookup? key below with
          | none => trivial
          | some w => exact hereditary_canonical.of_lookup? hbase hw
        exact congrArg some (ih _ hmem hthere (hvalues _ hmem))
    | _ => exact merge_self hupper
  | _ => rfl

/-- A member that is not null is laid over what stands under its key. -/
theorem get?_merge_of_ne_null {base upper : Json} (hupper : Canonical upper) {key : String}
    {v : Json} (hv : upper.get? key = some v) (hnull : v ≠ .null) :
    (base.merge upper).get? key = some (((base.get? key).getD .null).merge v) := by
  have hfilter : (some v).filter (fun v => !v.isNull) = some v := by
    cases v <;> first | rfl | exact absurd rfl hnull
  cases upper with
  | object upper =>
    cases base with
    | object below =>
      have hlookup := @lookup?_mergeMembers below upper (canonical_object.mp hupper).1 key
      rw [show lookup? key upper = some v from hv, hfilter] at hlookup
      exact hlookup
    | _ =>
      refine Eq.trans hv (congrArg some ?_)
      cases v <;> rfl
  | _ => cases hv

/-- Dropping nulls commutes with laying one document over another and leaves no object with a member
that is null; laying a document over another again, over itself, or dropping nulls again changes
nothing. Both are told key by key: what is not null is laid over what stands below it, and what is
null is dropped. -/
theorem overlay_laws {base upper : Json} (hbase : Canonical base) (hupper : Canonical upper) :
    stripNulls (base.merge upper) = (stripNulls base).merge (stripNulls upper) ∧
      (∀ ms, PartOf (.object ms) (stripNulls (base.merge upper)) → ∀ m ∈ ms, m.2 ≠ .null) ∧
      (base.merge upper).merge upper = base.merge upper ∧
      base.merge base = base ∧
      stripNulls (stripNulls base) = stripNulls base ∧
      (∀ key v, upper.get? key = some v → v ≠ .null →
        (base.merge upper).get? key = some (((base.get? key).getD .null).merge v)) ∧
      (∀ key, (stripNulls base).get? key =
        ((base.get? key).filter (fun v => !v.isNull)).map stripNulls) := by
  refine ⟨stripNulls_merge hbase hupper, ?_, merge_merge_self hbase hupper, merge_self hbase,
    stripNulls_stripNulls base, fun key v => get?_merge_of_ne_null hupper,
    get?_stripNulls hbase⟩
  intro ms hpart m hm hnull
  have hnot := isNull_of_partOf_stripNulls hpart m hm
  rw [hnull] at hnot
  cases hnot

/-- An envelope with a member that is null, inside another object and inside an array. -/
def nullsBelow : Json :=
  .object
    [("auth", .object [("address", .string "db"), ("db_name", .null)]),
      ("envs", .array [.object [("key", .null)]]), ("script", .string "sh")]

/-- A command set that has nulls where the envelope has values, and an object where it has none. -/
def nullsAbove : Json :=
  .object
    [("auth", .object [("address", .null), ("port", .nat 1521)]),
      ("envs", .null), ("script", .object [("path", .null)])]

/-- The laws at an envelope and a command set with nulls at several depths. -/
theorem overlay_laws_nulls :
    Canonical nullsBelow ∧ Canonical nullsAbove ∧
      stripNulls (nullsBelow.merge nullsAbove) =
        (stripNulls nullsBelow).merge (stripNulls nullsAbove) ∧
      (∀ ms, PartOf (.object ms) (stripNulls (nullsBelow.merge nullsAbove)) →
        ∀ m ∈ ms, m.2 ≠ .null) ∧
      (nullsBelow.merge nullsAbove).merge nullsAbove = nullsBelow.merge nullsAbove ∧
      nullsBelow.merge nullsBelow = nullsBelow ∧
      stripNulls (stripNulls nullsBelow) = stripNulls nullsBelow ∧
      (∀ key v, nullsAbove.get? key = some v → v ≠ .null →
        (nullsBelow.merge nullsAbove).get? key =
          some (((nullsBelow.get? key).getD .null).merge v)) ∧
      (∀ key, (stripNulls nullsBelow).get? key =
        ((nullsBelow.get? key).filter (fun v => !v.isNull)).map stripNulls) := by
  have hbelow : Canonical nullsBelow := by
    simp only [nullsBelow, Canonical, CanonicalItems, CanonicalMembers, KeysSorted]
    decide
  have habove : Canonical nullsAbove := by
    simp only [nullsAbove, nat, Canonical, CanonicalMembers, KeysSorted]
    decide
  exact ⟨hbelow, habove, overlay_laws hbelow habove⟩

end CommandAgent.Json
