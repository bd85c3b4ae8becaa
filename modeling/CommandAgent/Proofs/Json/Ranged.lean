import CommandAgent.Json.Expect
import CommandAgent.Proofs.Json.Canonical
import CommandAgent.Proofs.Json.Spelling

/-!
# Integers of 64 bits

Every integer that the reader gives fits in 64 bits, with or without a sign (`ranged_of_parse`).
What is read from such a value into a record has what the readers of the single fields give it
(`record_keeps`).
-/

namespace CommandAgent.Json

/-! ### Values -/

/-- The number is a double, or an integer of 64 bits. -/
def Number.Ranged : Number → Prop
  | .integer n => -(Nat.pow 2 63 : Int) ≤ n ∧ n ≤ maxWord
  | .double _ => True

mutual

/-- Every integer in the value is one of 64 bits. -/
def Ranged : Json → Prop
  | .number n => Number.Ranged n
  | .array items => RangedItems items
  | .object ms => RangedMembers ms
  | _ => True

/-- Every integer in a list of values is one of 64 bits. -/
def RangedItems : List Json → Prop
  | [] => True
  | j :: rest => Ranged j ∧ RangedItems rest

/-- Every integer in the values of members is one of 64 bits. -/
def RangedMembers : List (String × Json) → Prop
  | [] => True
  | (_, j) :: rest => Ranged j ∧ RangedMembers rest

end

theorem rangedItems_iff {items : List Json} : RangedItems items ↔ ∀ j ∈ items, Ranged j := by
  induction items with
  | nil => simp [RangedItems]
  | cons j items ih => simp [RangedItems, ih]

theorem ranged_object {ms : Members} : Ranged (.object ms) ↔ ∀ m ∈ ms, Ranged m.2 := by
  rw [Ranged]
  induction ms with
  | nil => simp [RangedMembers]
  | cons m ms ih =>
    obtain ⟨k, j⟩ := m
    simp [RangedMembers, ih]

/-- Being within range passes from the members to the object. -/
theorem hereditary_ranged : Hereditary Ranged where
  nil := trivial
  insert := by
    intro ms v key hms hv
    rw [ranged_object] at hms ⊢
    intro m hm
    rcases mem_insertMember hm with rfl | hm
    · exact hv
    · exact hms m hm
  cons := by
    intro m ms h
    rw [ranged_object] at h ⊢
    exact List.forall_mem_cons.mp h
  array := rangedItems_iff

mutual

theorem ranged_stripNulls : ∀ {j : Json}, Ranged j → Ranged (stripNulls j)
  | .null, _ => trivial
  | .bool _, _ => trivial
  | .number _, h => h
  | .string _, _ => trivial
  | .array _, h => rangedItems_stripItems h
  | .object _, h => rangedMembers_stripMembers h

theorem rangedItems_stripItems :
    ∀ {items : List Json}, RangedItems items → RangedItems (stripItems items)
  | [], _ => trivial
  | _ :: _, h => ⟨ranged_stripNulls h.1, rangedItems_stripItems h.2⟩

theorem rangedMembers_stripMembers :
    ∀ {ms : Members}, RangedMembers ms → RangedMembers (stripMembers ms)
  | [], _ => trivial
  | (_, _) :: _, h => by
    rw [stripMembers]
    split
    · exact rangedMembers_stripMembers h.2
    · exact ⟨ranged_stripNulls h.1, rangedMembers_stripMembers h.2⟩

end

/-! ### Numbers that are read -/

/-- A significand never outgrows 64 bits. -/
theorem gather_le {s : Nat} (hs : s ≤ maxWord) (ds : List Nat) : (gather s ds).1 ≤ maxWord := by
  induction ds generalizing s with
  | nil => exact hs
  | cons d ds ih =>
    rw [gather]
    split
    · next hle => exact ih hle
    · exact hs

section
variable {negative : Bool} {significand : Nat} {shift : Int} {c c' : Cursor} {n : Number}

theorem ranged_plainDouble (h : plainDouble negative significand shift c = .ok (n, c')) :
    Number.Ranged n := by
  rw [plainDouble] at h
  split at h
  · cases h
    trivial
  · cases h

/-- A number read with its exponent is within range. -/
theorem ranged_withExponent (h : withExponent negative significand shift c = .ok (n, c')) :
    Number.Ranged n := by
  obtain ⟨⟨⟨below, ds⟩, d⟩, -, hrest⟩ := bind_eq_ok h
  dsimp only at hrest
  split at hrest
  · split at hrest
    · cases hrest
    · cases hrest
      trivial
  · split at hrest
    · cases hrest
      trivial
    · cases hrest

/-- A number read with its fraction is within range. -/
theorem ranged_fractionPart (h : fractionPart negative significand shift c = .ok (n, c')) :
    Number.Ranged n := by
  simp only [fractionPart] at h
  split at h
  · cases h
  split at h
  · exact ranged_withExponent h
  · exact ranged_plainDouble h

/-- A number is within range whatever it goes on with. -/
theorem ranged_numberTail (h : numberTail negative c = .ok (n, c')) : Number.Ranged n := by
  have hgathered := gather_le (Nat.zero_le maxWord) (digits c).1
  replace h := behindDigits_of_numberTail h
  simp only [behindDigits] at h
  split at h
  · exact ranged_fractionPart h
  split at h
  · exact ranged_withExponent h
  split at h
  · exact ranged_plainDouble h
  split at h
  · cases h
    exact ⟨by omega, Int.ofNat_le.mpr hgathered⟩
  split at h
  · next hfits =>
    cases h
    exact ⟨by omega, by omega⟩
  · cases h
    trivial

end

theorem ofParts_ranged : OfParts Ranged where
  toHereditary := hereditary_ranged
  null := trivial
  bool _ := trivial
  string _ := trivial
  number h := ranged_numberTail h

/-- Every integer that the reader gives is one of 64 bits. -/
theorem ranged_of_parse {input : Bytes} {j : Json} (h : parse input = .ok j) : Ranged j :=
  ofParts_ranged.parse h

/-! ### Records that are read -/

open Expect

section
variable {ρ : Type} {fields : List (Expect.Field ρ)} {Q : Json → Prop} {I : ρ → Prop}

/-- Storing the members keeps what each field keeps. -/
theorem storeMembers_keeps
    (hstore : ∀ f ∈ fields, ∀ {j r r'}, Q j → I r → f.store j r = .ok r' → I r') {ms : Members}
    (hms : ∀ m ∈ ms, Q m.2) {r r' : ρ} (hr : I r) (h : storeMembers fields ms r = .ok r') :
    I r' := by
  -- on the members, with the record as those before have left it
  induction ms generalizing r with
  | nil =>
    cases h
    exact hr
  | cons m ms ih =>
    obtain ⟨k, j⟩ := m
    obtain ⟨hj, hms⟩ := List.forall_mem_cons.mp hms
    rw [storeMembers] at h
    cases hf : field? fields k with
    | none =>
      rw [hf] at h
      exact ih hms hr h
    | some f =>
      rw [hf] at h
      obtain ⟨q, hq, hrest⟩ := bind_eq_ok h
      exact ih hms (hstore f (List.mem_of_find?_eq_some hf) hj hr hq) hrest

/-- What every field keeps when it is stored is kept when all items are stored. -/
theorem storeItems_keeps
    (hstore : ∀ f ∈ fields, ∀ {j r r'}, Q j → I r → f.store j r = .ok r' → I r')
    {items : List Json} (hitems : ∀ j ∈ items, Q j) {r r' : ρ} {extra : Nat} (hr : I r)
    (h : storeItems fields items r = .ok (extra, r')) : I r' := by
  -- on the fields, which take one item each
  induction fields generalizing items r with
  | nil =>
    cases items <;> cases h <;> exact hr
  | cons f fields ih =>
    obtain ⟨hf, hfields⟩ := List.forall_mem_cons.mp hstore
    cases items with
    | nil =>
      cases h
      exact hr
    | cons j items =>
      obtain ⟨hj, hitems⟩ := List.forall_mem_cons.mp hitems
      obtain ⟨q, hq, hrest⟩ := bind_eq_ok h
      exact ih hfields hitems (hf hj hr hq) hrest

/-- A record has what its defaults have and each field keeps. -/
theorem record_keeps (hQ : Hereditary Q)
    (hstore : ∀ f ∈ fields, ∀ {j r r'}, Q j → I r → f.store j r = .ok r' → I r') {name : String}
    {default r : ρ} {j : Json} (hj : Q j) (hdefault : I default)
    (h : record name fields default j = .ok r) : I r := by
  cases j with
  | object ms => exact storeMembers_keeps hstore (fun m hm => hQ.of_mem hj hm) hdefault h
  | array items =>
    obtain ⟨⟨extra, q⟩, hq, hrest⟩ := bind_eq_ok h
    have hkept := storeItems_keeps hstore (hQ.array.mp hj) hdefault hq
    dsimp only at hrest
    split at hrest
    · cases hrest
      exact hkept
    · cases hrest
  | _ => cases h

/-- A list has in every item what its reader gives it. -/
theorem forall_list {α : Type} {read : Json → Except String α} {P : α → Prop} (hQ : Hereditary Q)
    (hread : ∀ {j x}, Q j → read j = .ok x → P x) {j : Json} {xs : List α} (hj : Q j)
    (h : list read j = .ok xs) : ∀ x ∈ xs, P x := by
  cases j with
  | array items =>
    have hitems := hQ.array.mp hj
    replace h : items.mapM read = .ok xs := h
    clear hj
    induction items generalizing xs with
    | nil =>
      cases h
      exact fun x hx => absurd hx List.not_mem_nil
    | cons j items ih =>
      obtain ⟨hj, hitems⟩ := List.forall_mem_cons.mp hitems
      rw [List.mapM_cons] at h
      obtain ⟨x, hx, hrest⟩ := bind_eq_ok h
      obtain ⟨rest, hothers, hend⟩ := bind_eq_ok hrest
      cases hend
      exact List.forall_mem_cons.mpr ⟨hread hj hx, ih hitems hothers⟩
  | _ => cases h

end

end CommandAgent.Json
