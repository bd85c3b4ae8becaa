import CommandAgent.Proofs.Json.Tokens

/-!
# Reading the entries of frames

Arrays and objects that are read, not passed over, are read entry by entry: what comes before an
entry is taken first (`hasItem`, `hasKey`), then the entry is left to a reader of its own, and in
the end the frame is closed (`closeArray`, `closeObject`). The entries that are left are told by
`Entries`: before the first one there is nothing to take, and before every other one a comma.
-/

namespace CommandAgent.Json

open Grammar

/-! ### Entries -/

/-- What stands before an entry: nothing before the first, and a comma before every other. -/
inductive Before : (first : Bool) → Bytes → Prop
  | first : Before true []
  | comma {a : Bytes} : Blanks a → Before false (a ++ [code ','])

/-- The entries that are left in a frame, from the first or from another one on. -/
def Entries : (first : Bool) → List (Bytes × Bytes) → Bytes → Prop
  | true => Filling
  | false => Rest

theorem entries_nil {a : Bytes} (ha : Blanks a) (first : Bool) : Entries first [] a := by
  cases first with
  | true => exact .nil ha
  | false => exact .nil ha

theorem blanks_of_entries_nil {first : Bool} {t : Bytes} (h : Entries first [] t) : Blanks t := by
  cases first with
  | true => cases h; assumption
  | false => cases h; assumption

/-- An entry in front of the others, with what stands before it. -/
theorem entries_cons {first : Bool} {before lead v t : Bytes} {es : List (Bytes × Bytes)}
    (hbefore : Before first before) (h : Rest es t) :
    Entries first ((lead, v) :: es) (before ++ (lead ++ (v ++ t))) := by
  cases hbefore with
  | first => exact .cons h
  | comma ha =>
    rw [List.append_assoc, List.singleton_append]
    exact .cons ha h

/-- A text of several entries is the first of them and the rest. -/
theorem exists_of_entries_cons {first : Bool} {lead v t : Bytes} {es : List (Bytes × Bytes)}
    (h : Entries first ((lead, v) :: es) t) :
    ∃ before t', Before first before ∧ Rest es t' ∧ t = before ++ (lead ++ (v ++ t')) := by
  cases first with
  | true =>
    cases h with
    | cons h => exact ⟨[], _, .first, h, rfl⟩
  | false =>
    cases h with
    | @cons a _ _ t' _ ha h => exact ⟨a ++ [code ','], t', .comma ha, h, by simp⟩

theorem length_le_of_rest {es : List (Bytes × Bytes)} {t : Bytes} (h : Rest es t) :
    es.length ≤ t.length := by
  induction h with
  | nil _ => exact Nat.zero_le _
  | cons _ _ ih =>
    simp only [List.length_append, List.length_cons]
    omega

/-- Entries take a byte each, but for the first. -/
theorem length_le_of_entries {first : Bool} {es : List (Bytes × Bytes)} {t : Bytes}
    (h : Entries first es t) : es.length ≤ t.length + 1 := by
  cases es with
  | nil => exact Nat.zero_le _
  | cons e es =>
    obtain ⟨before, t', -, hrest, rfl⟩ := exists_of_entries_cons h
    have hlength := length_le_of_rest hrest
    simp only [List.length_append, List.length_cons]
    omega

/-! ### Before an entry -/

/-- What is found before an item of an array, by the first byte that is not blank. -/
theorem hasItem_cons {first : Bool} {c : Cursor} {b : UInt8} {t : Bytes} {i : Nat}
    (h : skipBlanks c = ⟨i, b :: t⟩) :
    hasItem first c =
      if b = code ']' then .ok (false, ⟨i, b :: t⟩)
      else if first then .ok (true, ⟨i, b :: t⟩)
      else if b = code ',' then
        match skipBlanks ⟨i + 1, t⟩ with
        | ⟨j, []⟩ => .error ((Cursor.mk j []).peekFault .eofInValue)
        | ⟨j, x :: u⟩ =>
          if x = code ']' then .error ((Cursor.mk j (x :: u)).peekFault .trailingComma)
          else .ok (true, ⟨j, x :: u⟩)
      else .error ((Cursor.mk i (b :: t)).peekFault .expectedCommaOrBracket) := by
  simp only [hasItem, h, Cursor.advance_cons]
  rcases skipBlanks ⟨i + 1, t⟩ with ⟨j, u⟩
  cases u <;> rfl

/-- There is another item behind a comma, or there is none before the bracket. -/
theorem hasItem_sound {first more : Bool} {c c' : Cursor} (h : hasItem first c = .ok (more, c')) :
    ∃ a, Blanks a ∧
      ((more = true ∧ ∃ before, Before first before ∧ c.rest = before ++ (a ++ c'.rest)) ∨
        (more = false ∧ c.rest = a ++ c'.rest)) := by
  obtain ⟨a, i, rest, ha, hrest, hc⟩ := skipBlanks_sound c
  rw [hrest]
  cases rest with
  | nil =>
    simp only [hasItem, hc] at h
    cases h
  | cons b t =>
    rw [hasItem_cons hc] at h
    split at h
    · cases h
      exact ⟨a, ha, .inr ⟨rfl, rfl⟩⟩
    split at h
    · next hfirst =>
      cases h
      rw [hfirst]
      exact ⟨a, ha, .inl ⟨rfl, [], .first, rfl⟩⟩
    split at h
    · next hfirst hcomma =>
      obtain ⟨b', j, u, hb', ht, hd⟩ := skipBlanks_sound ⟨i + 1, t⟩
      have ht : t = b' ++ u := ht
      rw [hd] at h
      cases u with
      | nil => cases h
      | cons x u =>
        dsimp only at h
        split at h
        · cases h
        · cases h
          rw [Bool.eq_false_iff.mpr hfirst, hcomma, ht]
          exact ⟨b', hb', .inl ⟨rfl, a ++ [code ','], .comma ha, by simp⟩⟩
    · cases h

theorem hasItem_end {a : Bytes} (ha : Blanks a) (first : Bool) (r : Bytes) (i : Nat) :
    ∃ j, hasItem first ⟨i, a ++ code ']' :: r⟩ = .ok (false, ⟨j, code ']' :: r⟩) := by
  obtain ⟨j, hj⟩ := skipBlanks_cons ha (by decide : isJsonBlank (code ']') = false) r i
  refine ⟨j, ?_⟩
  rw [hasItem_cons hj, if_pos rfl]

/-- Before an item that is there, the reader finds that there is one. -/
theorem hasItem_more {first : Bool} {before a r : Bytes} (hbefore : Before first before)
    (ha : Blanks a) (hr : Begins r) (i : Nat) :
    ∃ j, hasItem first ⟨i, before ++ (a ++ r)⟩ = .ok (true, ⟨j, r⟩) := by
  obtain ⟨x, u, rfl, hblank, hclosing⟩ := hr
  have hx : x ≠ code ']' := hclosing .array
  cases hbefore with
  | first =>
    obtain ⟨j, hj⟩ := skipBlanks_cons ha hblank u i
    refine ⟨j, ?_⟩
    rw [List.nil_append, hasItem_cons hj, if_neg hx, if_pos rfl]
  | @comma b hb =>
    obtain ⟨j, hj⟩ := skipBlanks_cons hb (by decide : isJsonBlank (code ',') = false)
      (a ++ x :: u) i
    obtain ⟨k, hk⟩ := skipBlanks_cons ha hblank u (j + 1)
    refine ⟨k, ?_⟩
    rw [List.append_assoc, List.singleton_append, hasItem_cons hj, if_neg (by decide),
      if_neg Bool.false_ne_true, if_pos rfl, hk]
    simp only [hx, if_false]

/-- What is found before a key of an object, by the first byte that is not blank. -/
theorem hasKey_cons {first : Bool} {c : Cursor} {b : UInt8} {t : Bytes} {i : Nat}
    (h : skipBlanks c = ⟨i, b :: t⟩) :
    hasKey first c =
      if b = code '\x7d' then .ok (false, ⟨i, b :: t⟩)
      else if first then
        if b = code '"' then .ok (true, ⟨i, b :: t⟩)
        else .error ((Cursor.mk i (b :: t)).peekFault .keyNotString)
      else if b = code ',' then
        match skipBlanks ⟨i + 1, t⟩ with
        | ⟨j, []⟩ => .error ((Cursor.mk j []).peekFault .eofInValue)
        | ⟨j, x :: u⟩ =>
          if x = code '"' then .ok (true, ⟨j, x :: u⟩)
          else if x = code '\x7d' then .error ((Cursor.mk j (x :: u)).peekFault .trailingComma)
          else .error ((Cursor.mk j (x :: u)).peekFault .keyNotString)
      else .error ((Cursor.mk i (b :: t)).peekFault .expectedCommaOrBrace) := by
  simp only [hasKey, h, Cursor.advance_cons]
  rcases skipBlanks ⟨i + 1, t⟩ with ⟨j, u⟩
  cases u <;> rfl

/-- There is another key behind a comma, or there is none before the brace. -/
theorem hasKey_sound {first more : Bool} {c c' : Cursor} (h : hasKey first c = .ok (more, c')) :
    ∃ a, Blanks a ∧
      ((more = true ∧ ∃ before t, Before first before ∧ c'.rest = code '"' :: t ∧
          c.rest = before ++ (a ++ c'.rest)) ∨
        (more = false ∧ c.rest = a ++ c'.rest)) := by
  obtain ⟨a, i, rest, ha, hrest, hc⟩ := skipBlanks_sound c
  rw [hrest]
  cases rest with
  | nil =>
    simp only [hasKey, hc] at h
    cases h
  | cons b t =>
    rw [hasKey_cons hc] at h
    split at h
    · cases h
      exact ⟨a, ha, .inr ⟨rfl, rfl⟩⟩
    split at h
    · next hfirst =>
      split at h
      · next hquote =>
        cases h
        rw [hfirst, hquote]
        exact ⟨a, ha, .inl ⟨rfl, [], t, .first, rfl, rfl⟩⟩
      · cases h
    split at h
    · next hfirst hcomma =>
      obtain ⟨b', j, u, hb', ht, hd⟩ := skipBlanks_sound ⟨i + 1, t⟩
      have ht : t = b' ++ u := ht
      rw [hd] at h
      cases u with
      | nil => cases h
      | cons x u =>
        dsimp only at h
        split at h
        · next hquote =>
          cases h
          rw [Bool.eq_false_iff.mpr hfirst, hcomma, ht, hquote]
          exact ⟨b', hb', .inl ⟨rfl, a ++ [code ','], u, .comma ha, rfl, by simp⟩⟩
        split at h
        · cases h
        · cases h
    · cases h

theorem hasKey_end {a : Bytes} (ha : Blanks a) (first : Bool) (r : Bytes) (i : Nat) :
    ∃ j, hasKey first ⟨i, a ++ code '\x7d' :: r⟩ = .ok (false, ⟨j, code '\x7d' :: r⟩) := by
  obtain ⟨j, hj⟩ := skipBlanks_cons ha (by decide : isJsonBlank (code '\x7d') = false) r i
  refine ⟨j, ?_⟩
  rw [hasKey_cons hj, if_pos rfl]

/-- Before a key that is there, the reader finds that there is one. -/
theorem hasKey_more {first : Bool} {before a : Bytes} (hbefore : Before first before)
    (ha : Blanks a) (r : Bytes) (i : Nat) :
    ∃ j, hasKey first ⟨i, before ++ (a ++ code '"' :: r)⟩ = .ok (true, ⟨j, code '"' :: r⟩) := by
  have hblank : isJsonBlank (code '"') = false := by decide
  have hquote : ¬ code '"' = code '\x7d' := by decide
  cases hbefore with
  | first =>
    obtain ⟨j, hj⟩ := skipBlanks_cons ha hblank r i
    refine ⟨j, ?_⟩
    rw [List.nil_append, hasKey_cons hj, if_neg hquote, if_pos rfl, if_pos rfl]
  | @comma b hb =>
    obtain ⟨j, hj⟩ := skipBlanks_cons hb (by decide : isJsonBlank (code ',') = false)
      (a ++ code '"' :: r) i
    obtain ⟨k, hk⟩ := skipBlanks_cons ha hblank r (j + 1)
    refine ⟨k, ?_⟩
    rw [List.append_assoc, List.singleton_append, hasKey_cons hj, if_neg (by decide),
      if_neg Bool.false_ne_true, if_pos rfl, hk]
    simp only [if_true]

/-! ### The closing of a frame -/

/-- An array that has been closed ends in blanks and its bracket. -/
theorem closeArray_sound {c c' : Cursor} (h : closeArray c = .ok c') :
    ∃ a, Blanks a ∧ c.rest = a ++ code ']' :: c'.rest := by
  obtain ⟨a, i, rest, ha, hrest, hskip⟩ := skipBlanks_sound c
  simp only [closeArray, hskip] at h
  cases rest with
  | nil => cases h
  | cons b t =>
    simp only [Cursor.advance_cons] at h
    split at h
    · next hb =>
      cases h
      exact ⟨a, ha, by rw [hrest, hb]⟩
    split at h
    · split at h <;> cases h
    · cases h

theorem closeArray_complete {a : Bytes} (ha : Blanks a) (r : Bytes) (i : Nat) :
    ∃ j, closeArray ⟨i, a ++ code ']' :: r⟩ = .ok ⟨j, r⟩ := by
  obtain ⟨j, hj⟩ := skipBlanks_cons ha (by decide : isJsonBlank (code ']') = false) r i
  refine ⟨j + 1, ?_⟩
  simp only [closeArray, hj, if_true, Cursor.advance_cons]

/-- An object that has been closed ends in blanks and its brace. -/
theorem closeObject_sound {c c' : Cursor} (h : closeObject c = .ok c') :
    ∃ a, Blanks a ∧ c.rest = a ++ code '\x7d' :: c'.rest := by
  obtain ⟨a, i, rest, ha, hrest, hskip⟩ := skipBlanks_sound c
  simp only [closeObject, hskip] at h
  cases rest with
  | nil => cases h
  | cons b t =>
    simp only [Cursor.advance_cons] at h
    split at h
    · next hb =>
      cases h
      exact ⟨a, ha, by rw [hrest, hb]⟩
    split at h
    · cases h
    · cases h

theorem closeObject_complete {a : Bytes} (ha : Blanks a) (r : Bytes) (i : Nat) :
    ∃ j, closeObject ⟨i, a ++ code '\x7d' :: r⟩ = .ok ⟨j, r⟩ := by
  obtain ⟨j, hj⟩ := skipBlanks_cons ha (by decide : isJsonBlank (code '\x7d') = false) r i
  refine ⟨j + 1, ?_⟩
  simp only [closeObject, hj, if_true, Cursor.advance_cons]

end CommandAgent.Json
