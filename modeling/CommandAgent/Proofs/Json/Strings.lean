import CommandAgent.Proofs.Json.Scan

/-!
# Scanning strings

A string is read in two ways. Where its text counts, the escapes are resolved and the bytes that
come of it must be UTF-8 (`stringTail`); where it does not, only its form is looked at
(`ignoredString`). The opening quotation mark has been taken before.
-/

/-! ### Text -/

namespace CommandAgent.Text.Utf8

/-- Bytes that can be decoded have no broken character. -/
theorem firstInvalidFrom_of_strictFrom {st : State} {bs : Bytes} {cs : List Char}
    (h : strictFrom st bs = some cs) (begun offset : Nat) :
    firstInvalidFrom st begun offset bs = none := by
  induction bs generalizing st cs begun offset with
  | nil => cases st with
    | start => rfl
    | inside => cases h
  | cons b rest ih =>
    cases st with
    | start =>
      simp only [strictFrom] at h
      simp only [firstInvalidFrom]
      split at h
      · obtain ⟨u, hu, rfl⟩ := Option.map_eq_some_iff.mp h
        exact ih hu _ _
      · exact ih h _ _
      all_goals cases h
    | inside more low high value =>
      simp only [strictFrom] at h
      simp only [firstInvalidFrom]
      split at h
      · obtain ⟨u, hu, rfl⟩ := Option.map_eq_some_iff.mp h
        exact ih hu _ _
      · exact ih h _ _
      all_goals cases h

theorem firstInvalid?_of_decode? {bs : Bytes} {s : String} (h : decode? bs = some s) :
    firstInvalid? bs = none := by
  obtain ⟨cs, hcs, -⟩ := Option.map_eq_some_iff.mp h
  exact firstInvalidFrom_of_strictFrom hcs 0 0

end CommandAgent.Text.Utf8

namespace CommandAgent.Json

open Grammar

/-! ### Strings that are passed over -/

/-- What is passed over as a string is the inside of one, up to its quote. -/
theorem ignoredString_sound {i : Nat} {l : Bytes} {c : Cursor} (h : ignoredString i l = .ok c) :
    ∃ t, Inside t ∧ l = t ++ code '"' :: c.rest := by
  fun_induction ignoredString i l
  all_goals try cases h
  case case2.refl => exact ⟨[], .nil, rfl⟩
  case case4 hhex _ ih =>
    obtain ⟨t, ht, rfl⟩ := ih h
    exact ⟨_, .unicode hhex ht, rfl⟩
  case case7 hescaped _ ih =>
    obtain ⟨t, ht, rfl⟩ := ih h
    exact ⟨_, .escape hescaped ht, rfl⟩
  case case10 hquote hslash hcontrol ih =>
    obtain ⟨t, ht, rfl⟩ := ih h
    exact ⟨_, .plain hquote hslash hcontrol ht, rfl⟩

/-- A letter that stands for a byte is not the one before four digits. -/
theorem ne_of_escaped {e x : UInt8} (h : escaped? e = some x) : e ≠ code 'u' := by
  rintro rfl
  have hnone : escaped? (code 'u') = none := by decide
  rw [hnone] at h
  cases h

/-- The inside of a string is passed over up to its quote. -/
theorem ignoredString_complete {t : Bytes} (ht : Inside t) (r : Bytes) (i : Nat) :
    ∃ j, ignoredString i (t ++ code '"' :: r) = .ok ⟨j, r⟩ := by
  have hslash : ¬ code '\\' = code '"' := by decide
  induction ht generalizing i with
  | nil =>
    refine ⟨i + 1, ?_⟩
    rw [List.nil_append, ignoredString.eq_def]
    simp only [if_true]
  | @plain b t hquote hback hcontrol _ ih =>
    obtain ⟨j, hj⟩ := ih (i + 1)
    refine ⟨j, ?_⟩
    rw [List.cons_append, ignoredString.eq_def]
    simp only [hquote, hback, hcontrol, if_false, hj]
  | @escape e t hescaped _ ih =>
    obtain ⟨j, hj⟩ := ih (i + 2)
    obtain ⟨x, hx⟩ := Option.isSome_iff_exists.mp hescaped
    refine ⟨j, ?_⟩
    rw [List.cons_append, List.cons_append, ignoredString.eq_def]
    simp only [hslash, if_false, if_true, ne_of_escaped hx, hescaped, hj]
  | @unicode a b c d t hhex _ ih =>
    obtain ⟨j, hj⟩ := ih (i + 6)
    refine ⟨j, ?_⟩
    simp only [List.cons_append]
    rw [ignoredString.eq_def]
    simp only [hslash, if_false, if_true, hhex, hj]

/-! ### Strings that are read -/

theorem reverse_pushChar (n : Nat) (acc bytes : Bytes) :
    (pushChar n acc).reverse ++ bytes =
      acc.reverse ++ (String.utf8EncodeChar (Char.ofNat n) ++ bytes) := by
  rw [pushChar, List.reverse_append, List.reverse_reverse, List.append_assoc]

/-- The bytes of a string are those that its inside spells. -/
theorem stringBytes_sound {acc bytes : Bytes} {i : Nat} {l : Bytes} {c : Cursor}
    (h : stringBytes acc i l = .ok (bytes, c)) :
    ∃ t spelt, Spells t spelt ∧ bytes = acc.reverse ++ spelt ∧ l = t ++ code '"' :: c.rest := by
  fun_induction stringBytes acc i l
  all_goals try cases h
  case case2.refl => exact ⟨[], [], .nil, (List.append_nil _).symm, rfl⟩
  case case6 n hhex htrailing hleading _ ih =>
    obtain ⟨t, spelt, ht, rfl, rfl⟩ := ih h
    -- trailing surrogates have been refused, and leading ones take another branch
    have hn : ¬ (0xD800 ≤ n ∧ n ≤ 0xDFFF) := by omega
    exact ⟨_, _, .unicode hhex hn ht, reverse_pushChar _ _ _, rfl⟩
  case case13 n hhex htrailing hleading s hs u hu a b c d rest m hhex' hpair _ ih =>
    obtain ⟨t, spelt, ht, hbytes, rfl⟩ := ih h
    obtain rfl := Decidable.of_not_not hs
    obtain rfl := Decidable.of_not_not hu
    have hn : 0xD800 ≤ n ∧ n ≤ 0xDBFF := by omega
    have hm : 0xDC00 ≤ m ∧ m ≤ 0xDFFF := by omega
    exact ⟨_, _, .pair hhex hn hhex' hm ht, hbytes.trans (reverse_pushChar _ _ _), rfl⟩
  case case16 hescaped _ ih =>
    obtain ⟨t, spelt, ht, rfl, rfl⟩ := ih h
    refine ⟨_, _, .escape hescaped ht, ?_, rfl⟩
    rw [List.reverse_cons, List.append_assoc, List.singleton_append]
  case case19 hquote hslash hcontrol ih =>
    obtain ⟨t, spelt, ht, rfl, rfl⟩ := ih h
    refine ⟨_, _, .plain hquote hslash hcontrol ht, ?_, rfl⟩
    rw [List.reverse_cons, List.append_assoc, List.singleton_append]

/-- The inside of a string gives the bytes that it spells. -/
theorem stringBytes_complete {t spelt : Bytes} (ht : Spells t spelt) (r acc : Bytes) (i : Nat) :
    ∃ j, stringBytes acc i (t ++ code '"' :: r) = .ok (acc.reverse ++ spelt, ⟨j, r⟩) := by
  have hslash : ¬ code '\\' = code '"' := by decide
  -- the reader keeps what it has read backwards: the statement holds behind any such beginning
  induction ht generalizing acc i with
  | nil =>
    refine ⟨i + 1, ?_⟩
    rw [List.nil_append, stringBytes.eq_def, List.append_nil]
    simp only [if_true]
  | @plain b t spelt hquote hback hcontrol _ ih =>
    obtain ⟨j, hj⟩ := ih (b :: acc) (i + 1)
    refine ⟨j, ?_⟩
    rw [List.reverse_cons, List.append_assoc, List.singleton_append] at hj
    rw [List.cons_append, stringBytes.eq_def]
    simp only [hquote, hback, hcontrol, if_false, hj]
  | @escape e x t spelt hescaped _ ih =>
    obtain ⟨j, hj⟩ := ih (x :: acc) (i + 2)
    refine ⟨j, ?_⟩
    rw [List.reverse_cons, List.append_assoc, List.singleton_append] at hj
    rw [List.cons_append, List.cons_append, stringBytes.eq_def]
    simp only [hslash, if_false, if_true, ne_of_escaped hescaped, hescaped, hj]
  | @unicode a b c d n t spelt hhex hn _ ih =>
    obtain ⟨j, hj⟩ := ih (pushChar n acc) (i + 6)
    refine ⟨j, ?_⟩
    have htrailing : ¬ (0xDC00 ≤ n ∧ n ≤ 0xDFFF) := by omega
    have hleading : n < 0xD800 ∨ 0xDBFF < n := by omega
    rw [reverse_pushChar] at hj
    simp only [List.cons_append]
    rw [stringBytes.eq_def]
    simp only [hslash, if_false, if_true, hhex, htrailing, hleading, hj]
  | @pair a b c d a' b' c' d' n m t spelt hhex hn hhex' hm _ ih =>
    obtain ⟨j, hj⟩ := ih (pushChar (paired n m) acc) (i + 12)
    refine ⟨j, ?_⟩
    have htrailing : ¬ (0xDC00 ≤ n ∧ n ≤ 0xDFFF) := by omega
    have hleading : ¬ (n < 0xD800 ∨ 0xDBFF < n) := by omega
    have hpair : ¬ (m < 0xDC00 ∨ 0xDFFF < m) := by omega
    rw [reverse_pushChar, paired] at hj
    simp only [List.cons_append]
    rw [stringBytes.eq_def]
    simp only [hslash, if_false, if_true, hhex, hhex', htrailing, hleading, hpair, ne_eq,
      not_true_eq_false, hj]
    rfl

/-- What is read behind the opening quote reads as the text, up to the closing one. -/
theorem stringTail_sound {c c' : Cursor} {s : String} (h : stringTail c = .ok (s, c')) :
    ∃ t, Reads t s ∧ c.rest = t ++ code '"' :: c'.rest := by
  rw [stringTail] at h
  cases hbytes : stringBytes [] c.index c.rest with
  | error f =>
    rw [hbytes] at h
    cases h
  | ok read =>
    obtain ⟨bytes, behind⟩ := read
    obtain ⟨t, spelt, ht, hspelt, hrest⟩ := stringBytes_sound hbytes
    obtain rfl : bytes = spelt := hspelt
    rw [hbytes] at h
    cases hdecode : Text.Utf8.decode? bytes with
    | none =>
      cases hvalid : Text.Utf8.firstInvalid? bytes <;>
        simp [bind, Except.bind, hvalid, hdecode, throw, throwThe, MonadExceptOf.throw] at h
    | some s' =>
      have hvalid := Text.Utf8.firstInvalid?_of_decode? hdecode
      simp only [bind, Except.bind, hvalid, hdecode] at h
      cases h
      exact ⟨t, ⟨bytes, ht, hdecode⟩, hrest⟩

/-- An inside that reads as a text is read so. -/
theorem stringTail_complete {t : Bytes} {s : String} (ht : Reads t s) (r : Bytes) (i : Nat) :
    ∃ j, stringTail ⟨i, t ++ code '"' :: r⟩ = .ok (s, ⟨j, r⟩) := by
  obtain ⟨bytes, hspells, hdecode⟩ := ht
  obtain ⟨j, hj⟩ := stringBytes_complete hspells r [] i
  have hvalid := Text.Utf8.firstInvalid?_of_decode? hdecode
  refine ⟨j, ?_⟩
  rw [List.reverse_nil, List.nil_append] at hj
  simp only [stringTail, bind, Except.bind, hj, hvalid, hdecode]
  rfl

end CommandAgent.Json
