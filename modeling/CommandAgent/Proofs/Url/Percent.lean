import CommandAgent.Url.Percent
import CommandAgent.Proofs.Text.Utf8

/-!
# Percent encoding and its undoing

What is written with percent signs has no character of its set (`forall_encodeWith`), so writing it
so once more changes nothing (`encodeWith_encodeWith`). Undoing the percent signs gives the bytes
that undoing those of the text itself would give (`decodeBytes_encodeWith`): percent signs are not
written with percent signs, so an escape that the text had before is undone too. A text without such
escapes comes back as it was (`decodeBytes_of_unescaped`).
-/

namespace CommandAgent.Url

/-! ### Sets -/

/-- A set leaves alone what escapes are made of. -/
structure Spares (mustEncode : Char → Bool) : Prop where
  percent : mustEncode '%' = false
  digit {c : Char} {n : Nat} : hexDigit? c = some n → mustEncode c = false

theorem hexDigit?_upperHex {n : Nat} (h : n < 16) : hexDigit? (upperHex n) = some n := by
  have hall : ∀ n < 16, hexDigit? (upperHex n) = some n := by decide
  exact hall n h

/-- The digits are these characters. -/
theorem mem_of_hexDigit? {c : Char} {n : Nat} (h : hexDigit? c = some n) :
    c ∈ "0123456789abcdefABCDEF".toList := by
  have hall : ∀ m < 103, (hexDigit? (Char.ofNat m)).isSome →
      Char.ofNat m ∈ "0123456789abcdefABCDEF".toList := by decide
  have hlt : c.toNat < 103 := by
    unfold hexDigit? at h
    dsimp only at h
    split at h
    · omega
    split at h
    · omega
    split at h
    · omega
    · cases h
  have hc := hall c.toNat hlt
  rw [Char.ofNat_toNat] at hc
  exact hc (by rw [h]; rfl)

theorem spares_of_any {mustEncode : Char → Bool}
    (h : "%0123456789abcdefABCDEF".toList.any mustEncode = false) : Spares mustEncode := by
  have hnone (c : Char) (hc : c ∈ "%0123456789abcdefABCDEF".toList) : mustEncode c = false :=
    Bool.eq_false_iff.mpr (List.any_eq_false.mp h c hc)
  exact ⟨hnone _ (by decide), fun hc => hnone _ (List.mem_cons_of_mem _ (mem_of_hexDigit? hc))⟩

theorem spares_isControl : Spares isControl := spares_of_any (by decide)

theorem spares_userSet : Spares userSet := spares_of_any (by decide)

theorem spares_pathSet : Spares pathSet := spares_of_any (by decide)

theorem spares_querySet : Spares querySet := spares_of_any (by decide)

theorem spares_fragmentSet : Spares fragmentSet := spares_of_any (by decide)

/-! ### Writing -/

section
variable {mustEncode : Char → Bool} {cs : List Char}

@[simp] theorem encodeWith_nil : encodeWith mustEncode [] = [] := rfl

theorem encodeWith_cons_of_mem {c : Char} (h : mustEncode c = true) (cs : List Char) :
    encodeWith mustEncode (c :: cs) =
      (String.utf8EncodeChar c).flatMap percentByte ++ encodeWith mustEncode cs := by
  rw [encodeWith, List.flatMap_cons, if_pos h]
  rfl

theorem encodeWith_cons_of_not_mem {c : Char} (h : mustEncode c = false) (cs : List Char) :
    encodeWith mustEncode (c :: cs) = c :: encodeWith mustEncode cs := by
  rw [encodeWith, List.flatMap_cons, h]
  rfl

/-- What is written is made of percent signs, digits and characters outside the set. -/
theorem forall_mem_encodeWith {Q : Char → Prop} (hpercent : Q '%')
    (hdigit : ∀ n < 16, Q (upperHex n)) (hkept : ∀ c ∈ cs, mustEncode c = false → Q c) :
    ∀ c ∈ encodeWith mustEncode cs, Q c := by
  intro d hd
  obtain ⟨c, hc, hd⟩ := List.mem_flatMap.mp hd
  split at hd
  · obtain ⟨b, -, hd⟩ := List.mem_flatMap.mp hd
    have hb := b.toNat_lt
    simp only [percentByte, List.mem_cons, List.not_mem_nil, or_false] at hd
    rcases hd with rfl | rfl | rfl
    · exact hpercent
    · exact hdigit _ (by omega)
    · exact hdigit _ (by omega)
  · next hkeep =>
    obtain rfl := List.mem_singleton.mp hd
    exact hkept d hc (Bool.eq_false_iff.mpr hkeep)

/-- No character of the set is left. -/
theorem forall_encodeWith (h : Spares mustEncode) (cs : List Char) :
    ∀ c ∈ encodeWith mustEncode cs, mustEncode c = false :=
  forall_mem_encodeWith h.percent (fun _ hn => h.digit (hexDigit?_upperHex hn)) fun _ _ hc => hc

theorem encodeWith_of_forall (h : ∀ c ∈ cs, mustEncode c = false) :
    encodeWith mustEncode cs = cs := by
  induction cs with
  | nil => rfl
  | cons c cs ih =>
    obtain ⟨hc, hcs⟩ := List.forall_mem_cons.mp h
    rw [encodeWith_cons_of_not_mem hc, ih hcs]

/-- What has been written once stays as it is. -/
@[simp] theorem encodeWith_encodeWith (h : Spares mustEncode) (cs : List Char) :
    encodeWith mustEncode (encodeWith mustEncode cs) = encodeWith mustEncode cs :=
  encodeWith_of_forall (forall_encodeWith h cs)

/-- A character of the set becomes something that starts with a percent sign. -/
theorem exists_encodeWith_cons {c : Char} (h : mustEncode c = true) (cs : List Char) :
    ∃ t, encodeWith mustEncode (c :: cs) = '%' :: t := by
  have hne : String.utf8EncodeChar c ≠ [] := by
    intro hnil
    have hlength := congrArg List.length hnil
    rw [String.length_utf8EncodeChar] at hlength
    exact absurd hlength (Nat.ne_of_gt c.utf8Size_pos)
  obtain ⟨b, bs, hbytes⟩ := List.exists_cons_of_ne_nil hne
  rw [encodeWith_cons_of_mem h, hbytes]
  exact ⟨_, rfl⟩

theorem encodeWith_eq_nil_iff : encodeWith mustEncode cs = [] ↔ cs = [] := by
  cases cs with
  | nil => simp
  | cons c cs =>
    cases hc : mustEncode c with
    | false => simp [encodeWith_cons_of_not_mem hc]
    | true =>
      obtain ⟨t, ht⟩ := exists_encodeWith_cons hc cs
      simp [ht]

theorem ofList_encodeWith_eq_empty_iff {s : String} :
    String.ofList (encodeWith mustEncode s.toList) = "" ↔ s = "" := by
  rw [String.ofList_eq_empty_iff, encodeWith_eq_nil_iff, String.toList_eq_nil_iff]

end

/-! ### Undoing -/

/-- The byte that two digits behind a percent sign stand for, and what follows them. -/
def escaped? : List Char → Option (UInt8 × List Char)
  | a :: b :: cs =>
    match hexDigit? a, hexDigit? b with
    | some x, some y => some (UInt8.ofNat (16 * x + y), cs)
    | _, _ => none
  | _ => none

/-- A percent sign is read with the two digits behind it, or stays as it is. -/
theorem decodeBytes_percent (cs : List Char) :
    decodeBytes ('%' :: cs) =
      match escaped? cs with
      | some (b, rest) => b :: decodeBytes rest
      | none => 0x25 :: decodeBytes cs := by
  match cs with
  | [] => rfl
  | [_] => rfl
  | a :: b :: cs =>
    rw [decodeBytes, escaped?]
    cases hexDigit? a <;> cases hexDigit? b <;> rfl

theorem decodeBytes_cons {c : Char} (h : c ≠ '%') (cs : List Char) :
    decodeBytes (c :: cs) = String.utf8EncodeChar c ++ decodeBytes cs := by
  rw [decodeBytes]
  intro a b t hc
  exact absurd hc h

/-- A byte written with a percent sign is read back. -/
theorem decodeBytes_percentByte (b : UInt8) (cs : List Char) :
    decodeBytes (percentByte b ++ cs) = b :: decodeBytes cs := by
  have hb := b.toNat_lt
  have hhigh := hexDigit?_upperHex (n := b.toNat / 16) (by omega)
  have hlow := hexDigit?_upperHex (n := b.toNat % 16) (by omega)
  rw [percentByte, List.cons_append, decodeBytes_percent]
  simp only [List.cons_append, List.nil_append, escaped?, hhigh, hlow]
  rw [Nat.div_add_mod, UInt8.ofNat_toNat]

theorem decodeBytes_percentBytes (bs : Bytes) (cs : List Char) :
    decodeBytes (bs.flatMap percentByte ++ cs) = bs ++ decodeBytes cs := by
  induction bs with
  | nil => rfl
  | cons b bs ih =>
    rw [List.flatMap_cons, List.append_assoc, decodeBytes_percentByte, ih, List.cons_append]

section
variable {mustEncode : Char → Bool}

/-- What is written starts with no digit if the text does not. -/
theorem exists_encodeWith_cons_of_undigit (mustEncode : Char → Bool) {c : Char}
    (h : hexDigit? c = none) (cs : List Char) :
    ∃ d t, encodeWith mustEncode (c :: cs) = d :: t ∧ hexDigit? d = none := by
  cases hc : mustEncode c with
  | false => exact ⟨c, _, encodeWith_cons_of_not_mem hc cs, h⟩
  | true =>
    obtain ⟨t, ht⟩ := exists_encodeWith_cons hc cs
    exact ⟨'%', t, ht, rfl⟩

theorem escaped?_of_undigit {a : Char} (h : hexDigit? a = none) (cs : List Char) :
    escaped? (a :: cs) = none := by
  cases cs with
  | nil => rfl
  | cons b cs => simp only [escaped?, h]

theorem escaped?_cons_of_undigit {b : Char} (h : hexDigit? b = none) (a : Char) (cs : List Char) :
    escaped? (a :: b :: cs) = none := by
  rw [escaped?, h]
  cases hexDigit? a <;> rfl

/-- An escape of the text is one of what is written. -/
theorem escaped?_encodeWith (h : Spares mustEncode) (cs : List Char) :
    escaped? (encodeWith mustEncode cs) =
      (escaped? cs).map fun e => (e.1, encodeWith mustEncode e.2) := by
  cases cs with
  | nil => rfl
  | cons a cs =>
  cases ha : hexDigit? a with
  | none =>
    obtain ⟨d, t, ht, hd⟩ := exists_encodeWith_cons_of_undigit mustEncode ha cs
    rw [ht, escaped?_of_undigit hd, escaped?_of_undigit ha]
    rfl
  | some x =>
    rw [encodeWith_cons_of_not_mem (h.digit ha)]
    cases cs with
    | nil => rfl
    | cons b cs =>
    cases hb : hexDigit? b with
    | none =>
      obtain ⟨d, t, ht, hd⟩ := exists_encodeWith_cons_of_undigit mustEncode hb cs
      rw [ht, escaped?_cons_of_undigit hd, escaped?_cons_of_undigit hb]
      rfl
    | some y =>
      rw [encodeWith_cons_of_not_mem (h.digit hb)]
      simp only [escaped?, ha, hb, Option.map_some]

theorem length_lt_of_escaped? {cs rest : List Char} {b : UInt8} (h : escaped? cs = some (b, rest)) :
    rest.length < cs.length := by
  unfold escaped? at h
  split at h
  · split at h
    · cases h
      simp only [List.length_cons]
      omega
    · cases h
  · cases h

/-- Undoing the percent signs of what is written is undoing those of the text. -/
theorem decodeBytes_encodeWith (h : Spares mustEncode) (cs : List Char) :
    decodeBytes (encodeWith mustEncode cs) = decodeBytes cs := by
  -- on the length, because an escape takes three characters at once
  induction hlength : cs.length using Nat.strongRecOn generalizing cs with
  | ind length ih =>
  cases cs with
  | nil => rfl
  | cons c cs =>
    rw [List.length_cons] at hlength
    have hcs := ih cs.length (by omega) cs rfl
    cases hc : mustEncode c with
    | true =>
      have hne : c ≠ '%' := by
        rintro rfl
        rw [h.percent] at hc
        cases hc
      rw [encodeWith_cons_of_mem hc, decodeBytes_percentBytes, decodeBytes_cons hne, hcs]
    | false =>
      rw [encodeWith_cons_of_not_mem hc]
      by_cases hpercent : c = '%'
      · subst hpercent
        rw [decodeBytes_percent, decodeBytes_percent, escaped?_encodeWith h]
        cases hescape : escaped? cs with
        | none => simp only [Option.map_none, hcs]
        | some e =>
          have hlt := length_lt_of_escaped? hescape
          simp only [Option.map_some, ih e.2.length (by omega) e.2 rfl]
      · rw [decodeBytes_cons hpercent, decodeBytes_cons hpercent, hcs]

end

/-- There is no percent sign with two digits behind it. -/
def Unescaped (cs : List Char) : Prop := ∀ rest, '%' :: rest <:+ cs → escaped? rest = none

/-- A text without escapes comes back as it was. -/
theorem decodeBytes_of_unescaped {cs : List Char} (h : Unescaped cs) :
    decodeBytes cs = cs.flatMap String.utf8EncodeChar := by
  induction cs with
  | nil => rfl
  | cons c cs ih =>
    have hcs := ih fun rest hrest => h rest (hrest.trans (List.suffix_cons c cs))
    by_cases hc : c = '%'
    · subst hc
      rw [decodeBytes_percent, h cs (List.suffix_refl _), hcs]
      rfl
    · rw [decodeBytes_cons hc, hcs, List.flatMap_cons]

end CommandAgent.Url
