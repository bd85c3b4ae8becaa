import CommandAgent.Proofs.Text.Utf8
import Mathlib.Data.List.Basic

/-!
# What decoded text shows of its bytes

A character of lossily decoded text stands for its own bytes, or it is the replacement for bytes
that are not text (`Reads`). So a text without the replacement that stands in the decoded text
stands in the bytes too (`Reads.encoded_stands`): decoding joins no pieces across what it replaces.

`Begun` is the invariant of the decoder between two bytes: whatever completes the sequence that has
begun makes a character whose own bytes are the sequence.
-/

namespace CommandAgent.Text.Utf8

/-! ### The bytes of a character, from its number -/

section
variable {v : Nat}

theorem toNat_charOfNat (h : v.isValidChar) : (Char.ofNat v).val.toNat = v := by
  unfold Char.ofNat
  rw [dif_pos h]
  rfl

theorem encodeChar_of_one (h : v < 0x80) :
    String.utf8EncodeChar (Char.ofNat v) = [UInt8.ofNat v] := by
  have hv := toNat_charOfNat (v := v) (Or.inl (by omega))
  simp only [String.utf8EncodeChar, hv]
  rw [if_pos (by omega)]

theorem encodeChar_of_two (hlow : 0x80 ≤ v) (hhigh : v < 0x800) :
    String.utf8EncodeChar (Char.ofNat v) =
      [UInt8.ofNat (v / 64 % 32 + 192), UInt8.ofNat (v % 64 + 128)] := by
  have hv := toNat_charOfNat (v := v) (Or.inl (by omega))
  simp only [String.utf8EncodeChar, hv]
  rw [if_neg (by omega), if_pos (by omega)]

/-- A character from U+0800 on and below U+10000 has three bytes. -/
theorem encodeChar_of_three (hlow : 0x800 ≤ v) (hhigh : v < 0x10000)
    (hsurrogate : v < 0xD800 ∨ 0xDFFF < v) :
    String.utf8EncodeChar (Char.ofNat v) =
      [UInt8.ofNat (v / 4096 % 16 + 224), UInt8.ofNat (v / 64 % 64 + 128),
        UInt8.ofNat (v % 64 + 128)] := by
  have hv := toNat_charOfNat (v := v) (hsurrogate.imp_right fun h => ⟨h, by omega⟩)
  simp only [String.utf8EncodeChar, hv]
  rw [if_neg (by omega), if_neg (by omega), if_pos (by omega)]

theorem encodeChar_of_four (hlow : 0x10000 ≤ v) (hhigh : v < 0x110000) :
    String.utf8EncodeChar (Char.ofNat v) =
      [UInt8.ofNat (v / 262144 % 8 + 240), UInt8.ofNat (v / 4096 % 64 + 128),
        UInt8.ofNat (v / 64 % 64 + 128), UInt8.ofNat (v % 64 + 128)] := by
  have hv := toNat_charOfNat (v := v) (Or.inr ⟨by omega, hhigh⟩)
  simp only [String.utf8EncodeChar, hv]
  rw [if_neg (by omega), if_neg (by omega), if_neg (by omega)]

end

/-! ### Sequences that have begun -/

/-- The value of a sequence with one continuation byte more. -/
def extend (value : Nat) (b : UInt8) : Nat := value * 64 + (b.toNat - 0x80)

/-- A byte that continues a sequence. -/
def IsTail (b : UInt8) : Prop := 0x80 ≤ b ∧ b ≤ 0xBF

/-- The bytes seen since the last character have brought the decoder into this state: if the bytes
that are still wanted come, they and those make one character. -/
def Begun : State → Bytes → Prop
  | .start, seen => seen = []
  | .inside more low high value, seen =>
    0 < more ∧ ∀ b rest, rest.length + 1 = more → low ≤ b → b ≤ high → (∀ x ∈ rest, IsTail x) →
      String.utf8EncodeChar (Char.ofNat ((b :: rest).foldl extend value)) = seen ++ b :: rest

theorem begun_start : Begun .start [] := rfl

theorem isTail_iff {b : UInt8} : IsTail b ↔ 128 ≤ b.toNat ∧ b.toNat ≤ 191 := by
  rw [IsTail, UInt8.le_iff_toNat_le, UInt8.le_iff_toNat_le]
  rfl

theorem ofNat_eq_of_toNat {b : UInt8} {n : Nat} (h : n = b.toNat) : UInt8.ofNat n = b := by
  rw [h, UInt8.ofNat_toNat]

section
variable {b low high : UInt8} {payload : Nat}

/-- A byte that opens a sequence of two has begun a character. -/
theorem begun_two (hb : b.toNat = payload + 192) (hlow : 2 ≤ payload) (hhigh : payload < 32) :
    Begun (.inside 1 0x80 0xBF payload) [b] := by
  refine ⟨Nat.one_pos, ?_⟩
  intro x rest hlength hxlow hxhigh htails
  obtain rfl : rest = [] := List.eq_nil_of_length_eq_zero (by simpa using hlength)
  obtain ⟨hx, hx'⟩ := isTail_iff.mp ⟨hxlow, hxhigh⟩
  show String.utf8EncodeChar (Char.ofNat (payload * 64 + (x.toNat - 128))) = [b, x]
  rw [encodeChar_of_two (by omega) (by omega), ofNat_eq_of_toNat (b := b) (by omega),
    ofNat_eq_of_toNat (b := x) (by omega)]

/-- Of three bytes, the range of the second keeps out what would fit in two, and the surrogates. -/
theorem begun_three (hb : b.toNat = payload + 224) (hhigh : payload < 16)
    (hrange : ∀ n, low.toNat ≤ n → n ≤ high.toNat → 128 ≤ n ∧ n ≤ 191 ∧
      (payload = 0 → 160 ≤ n) ∧ (payload = 13 → n ≤ 159)) :
    Begun (.inside 2 low high payload) [b] := by
  refine ⟨Nat.two_pos, ?_⟩
  intro x rest hlength hxlow hxhigh htails
  obtain ⟨y, rfl⟩ := List.length_eq_one_iff.mp (by simpa using hlength)
  obtain ⟨hx, hx', hzero, hthirteen⟩ :=
    hrange x.toNat (UInt8.le_iff_toNat_le.mp hxlow) (UInt8.le_iff_toNat_le.mp hxhigh)
  obtain ⟨hy, hy'⟩ := isTail_iff.mp (htails y (List.mem_singleton_self y))
  show String.utf8EncodeChar (Char.ofNat
    ((payload * 64 + (x.toNat - 128)) * 64 + (y.toNat - 128))) = [b, x, y]
  rw [encodeChar_of_three (by omega) (by omega) (by omega), ofNat_eq_of_toNat (b := b) (by omega),
    ofNat_eq_of_toNat (b := x) (by omega), ofNat_eq_of_toNat (b := y) (by omega)]

/-- Of four bytes, the range of the second keeps out what would fit in three, and what is beyond
the last character. -/
theorem begun_four (hb : b.toNat = payload + 240) (hhigh : payload < 5)
    (hrange : ∀ n, low.toNat ≤ n → n ≤ high.toNat → 128 ≤ n ∧ n ≤ 191 ∧
      (payload = 0 → 144 ≤ n) ∧ (payload = 4 → n ≤ 143)) :
    Begun (.inside 3 low high payload) [b] := by
  refine ⟨by decide, ?_⟩
  intro x rest hlength hxlow hxhigh htails
  obtain ⟨y, z, rfl⟩ := List.length_eq_two.mp (by simpa using hlength)
  obtain ⟨hx, hx', hzero, hfour⟩ :=
    hrange x.toNat (UInt8.le_iff_toNat_le.mp hxlow) (UInt8.le_iff_toNat_le.mp hxhigh)
  obtain ⟨hy, hy'⟩ := isTail_iff.mp (htails y (by simp))
  obtain ⟨hz, hz'⟩ := isTail_iff.mp (htails z (by simp))
  show String.utf8EncodeChar (Char.ofNat
    (((payload * 64 + (x.toNat - 128)) * 64 + (y.toNat - 128)) * 64 + (z.toNat - 128))) =
      [b, x, y, z]
  rw [encodeChar_of_four (by omega) (by omega), ofNat_eq_of_toNat (b := b) (by omega),
    ofNat_eq_of_toNat (b := x) (by omega), ofNat_eq_of_toNat (b := y) (by omega),
    ofNat_eq_of_toNat (b := z) (by omega)]

/-- A leading byte begins a sequence: its shape admits no form that is too long, no surrogate and
nothing beyond the last character. -/
theorem begun_of_shape {sh : Shape} (h : shape? b = some sh) :
    Begun (.inside sh.more sh.low sh.high sh.payload) [b] := by
  rw [← UInt8.ofNat_toNat (x := b), shape?_ofNat b.toNat_lt] at h
  -- one case for each line of the table of leading bytes
  repeat' split at h
  all_goals cases h
  all_goals dsimp only
  · exact begun_two (by omega) (by omega) (by omega)
  · exact begun_three (by omega) (by omega) (fun n hlow hhigh => by
      change 160 ≤ n at hlow; change n ≤ 191 at hhigh; omega)
  · exact begun_three (by omega) (by omega) (fun n hlow hhigh => by
      change 128 ≤ n at hlow; change n ≤ 159 at hhigh; omega)
  · exact begun_three (by omega) (by omega) (fun n hlow hhigh => by
      change 128 ≤ n at hlow; change n ≤ 191 at hhigh; omega)
  · exact begun_four (by omega) (by omega) (fun n hlow hhigh => by
      change 144 ≤ n at hlow; change n ≤ 191 at hhigh; omega)
  · exact begun_four (by omega) (by omega) (fun n hlow hhigh => by
      change 128 ≤ n at hlow; change n ≤ 191 at hhigh; omega)
  · exact begun_four (by omega) (by omega) (fun n hlow hhigh => by
      change 128 ≤ n at hlow; change n ≤ 143 at hhigh; omega)

end

/-! ### Steps -/

/-- A byte that is a character by itself is its encoding. -/
theorem encodeChar_of_startStep {b : UInt8} {c : Char} (h : startStep b = .emit c) :
    String.utf8EncodeChar c = [b] := by
  unfold startStep at h
  split at h
  · next hlt =>
    cases h
    rw [encodeChar_of_one (UInt8.lt_iff_toNat_lt.mp hlt), UInt8.ofNat_toNat]
  · split at h <;> cases h

/-- A byte that waits for others has begun a character. -/
theorem begun_of_startStep {b : UInt8} {s : State} (h : startStep b = .wait s) : Begun s [b] := by
  unfold startStep at h
  split at h
  · cases h
  · split at h
    · next hshape =>
      cases h
      exact begun_of_shape hshape
    · cases h

section
variable {more value : Nat} {low high b : UInt8} {seen : Bytes}

theorem insideStep_eq : insideStep more low high value b =
    if low ≤ b ∧ b ≤ high then
      if more ≤ 1 then .emit (Char.ofNat (extend value b))
      else .wait (.inside (more - 1) 0x80 0xBF (extend value b))
    else .broken := rfl

/-- The last byte that was wanted makes the character. -/
theorem encodeChar_of_insideStep (hseen : Begun (.inside more low high value) seen) {c : Char}
    (h : insideStep more low high value b = .emit c) :
    String.utf8EncodeChar c = seen ++ [b] := by
  obtain ⟨hpos, hcomplete⟩ := hseen
  rw [insideStep_eq] at h
  split at h
  · next hrange =>
    split at h
    · obtain rfl : Char.ofNat (extend value b) = c := Step.emit.inj h
      exact hcomplete b [] (by rw [List.length_nil]; omega) hrange.1 hrange.2 (by simp)
    · cases h
  · cases h

/-- A byte before the last goes on with the sequence. -/
theorem begun_of_insideStep (hseen : Begun (.inside more low high value) seen) {s : State}
    (h : insideStep more low high value b = .wait s) : Begun s (seen ++ [b]) := by
  obtain ⟨hpos, hcomplete⟩ := hseen
  rw [insideStep_eq] at h
  split at h
  · next hrange =>
    split at h
    · cases h
    · cases h
      refine ⟨by omega, ?_⟩
      intro x rest hlength hlow hhigh htails
      have hall : ∀ y ∈ x :: rest, IsTail y := by
        intro y hy
        rcases List.mem_cons.mp hy with rfl | hy
        · exact ⟨hlow, hhigh⟩
        · exact htails y hy
      have hdone := hcomplete b (x :: rest) (by rw [List.length_cons]; omega) hrange.1 hrange.2 hall
      rw [List.foldl_cons] at hdone
      rw [hdone, List.append_assoc]
      rfl
  · cases h

end

/-! ### Text and bytes -/

/-- Bytes and what they are read as: each character stands for its own bytes, or it is the
replacement for bytes that are not text. -/
inductive Reads : Bytes → List Char → Prop
  | nil : Reads [] []
  | char (c : Char) {bs : Bytes} {cs : List Char} :
    Reads bs cs → Reads (String.utf8EncodeChar c ++ bs) (c :: cs)
  | junk (bad : Bytes) {bs : Bytes} {cs : List Char} :
    Reads bs cs → Reads (bad ++ bs) (replacement :: cs)

/-- What is decoded from any state is read off the bytes seen and the bytes to come. -/
theorem reads_lossyFrom (bs : Bytes) {st : State} {seen : Bytes} (h : Begun st seen) :
    Reads (seen ++ bs) (lossyFrom st bs) := by
  induction bs generalizing st seen with
  | nil =>
    cases st with
    | start =>
      obtain rfl : seen = [] := h
      exact .nil
    | inside more low high value => exact .junk seen .nil
  | cons b rest ih =>
    -- a byte that cannot go on with a sequence is taken up again where characters begin
    have hstart : Reads (b :: rest) (lossyFrom .start (b :: rest)) := by
      simp only [lossyFrom]
      cases hstep : startStep b with
      | emit c =>
        have hc := Reads.char c (ih begun_start)
        rw [encodeChar_of_startStep hstep] at hc
        exact hc
      | wait s => exact ih (begun_of_startStep hstep)
      | refuse => exact .junk [b] (ih begun_start)
      | broken => exact .junk [b] (ih begun_start)
    cases st with
    | start =>
      obtain rfl : seen = [] := h
      exact hstart
    | inside more low high value =>
      simp only [lossyFrom]
      cases hstep : insideStep more low high value b with
      | emit c =>
        have hc := Reads.char c (ih begun_start)
        rw [encodeChar_of_insideStep h hstep, List.append_assoc] at hc
        exact hc
      | wait s =>
        have hs := ih (begun_of_insideStep h hstep)
        rw [List.append_assoc] at hs
        exact hs
      | refuse => exact .junk seen hstart
      | broken => exact .junk seen hstart

theorem reads_decodeLossy (bs : Bytes) : Reads bs (decodeLossy bs).toList := by
  rw [decodeLossy, String.toList_ofList]
  exact reads_lossyFrom bs begun_start

section
variable {bs : Bytes} {cs part : List Char}

/-- A beginning without replacements comes from its own bytes. -/
theorem Reads.encoded_begins (h : Reads bs cs) (hpart : part <+: cs) (hr : replacement ∉ part) :
    part.flatMap String.utf8EncodeChar <+: bs := by
  induction h generalizing part with
  | nil =>
    rw [List.prefix_nil.mp hpart]
    exact List.prefix_refl []
  | char c _ ih =>
    rcases List.prefix_cons_iff.mp hpart with rfl | ⟨rest, rfl, hrest⟩
    · exact List.nil_prefix
    · rw [List.flatMap_cons]
      apply (List.prefix_append_right_inj _).mpr
      exact ih hrest fun hmem => hr (List.mem_cons_of_mem c hmem)
  | junk bad _ ih =>
    rcases List.prefix_cons_iff.mp hpart with rfl | ⟨rest, rfl, hrest⟩
    · exact List.nil_prefix
    · exact absurd List.mem_cons_self hr

/-- A text without the replacement that stands in what is read stands in the bytes. -/
theorem Reads.encoded_stands (h : Reads bs cs) (hpart : part <:+: cs) (hr : replacement ∉ part) :
    part.flatMap String.utf8EncodeChar <:+: bs := by
  induction h with
  | nil =>
    rw [List.infix_nil.mp hpart]
    exact List.infix_refl []
  | char c hrest ih =>
    rcases List.infix_cons_iff.mp hpart with hprefix | hinfix
    · exact ((Reads.char c hrest).encoded_begins hprefix hr).isInfix
    · exact (ih hinfix).trans (List.suffix_append _ _).isInfix
  | junk bad hrest ih =>
    rcases List.infix_cons_iff.mp hpart with hprefix | hinfix
    · exact ((Reads.junk bad hrest).encoded_begins hprefix hr).isInfix
    · exact (ih hinfix).trans (List.suffix_append _ _).isInfix

end

theorem encode_infix_of_decodeLossy {s : String} {bs : Bytes}
    (h : s.toList <:+: (decodeLossy bs).toList) (hr : replacement ∉ s.toList) :
    encode s <:+: bs :=
  (reads_decodeLossy bs).encoded_stands h hr

end CommandAgent.Text.Utf8
