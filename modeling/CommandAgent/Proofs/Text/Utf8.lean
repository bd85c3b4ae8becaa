import CommandAgent.Text.Utf8
import Mathlib.Tactic.Common

/-!
# Text survives its bytes

A decoder that stands at the start of a character takes the bytes of one character back to it
(`strictFrom_encodeChar`), so text is decoded to itself (`decode?_encode`, `decodeLossy_encode`).
-/

namespace CommandAgent.Text.Utf8

/-! ### Bytes given as numbers -/

section
variable {n : Nat}

theorem toNat_ofNat (h : n < 256) : (UInt8.ofNat n).toNat = n := UInt8.toNat_ofNat_of_lt' h

theorem startStep_ofNat_of_lt (h : n < 0x80) :
    startStep (UInt8.ofNat n) = .emit (Char.ofNat n) := by
  have hn := toNat_ofNat (n := n) (by omega)
  have hlt : UInt8.ofNat n < 0x80 := UInt8.lt_iff_toNat_lt.mpr (by rw [hn]; exact h)
  rw [startStep, if_pos hlt, hn]

/-- A byte of a shape waits for what the shape tells of. -/
theorem startStep_ofNat_of_shape {sh : Shape} (hle : 0x80 ≤ n) (hlt : n < 256)
    (h : shape? (UInt8.ofNat n) = some sh) :
    startStep (UInt8.ofNat n) = .wait (.inside sh.more sh.low sh.high sh.payload) := by
  have hn := toNat_ofNat (n := n) (by omega)
  have hnot : ¬ UInt8.ofNat n < 0x80 := by
    rw [UInt8.lt_iff_toNat_lt, hn]
    exact Nat.not_lt.mpr hle
  rw [startStep, if_neg hnot, h]

/-- The shape that a leading byte announces, by its number. -/
theorem shape?_ofNat (h : n < 256) :
    shape? (UInt8.ofNat n) =
      if 0xC2 ≤ n ∧ n ≤ 0xDF then some ⟨1, 0x80, 0xBF, n - 0xC0⟩
      else if n = 0xE0 then some ⟨2, 0xA0, 0xBF, 0⟩
      else if n = 0xED then some ⟨2, 0x80, 0x9F, 0xD⟩
      else if 0xE1 ≤ n ∧ n ≤ 0xEF then some ⟨2, 0x80, 0xBF, n - 0xE0⟩
      else if n = 0xF0 then some ⟨3, 0x90, 0xBF, 0⟩
      else if 0xF1 ≤ n ∧ n ≤ 0xF3 then some ⟨3, 0x80, 0xBF, n - 0xF0⟩
      else if n = 0xF4 then some ⟨3, 0x80, 0x8F, 4⟩
      else none := by
  have hn := toNat_ofNat (n := n) (by omega)
  simp only [shape?, UInt8.le_iff_toNat_le, ← UInt8.toNat_inj, hn]
  rfl

/-- A continuation byte in the range that is wanted brings six bits more. -/
theorem insideStep_ofNat {low high : UInt8} (hlow : low.toNat ≤ n % 64 + 128)
    (hhigh : n % 64 + 128 ≤ high.toNat) (more : Nat) :
    insideStep more low high (n / 64) (UInt8.ofNat (n % 64 + 128)) =
      if more ≤ 1 then .emit (Char.ofNat n) else .wait (.inside (more - 1) 0x80 0xBF n) := by
  have hn := toNat_ofNat (n := n % 64 + 128) (by omega)
  have hrange : low ≤ UInt8.ofNat (n % 64 + 128) ∧ UInt8.ofNat (n % 64 + 128) ≤ high := by
    rw [UInt8.le_iff_toNat_le, UInt8.le_iff_toNat_le, hn]
    exact ⟨hlow, hhigh⟩
  have hvalue : n / 64 * 64 + (n % 64 + 128 - 128) = n := by omega
  rw [insideStep, if_pos hrange, hn, hvalue]

/-- Behind the second byte every continuation byte is in the range that is wanted. -/
theorem insideStep_later (n more : Nat) :
    insideStep more 0x80 0xBF (n / 64) (UInt8.ofNat (n % 64 + 128)) =
      if more ≤ 1 then .emit (Char.ofNat n) else .wait (.inside (more - 1) 0x80 0xBF n) := by
  apply insideStep_ofNat
  · show 128 ≤ n % 64 + 128
    omega
  · show n % 64 + 128 ≤ 191
    omega

end

/-! ### Leading bytes -/

/-- The leading byte of two announces a range in which the other lies. -/
theorem shape?_of_two {v : Nat} (hlow : 0x80 ≤ v) (hhigh : v < 0x800) :
    shape? (UInt8.ofNat (v / 64 % 32 + 192)) = some ⟨1, 0x80, 0xBF, v / 64⟩ := by
  have hpayload : v / 64 % 32 + 192 - 0xC0 = v / 64 := by omega
  rw [shape?_ofNat (by omega), if_pos (by omega), hpayload]

/-- The leading byte of three announces a range in which the second lies, if the character is no
surrogate. -/
theorem exists_shape?_of_three {v : Nat} (hlow : 0x800 ≤ v) (hhigh : v < 0x10000)
    (hsurrogate : v < 0xD800 ∨ 0xDFFF < v) :
    ∃ low high, shape? (UInt8.ofNat (v / 4096 % 16 + 224)) = some ⟨2, low, high, v / 4096⟩ ∧
      low.toNat ≤ v / 64 % 64 + 128 ∧ v / 64 % 64 + 128 ≤ high.toNat := by
  rw [shape?_ofNat (by omega), if_neg (by omega)]
  by_cases hzero : v / 4096 = 0
  · refine ⟨0xA0, 0xBF, ?_, ?_, ?_⟩
    · rw [if_pos (by omega), hzero]
    · show 160 ≤ _
      omega
    · show _ ≤ 191
      omega
  by_cases hthirteen : v / 4096 = 13
  · refine ⟨0x80, 0x9F, ?_, ?_, ?_⟩
    · rw [if_neg (by omega), if_pos (by omega), hthirteen]
    · show 128 ≤ _
      omega
    · show _ ≤ 159
      omega
  · refine ⟨0x80, 0xBF, ?_, ?_, ?_⟩
    · have hpayload : v / 4096 % 16 + 224 - 0xE0 = v / 4096 := by omega
      rw [if_neg (by omega), if_neg (by omega), if_pos (by omega), hpayload]
    · show 128 ≤ _
      omega
    · show _ ≤ 191
      omega

/-- The leading byte of four announces a range in which the second lies, if the character is one of
Unicode. -/
theorem exists_shape?_of_four {v : Nat} (hlow : 0x10000 ≤ v) (hhigh : v < 0x110000) :
    ∃ low high, shape? (UInt8.ofNat (v / 262144 % 8 + 240)) = some ⟨3, low, high, v / 262144⟩ ∧
      low.toNat ≤ v / 4096 % 64 + 128 ∧ v / 4096 % 64 + 128 ≤ high.toNat := by
  rw [shape?_ofNat (by omega), if_neg (by omega), if_neg (by omega), if_neg (by omega),
    if_neg (by omega)]
  by_cases hzero : v / 262144 = 0
  · refine ⟨0x90, 0xBF, ?_, ?_, ?_⟩
    · rw [if_pos (by omega), hzero]
    · show 144 ≤ _
      omega
    · show _ ≤ 191
      omega
  by_cases hfour : v / 262144 = 4
  · refine ⟨0x80, 0x8F, ?_, ?_, ?_⟩
    · rw [if_neg (by omega), if_neg (by omega), if_pos (by omega), hfour]
    · show 128 ≤ _
      omega
    · show _ ≤ 143
      omega
  · refine ⟨0x80, 0xBF, ?_, ?_, ?_⟩
    · have hpayload : v / 262144 % 8 + 240 - 0xF0 = v / 262144 := by omega
      rw [if_neg (by omega), if_pos (by omega), hpayload]
    · show 128 ≤ _
      omega
    · show _ ≤ 191
      omega

/-! ### Characters -/

/-- A decoder at the start of a character takes its bytes back to it. -/
theorem strictFrom_encodeChar (c : Char) (rest : Bytes) :
    strictFrom .start (String.utf8EncodeChar c ++ rest) =
      (strictFrom .start rest).map (c :: ·) := by
  have hsurrogate : c.toNat < 0xD800 ∨ 0xDFFF < c.toNat ∧ c.toNat < 0x110000 := c.valid
  have hc : Char.ofNat c.toNat = c := Char.ofNat_toNat c
  generalize hv : c.toNat = v at hsurrogate hc
  have hval : c.val.toNat = v := hv
  rw [String.utf8EncodeChar]
  simp only [hval]
  have hsix : v / 4096 = v / 64 / 64 := by omega
  have htwelve : v / 262144 = v / 4096 / 64 := by omega
  have hlast := insideStep_later v 1
  have hthird := insideStep_later (v / 64) 2
  rw [if_pos (by omega), hc] at hlast
  rw [if_neg (by omega), ← hsix] at hthird
  -- by the number of bytes, as the encoder goes
  split
  · have hstart := startStep_ofNat_of_lt (n := v) (by omega)
    simp only [List.cons_append, List.nil_append, strictFrom, hstart, hc]
  split
  · have hstart := startStep_ofNat_of_shape (by omega) (by omega)
      (shape?_of_two (v := v) (by omega) (by omega))
    simp only [List.cons_append, List.nil_append, strictFrom, hstart, hlast]
  split
  · obtain ⟨low, high, hshape, hlow, hhigh⟩ :=
      exists_shape?_of_three (v := v) (by omega) (by omega) (by omega)
    have hstart := startStep_ofNat_of_shape (by omega) (by omega) hshape
    have hsecond := insideStep_ofNat hlow hhigh 2
    rw [if_neg (by omega), ← hsix] at hsecond
    simp only [List.cons_append, List.nil_append, strictFrom, hstart, hsecond, hlast]
  · obtain ⟨low, high, hshape, hlow, hhigh⟩ :=
      exists_shape?_of_four (v := v) (by omega) (by omega)
    have hstart := startStep_ofNat_of_shape (by omega) (by omega) hshape
    have hsecond := insideStep_ofNat hlow hhigh 3
    rw [if_neg (by omega), ← htwelve] at hsecond
    simp only [List.cons_append, List.nil_append, strictFrom, hstart, hsecond, hthird, hlast]

theorem strictFrom_encodeChars (cs : List Char) :
    strictFrom .start (cs.flatMap String.utf8EncodeChar) = some cs := by
  induction cs with
  | nil => rfl
  | cons c cs ih => rw [List.flatMap_cons, strictFrom_encodeChar, ih, Option.map_some]

/-- Text is decoded to itself. -/
@[simp] theorem decode?_encode (s : String) : decode? (encode s) = some s := by
  rw [decode?, encode, strictFrom_encodeChars, Option.map_some, String.ofList_toList]

@[simp] theorem decodeLossy_encode (s : String) : decodeLossy (encode s) = s := by
  rw [decodeLossy, encode, lossyFrom_of_strictFrom (strictFrom_encodeChars s.toList),
    String.ofList_toList]

end CommandAgent.Text.Utf8
