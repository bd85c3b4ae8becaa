import CommandAgent.Json.Printer
import CommandAgent.Proofs.Json.Numbers
import CommandAgent.Proofs.Json.Strings
import CommandAgent.Proofs.Text.Utf8

/-!
# Strings and integers are read as they were written

What stands between the quotation marks of a written string reads as the string
(`reads_inside`), and the digits of a written integer read as the integer, as long as it fits in 64
bits (`numberTail_decimal`).
-/

namespace CommandAgent.Json

open Grammar Text.Utf8

/-! ### Bytes of characters -/

def bytesOf (cs : List Char) : Bytes := cs.flatMap String.utf8EncodeChar

@[simp] theorem bytesOf_nil : bytesOf [] = [] := rfl

@[simp] theorem bytesOf_append (as bs : List Char) :
    bytesOf (as ++ bs) = bytesOf as ++ bytesOf bs := List.flatMap_append

theorem bytesOf_cons (c : Char) (cs : List Char) :
    bytesOf (c :: cs) = String.utf8EncodeChar c ++ bytesOf cs := rfl

theorem encodeChar_of_ascii {c : Char} (h : c.toNat < 0x80) :
    String.utf8EncodeChar c = [code c] := by
  have hle : c.val.toNat ≤ 127 := Nat.le_of_lt_succ h
  rw [String.utf8EncodeChar, if_pos hle]
  rfl

theorem bytesOf_cons_ascii {c : Char} (h : c.toNat < 0x80) (cs : List Char) :
    bytesOf (c :: cs) = code c :: bytesOf cs := by
  rw [bytesOf_cons, encodeChar_of_ascii h, List.singleton_append]

/-- ASCII takes one byte for each character. -/
theorem bytesOf_of_ascii {cs : List Char} (h : ∀ c ∈ cs, c.toNat < 0x80) :
    bytesOf cs = letters cs := by
  induction cs with
  | nil => rfl
  | cons c cs ih =>
    obtain ⟨hc, hcs⟩ := List.forall_mem_cons.mp h
    rw [bytesOf_cons_ascii hc, ih hcs]
    rfl

/-- A character that is no ASCII has bytes that are none. -/
theorem le_of_mem_encodeChar {c : Char} (h : 0x80 ≤ c.toNat) {b : UInt8}
    (hb : b ∈ String.utf8EncodeChar c) : 0x80 ≤ b.toNat := by
  have hlow : ¬ c.val.toNat ≤ 127 := Nat.not_le.mpr h
  rw [String.utf8EncodeChar, if_neg hlow] at hb
  generalize c.val.toNat = v at hb
  split at hb
  · simp only [List.mem_cons, List.not_mem_nil, or_false] at hb
    rcases hb with rfl | rfl <;> rw [toNat_ofNat (by omega)] <;> omega
  split at hb
  · simp only [List.mem_cons, List.not_mem_nil, or_false] at hb
    rcases hb with rfl | rfl | rfl <;> rw [toNat_ofNat (by omega)] <;> omega
  · simp only [List.mem_cons, List.not_mem_nil, or_false] at hb
    rcases hb with rfl | rfl | rfl | rfl <;> rw [toNat_ofNat (by omega)] <;> omega

/-! ### Strings -/

/-- Bytes that stand for themselves may come before what spells others. -/
theorem Grammar.Spells.append {bs t spelt : Bytes}
    (hbs : ∀ b ∈ bs, b ≠ code '"' ∧ b ≠ code '\\' ∧ ¬ b < 32) (h : Spells t spelt) :
    Spells (bs ++ t) (bs ++ spelt) := by
  induction bs with
  | nil => exact h
  | cons b bs ih =>
    obtain ⟨⟨hquote, hback, hcontrol⟩, hbs⟩ := List.forall_mem_cons.mp hbs
    exact .plain hquote hback hcontrol (ih hbs)

/-- The four digits of a control. -/
theorem hex4?_control {n : Nat} (h : n < 32) :
    hex4? (code '0') (code '0') (code (hexDigit (n / 16))) (code (hexDigit (n % 16))) = some n := by
  have hall : ∀ n < 32, hex4? (code '0') (code '0') (code (hexDigit (n / 16)))
      (code (hexDigit (n % 16))) = some n := by decide
  exact hall n h

theorem toNat_hexDigit_lt {n : Nat} (h : n < 16) : (hexDigit n).toNat < 0x80 := by
  have hall : ∀ n < 16, (hexDigit n).toNat < 0x80 := by decide
  exact hall n h

/-- The escape of a control by its number spells the control. -/
theorem spells_control {c : Char} (hlow : c.toNat < 32) {t spelt : Bytes} (h : Spells t spelt) :
    Spells (bytesOf ['\\', 'u', '0', '0', hexDigit (c.toNat / 16), hexDigit (c.toNat % 16)] ++ t)
      (String.utf8EncodeChar c ++ spelt) := by
  have hbytes : bytesOf ['\\', 'u', '0', '0', hexDigit (c.toNat / 16), hexDigit (c.toNat % 16)] =
      [code '\\', code 'u', code '0', code '0', code (hexDigit (c.toNat / 16)),
        code (hexDigit (c.toNat % 16))] := by
    apply bytesOf_of_ascii
    have hfirst : (hexDigit (c.toNat / 16)).toNat < 0x80 := toNat_hexDigit_lt (by omega)
    have hsecond : (hexDigit (c.toNat % 16)).toNat < 0x80 := toNat_hexDigit_lt (by omega)
    simp [hfirst, hsecond]
  have hspells := Spells.unicode (hex4?_control hlow) (by omega) h
  rw [Char.ofNat_toNat] at hspells
  rw [hbytes]
  exact hspells

/-- The bytes of a character that needs no escape stand for themselves. -/
theorem plain_of_mem_encodeChar {c : Char} (hquote : c ≠ '"') (hback : c ≠ '\\')
    (hlow : ¬ c.toNat < 32) {b : UInt8} (hb : b ∈ String.utf8EncodeChar c) :
    b ≠ code '"' ∧ b ≠ code '\\' ∧ ¬ b < 32 := by
  by_cases hascii : c.toNat < 0x80
  · rw [encodeChar_of_ascii hascii, List.mem_singleton] at hb
    subst hb
    have hcode : (code c).toNat = c.toNat := toNat_ofNat (by omega)
    have hne {d : Char} (hd : (code d).toNat = d.toNat) (hcd : c ≠ d) : code c ≠ code d := by
      intro heq
      apply hcd
      rw [← Char.toNat_inj, ← hcode, heq, hd]
    refine ⟨hne rfl hquote, hne rfl hback, ?_⟩
    rw [UInt8.lt_iff_toNat_lt, hcode]
    exact hlow
  · have hle := le_of_mem_encodeChar (Nat.not_lt.mp hascii) hb
    refine ⟨?_, ?_, ?_⟩
    · rintro rfl
      exact absurd hle (by decide)
    · rintro rfl
      exact absurd hle (by decide)
    · rw [UInt8.lt_iff_toNat_lt]
      show ¬ b.toNat < 32
      omega

/-- The escape of a character spells its bytes. -/
theorem spells_escapeChar (c : Char) {t spelt : Bytes} (h : Spells t spelt) :
    Spells (bytesOf (escapeChar c) ++ t) (String.utf8EncodeChar c ++ spelt) := by
  simp only [escapeChar]
  split
  · next hc => subst hc; exact .escape (by decide) h
  split
  · next hc => subst hc; exact .escape (by decide) h
  split
  · next hc => subst hc; exact .escape (by decide) h
  split
  · next hc => subst hc; exact .escape (by decide) h
  split
  · next hc => subst hc; exact .escape (by decide) h
  split
  · next hc => subst hc; exact .escape (by decide) h
  split
  · next hc => subst hc; exact .escape (by decide) h
  split
  · next hlow => exact spells_control hlow h
  · next hquote hback _ _ _ _ _ hlow =>
    rw [bytesOf_cons, bytesOf_nil, List.append_nil]
    exact h.append fun b hb => plain_of_mem_encodeChar hquote hback hlow hb

theorem spells_escaped (cs : List Char) :
    Spells (bytesOf (cs.flatMap escapeChar)) (bytesOf cs) := by
  induction cs with
  | nil => exact .nil
  | cons c cs ih =>
    rw [List.flatMap_cons, bytesOf_append, bytesOf_cons]
    exact spells_escapeChar c ih

/-- What stands between the quotation marks of a written string. -/
def inside (s : String) : Bytes := bytesOf (s.toList.flatMap escapeChar)

theorem reads_inside (s : String) : Reads (inside s) s :=
  ⟨encode s, spells_escaped s.toList, decode?_encode s⟩

theorem bytesOf_renderString (s : String) :
    bytesOf (renderString s) = code '"' :: (inside s ++ [code '"']) := by
  rw [renderString, List.cons_append, bytesOf_cons_ascii (by decide), bytesOf_append, inside]
  rfl

/-! ### Integers -/

def decimal (n : Nat) : Bytes := letters (Nat.toDigits 10 n)

theorem isDigit_code {c : Char} (h : c.isDigit = true) : isDigit (code c) = true := by
  simp only [Char.isDigit, Bool.and_eq_true, decide_eq_true_eq] at h
  have hlow : 48 ≤ c.toNat := UInt32.le_iff_toNat_le.mp h.1
  have hhigh : c.toNat ≤ 57 := UInt32.le_iff_toNat_le.mp h.2
  have hcode : (code c).toNat = c.toNat := toNat_ofNat (by omega)
  simp only [isDigit, Bool.and_eq_true, decide_eq_true_eq, UInt8.le_iff_toNat_le, hcode]
  exact ⟨hlow, hhigh⟩

theorem toNat_lt_of_isDigit {c : Char} (h : c.isDigit = true) : c.toNat < 0x80 := by
  simp only [Char.isDigit, Bool.and_eq_true, decide_eq_true_eq] at h
  have hhigh : c.toNat ≤ 57 := UInt32.le_iff_toNat_le.mp h.2
  omega

theorem isDigit_of_mem_toDigits {n : Nat} {c : Char} (h : c ∈ Nat.toDigits 10 n) :
    c.isDigit = true :=
  Nat.isDigit_of_mem_toDigits (by decide) (by decide) h

theorem isDigit_of_mem_decimal {n : Nat} {b : UInt8} (h : b ∈ decimal n) : isDigit b = true := by
  obtain ⟨c, hc, rfl⟩ := List.mem_map.mp h
  exact isDigit_code (isDigit_of_mem_toDigits hc)

theorem bytesOf_toString_nat (n : Nat) : bytesOf (toString n).toList = decimal n := by
  rw [Nat.toString_eq_repr, Nat.repr_eq_ofList_toDigits, String.toList_ofList]
  apply bytesOf_of_ascii
  intro c hc
  exact toNat_lt_of_isDigit (isDigit_of_mem_toDigits hc)

/-- The digits are read to their values. -/
theorem digits_complete {t r : Bytes} (ht : ∀ b ∈ t, isDigit b = true) (hr : Headless isDigit r)
    (i : Nat) : digits ⟨i, t ++ r⟩ = (t.map fun b => b.toNat - 48, ⟨i + t.length, r⟩) := by
  show digits.go i (t ++ r) = _
  induction t generalizing i with
  | nil =>
    cases r with
    | nil => rfl
    | cons b r =>
      have hb : ¬ isDigit b = true := by rw [hr b r rfl]; exact Bool.false_ne_true
      rw [List.nil_append, digits.go, if_neg hb]
      rfl
  | cons b t ih =>
    obtain ⟨hb, ht⟩ := List.forall_mem_cons.mp ht
    rw [List.cons_append, digits.go, if_pos hb, ih ht, List.map_cons, List.length_cons,
      Nat.add_assoc, Nat.add_comm 1]

theorem le_foldl_digits (ds : List Nat) (s : Nat) : s ≤ ds.foldl (fun s d => s * 10 + d) s := by
  induction ds generalizing s with
  | nil => exact Nat.le_refl s
  | cons d ds ih =>
    refine Nat.le_trans ?_ (ih (s * 10 + d))
    omega

/-- As long as the value fits in 64 bits, all digits are gathered. -/
theorem gather_of_le {ds : List Nat} {s : Nat} (h : ds.foldl (fun s d => s * 10 + d) s ≤ maxWord) :
    gather s ds = (ds.foldl (fun s d => s * 10 + d) s, 0) := by
  induction ds generalizing s with
  | nil => rfl
  | cons d ds ih =>
    have hle : s * 10 + d ≤ maxWord := Nat.le_trans (le_foldl_digits ds _) h
    rw [gather, if_pos hle]
    exact ih h

/-- The digits of a number have the number as their value. -/
theorem foldl_decimal (n : Nat) :
    ((decimal n).map fun b => b.toNat - 48).foldl (fun s d => s * 10 + d) 0 = n := by
  have hvalue := Nat.ofDigitChars_toDigits (b := 10) (n := n) (by decide) (by decide)
  have hcode : ∀ c ∈ Nat.toDigits 10 n, (code c).toNat - 48 = c.toNat - 48 := by
    intro c hc
    have hlow : c.toNat < 256 :=
      Nat.lt_trans (toNat_lt_of_isDigit (isDigit_of_mem_toDigits hc)) (by decide)
    rw [code, toNat_ofNat hlow]
  have hvalues : (decimal n).map (fun b => b.toNat - 48) =
      (Nat.toDigits 10 n).map fun c => c.toNat - 48 := by
    rw [decimal, letters, List.map_map]
    exact List.map_congr_left hcode
  have hzero : '0'.toNat = 48 := rfl
  rw [hvalues, List.foldl_map]
  simpa only [Nat.ofDigitChars, Nat.mul_comm, hzero] using hvalue

/-- The digits of a number begin with a zero only if it is zero. -/
theorem decimal_cases (n : Nat) :
    (n = 0 ∧ decimal n = [48]) ∨ ∃ b t, decimal n = b :: t ∧ b ≠ 48 := by
  induction n using Nat.strongRecOn with
  | ind n ih =>
    by_cases hsmall : n < 10
    · have hall : ∀ n < 10, (n = 0 ∧ decimal n = [48]) ∨
          ((decimal n).head? ≠ some 48 ∧ decimal n ≠ []) := by decide
      rcases hall n hsmall with h | ⟨hhead, hne⟩
      · exact .inl h
      · cases hd : decimal n with
        | nil => exact absurd hd hne
        | cons b t =>
          rw [hd] at hhead
          refine .inr ⟨b, t, rfl, ?_⟩
          rintro rfl
          exact hhead rfl
    · have hdecimal : decimal n = decimal (n / 10) ++ letters [(n % 10).digitChar] := by
        rw [decimal, Nat.toDigits_eq_if (by decide), if_neg hsmall, letters, List.map_append]
        rfl
      rcases ih (n / 10) (by omega) with ⟨hzero, -⟩ | ⟨b, t, hd, hb⟩
      · omega
      · rw [hdecimal, hd]
        exact .inr ⟨b, _, rfl, hb⟩

theorem decimal_ne_nil (n : Nat) : decimal n ≠ [] := by
  rcases decimal_cases n with ⟨-, h⟩ | ⟨b, t, h, -⟩
  · rw [h]
    exact List.cons_ne_nil _ _
  · rw [h]
    exact List.cons_ne_nil _ _

/-- What becomes of the digits of a number, by what stands behind them. -/
def behindDigits (negative : Bool) (ds : List Nat) (c : Cursor) : Except Fault (Number × Cursor) :=
  let (s, dropped) := gather 0 ds
  if atPoint c then fractionPart negative s dropped c
  else if atExponent c then withExponent negative s dropped c
  else if dropped ≠ 0 then plainDouble negative s dropped c
  else if ¬ negative then .ok (.integer s, c)
  else if s ≠ 0 ∧ s ≤ Nat.pow 2 63 then .ok (.integer (-s), c)
  else .ok (.double (Binary64.ofNat s).neg, c)

/-- A number begins with a digit, and not with a zero and a digit behind it. -/
theorem numberTail_cons {b : UInt8} {t : Bytes} (hb : isDigit b = true)
    (hlead : b ≠ 48 ∨ Headless isDigit t) (negative : Bool) (i : Nat) :
    numberTail negative ⟨i, b :: t⟩ =
      behindDigits negative (digits ⟨i, b :: t⟩).1 (digits ⟨i, b :: t⟩).2 := by
  rcases hlead with hb48 | ht
  · have hne : (b == 48) = false := beq_eq_false_iff_ne.mpr hb48
    simp only [numberTail, hb, hne, Bool.false_and, not_true_eq_false, Bool.false_eq_true, if_false]
    rfl
  · cases t with
    | nil =>
      simp only [numberTail, hb, Bool.and_false, not_true_eq_false, Bool.false_eq_true, if_false]
      rfl
    | cons d u =>
      have hd := ht d u rfl
      simp only [numberTail, hb, hd, Bool.and_false, not_true_eq_false, Bool.false_eq_true,
        if_false]
      rfl

/-- Whatever is read as a number is made of its digits and what stands behind them. -/
theorem behindDigits_of_numberTail {negative : Bool} {c : Cursor} {x : Number × Cursor}
    (h : numberTail negative c = .ok x) :
    behindDigits negative (digits c).1 (digits c).2 = .ok x := by
  simp only [numberTail] at h
  split at h
  · cases h
  split at h
  · cases h
  -- in the reader the byte behind a first zero is looked at, if there is one
  split at h
  · split at h
    · cases h
    · exact h
  · split at h
    · cases h
    · exact h

section
variable {n : Nat} {r : Bytes}

/-- What a number's digits are read to, by the sign before them. -/
theorem numberTail_decimal (hn : n ≤ maxWord) (hr : Unnumbered r) (negative : Bool) (i : Nat) :
    ∃ j, numberTail negative ⟨i, decimal n ++ r⟩ =
      if ¬ negative then .ok (.integer n, ⟨j, r⟩)
      else if n ≠ 0 ∧ n ≤ Nat.pow 2 63 then .ok (.integer (-n), ⟨j, r⟩)
      else .ok (.double (Binary64.ofNat n).neg, ⟨j, r⟩) := by
  have hdigits := digits_complete (fun b hb => isDigit_of_mem_decimal (n := n) hb) hr.digits i
  have hgather := gather_of_le (Nat.le_trans (Nat.le_of_eq (foldl_decimal n)) hn)
  rw [foldl_decimal] at hgather
  refine ⟨i + (decimal n).length, ?_⟩
  -- the first byte is a digit, and no zero with a digit behind it
  obtain ⟨b, t, hcons, hb, hlead⟩ : ∃ b t, decimal n = b :: t ∧ isDigit b = true ∧
      (b ≠ 48 ∨ Headless isDigit (t ++ r)) := by
    rcases decimal_cases n with ⟨-, hzero⟩ | ⟨b, t, hcons, hb⟩
    · exact ⟨48, [], hzero, by decide, .inr hr.digits⟩
    · exact ⟨b, t, hcons, isDigit_of_mem_decimal (n := n) (by rw [hcons]; exact .head _), .inl hb⟩
  rw [hcons] at hdigits hgather ⊢
  rw [List.cons_append] at hdigits ⊢
  rw [numberTail_cons hb hlead, hdigits]
  simp only [behindDigits, hgather, hr.atPoint, hr.atExponent, Bool.false_eq_true, if_false, ne_eq,
    not_true_eq_false]

end

end CommandAgent.Json
