import CommandAgent.Redaction

/-!
# What a limit leaves of a text

`keepBytes` gives the longest beginning of a text that fits within a limit (`longest_keepBytes`),
and `bound` the text itself or such a beginning with three dots behind it (`bounded_bound`). Where a
text is put together from parts, the parts that fit are kept whole and the limit counts on behind
them (`keepBytes_append_of_le`).
-/

namespace CommandAgent.Text

/-- How many bytes some characters take. -/
def bytes (cs : List Char) : Nat := (cs.flatMap String.utf8EncodeChar).length

theorem size_eq_bytes (s : String) : Utf8.size s = bytes s.toList := rfl

@[simp] theorem bytes_nil : bytes [] = 0 := rfl

@[simp] theorem bytes_cons (c : Char) (cs : List Char) :
    bytes (c :: cs) = c.utf8Size + bytes cs := by
  rw [bytes, List.flatMap_cons, List.length_append, String.length_utf8EncodeChar, bytes]

@[simp] theorem bytes_append (a b : List Char) : bytes (a ++ b) = bytes a + bytes b := by
  rw [bytes, List.flatMap_append, List.length_append, bytes, bytes]

theorem bytes_replicate (n : Nat) (c : Char) : bytes (List.replicate n c) = n * c.utf8Size := by
  induction n with
  | zero => rw [Nat.zero_mul, List.replicate_zero, bytes_nil]
  | succ n ih => rw [List.replicate_succ, bytes_cons, ih, Nat.succ_mul, Nat.add_comm]

theorem bytes_eq_zero {cs : List Char} : bytes cs = 0 ↔ cs = [] := by
  cases cs with
  | nil => simp
  | cons c cs =>
    have hpos := c.utf8Size_pos
    simp only [bytes_cons, reduceCtorEq, iff_false]
    omega

/-! ### Beginnings -/

section
variable {limit : Nat} {a b cs : List Char}

/-- The beginning of a text that fits within a limit while no longer one does. -/
structure Longest (limit : Nat) (kept cs : List Char) : Prop where
  isPrefix : kept <+: cs
  fits : bytes kept ≤ limit
  longest {p : List Char} : p <+: cs → bytes p ≤ limit → p <+: kept

/-- What is kept is the longest beginning within the limit. -/
theorem longest_keepBytes (limit : Nat) (cs : List Char) :
    Longest limit (keepBytes limit cs) cs := by
  fun_induction keepBytes limit cs with
  | case1 limit => exact ⟨List.nil_prefix, Nat.zero_le _, fun hp _ => hp⟩
  | case2 limit c cs hfits ih =>
    refine ⟨List.cons_prefix_cons.mpr ⟨rfl, ih.isPrefix⟩, ?_, ?_⟩
    · have hrest := ih.fits
      rw [bytes_cons]
      omega
    · intro p hp hbytes
      cases p with
      | nil => exact List.nil_prefix
      | cons c' p =>
        obtain ⟨rfl, hrest⟩ := List.cons_prefix_cons.mp hp
        rw [bytes_cons] at hbytes
        exact List.cons_prefix_cons.mpr ⟨rfl, ih.longest hrest (by omega)⟩
  | case3 limit c cs hfits =>
    refine ⟨List.nil_prefix, Nat.zero_le _, ?_⟩
    intro p hp hbytes
    cases p with
    | nil => exact List.nil_prefix
    | cons c' p =>
      obtain ⟨rfl, -⟩ := List.cons_prefix_cons.mp hp
      rw [bytes_cons] at hbytes
      omega

/-- What fits is kept, and the rest of the limit is for what follows. -/
theorem keepBytes_append_of_le (h : bytes a ≤ limit) :
    keepBytes limit (a ++ b) = a ++ keepBytes (limit - bytes a) b := by
  induction a generalizing limit with
  | nil => rfl
  | cons c a ih =>
    rw [bytes_cons] at h ⊢
    have hfits : c.utf8Size ≤ limit := by omega
    rw [List.cons_append, keepBytes, if_pos hfits, ih (by omega), Nat.sub_sub, List.cons_append]

/-- Behind the limit nothing counts. -/
theorem keepBytes_append_of_ge (h : limit ≤ bytes a) :
    keepBytes limit (a ++ b) = keepBytes limit a := by
  induction a generalizing limit with
  | nil =>
    obtain rfl : limit = 0 := Nat.le_zero.mp h
    cases b with
    | nil => rfl
    | cons c b =>
      have hnot : ¬ c.utf8Size ≤ 0 := Nat.not_le.mpr c.utf8Size_pos
      rw [List.nil_append, keepBytes, keepBytes, if_neg hnot]
  | cons c a ih =>
    rw [bytes_cons] at h
    rw [List.cons_append, keepBytes, keepBytes]
    split
    · rw [ih (by omega)]
    · rfl

end

/-! ### Bounded texts -/

/-- What is shown of a text within a limit: the text itself if it fits, nothing if the limit is
zero, and else its longest beginning that fits, with three dots behind it. -/
inductive Bounded (limit : Nat) (s : String) : String → Prop where
  | whole : Utf8.size s ≤ limit → Bounded limit s s
  | nothing : limit = 0 → Bounded limit s ""
  | cut {kept : String} : limit ≠ 0 → limit < Utf8.size s → Longest limit kept.toList s.toList →
    Bounded limit s (kept ++ "...")

end Text

namespace Redaction

open Text (Bounded)

variable {limit : Nat} {s : String}

/-- What a bound shows is the text itself, nothing, or its longest beginning with dots. -/
theorem bounded_bound (limit : Nat) (s : String) : Bounded limit s (bound limit s) := by
  rw [bound, Text.shorten]
  split
  · next hzero => exact .nothing hzero
  · next hpos =>
    split
    · next hfits => exact .whole hfits
    · next hlong =>
      refine .cut hpos (Nat.not_le.mp hlong) ?_
      rw [Text.truncatePrefix, String.toList_ofList]
      exact Text.longest_keepBytes limit s.toList

/-- A text within the limit is left as it is. -/
theorem bound_of_le (h : Text.Utf8.size s ≤ limit) : bound limit s = s := by
  rw [bound, Text.shorten, if_pos h]
  split
  · next hzero =>
    rw [hzero, Nat.le_zero, Text.size_eq_bytes, Text.bytes_eq_zero] at h
    exact (String.toList_eq_nil_iff.mp h).symm
  · rfl

end Redaction
end CommandAgent
