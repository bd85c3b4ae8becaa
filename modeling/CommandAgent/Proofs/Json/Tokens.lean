import CommandAgent.Proofs.Json.Numbers
import CommandAgent.Proofs.Json.Strings

/-!
# Scanning tokens

A value is told by its first byte: a scalar is taken as a whole, and of a frame only the opening
(`skipToken_sound`, `skipToken_complete`). Before a value in an object its key is passed over
(`skipLead`). What a value, and what comes before and behind it, can begin with, tells the readers
where to stop.
-/

namespace CommandAgent.Json

open Grammar
open CommandAgent.Json.Stream (Frame skipToken skipKey)

/-! ### Tokens -/

theorem ne_of_isDigit {b x : UInt8} (hb : isDigit b = true) (hx : isDigit x = false) : b ≠ x := by
  rintro rfl
  rw [hb] at hx
  cases hx

/-- A token is a scalar value or the opening of a frame. -/
theorem skipToken_sound {c c' : Cursor} {opened : Option Frame}
    (h : skipToken c = .ok (opened, c')) :
    (opened = none ∧ ∃ v, Value v ∧ c.rest = v ++ c'.rest) ∨
      ∃ f, opened = some f ∧ c.rest = opening f :: c'.rest := by
  obtain ⟨i, rest⟩ := c
  cases rest with
  | nil => cases h
  | cons b t =>
    simp only [skipToken, Cursor.advance_cons] at h
    split at h
    · next hb =>
      obtain ⟨d, hword, heq⟩ := map_eq_ok h
      cases heq
      have ht : t = letters ['u', 'l', 'l'] ++ c'.rest := word_sound hword
      exact .inl ⟨rfl, _, .null, by rw [hb, ht]; rfl⟩
    split at h
    · next hb =>
      obtain ⟨d, hword, heq⟩ := map_eq_ok h
      cases heq
      have ht : t = letters ['r', 'u', 'e'] ++ c'.rest := word_sound hword
      exact .inl ⟨rfl, _, .literal true, by rw [hb, ht]; rfl⟩
    split at h
    · next hb =>
      obtain ⟨d, hword, heq⟩ := map_eq_ok h
      cases heq
      have ht : t = letters ['a', 'l', 's', 'e'] ++ c'.rest := word_sound hword
      exact .inl ⟨rfl, _, .literal false, by rw [hb, ht]; rfl⟩
    split at h
    · next hb =>
      obtain ⟨d, hnumber, heq⟩ := map_eq_ok h
      cases heq
      obtain ⟨u, hu, hrest⟩ := skipNumber_sound hnumber
      exact .inl ⟨rfl, _, .negative hu, by rw [hb]; exact congrArg (code '-' :: ·) hrest⟩
    split at h
    · obtain ⟨d, hnumber, heq⟩ := map_eq_ok h
      cases heq
      obtain ⟨u, hu, hrest⟩ := skipNumber_sound hnumber
      exact .inl ⟨rfl, u, .unsigned hu, hrest⟩
    split at h
    · next hb =>
      obtain ⟨d, hstring, heq⟩ := map_eq_ok h
      cases heq
      obtain ⟨u, hu, hrest⟩ := ignoredString_sound hstring
      refine .inl ⟨rfl, _, .string hu, ?_⟩
      rw [hb, List.cons_append, List.append_assoc, List.singleton_append, ← hrest]
    split at h
    · next hb => cases h; exact .inr ⟨.array, rfl, by rw [hb]; rfl⟩
    split at h
    · next hb => cases h; exact .inr ⟨.object, rfl, by rw [hb]; rfl⟩
    · cases h

theorem skipToken_opening (f : Frame) (r : Bytes) (i : Nat) :
    skipToken ⟨i, opening f :: r⟩ = .ok (some f, ⟨i + 1, r⟩) := by
  cases f <;> rfl

theorem skipToken_null (r : Bytes) (i : Nat) :
    ∃ j, skipToken ⟨i, letters ['n', 'u', 'l', 'l'] ++ r⟩ = .ok (none, ⟨j, r⟩) := by
  obtain ⟨j, hj⟩ := word_complete ['u', 'l', 'l'] (i + 1) r
  refine ⟨j, ?_⟩
  show (word ['u', 'l', 'l'] ⟨i + 1, letters ['u', 'l', 'l'] ++ r⟩).map _ = _
  rw [hj]
  rfl

/-- A word is passed over as a token that opens nothing. -/
theorem skipToken_literal (b : Bool) (r : Bytes) (i : Nat) :
    ∃ j, skipToken ⟨i, literal b ++ r⟩ = .ok (none, ⟨j, r⟩) := by
  cases b with
  | true =>
    obtain ⟨j, hj⟩ := word_complete ['r', 'u', 'e'] (i + 1) r
    refine ⟨j, ?_⟩
    show (word ['r', 'u', 'e'] ⟨i + 1, letters ['r', 'u', 'e'] ++ r⟩).map _ = _
    rw [hj]
    rfl
  | false =>
    obtain ⟨j, hj⟩ := word_complete ['a', 'l', 's', 'e'] (i + 1) r
    refine ⟨j, ?_⟩
    show (word ['a', 'l', 's', 'e'] ⟨i + 1, letters ['a', 'l', 's', 'e'] ++ r⟩).map _ = _
    rw [hj]
    rfl

/-- A number begins with a digit. -/
theorem exists_digit_cons {t : Bytes} (ht : Unsigned t) :
    ∃ b u, t = b :: u ∧ isDigit b = true := by
  obtain ⟨whole, f, x, rfl, hwhole, -, -⟩ := ht
  cases hwhole with
  | zero => exact ⟨48, f ++ x, rfl, by decide⟩
  | @other b ds hb _ _ => exact ⟨b, ds ++ (f ++ x), rfl, hb⟩

/-- A number is passed over as a token that opens nothing. -/
theorem skipToken_unsigned {t r : Bytes} (ht : Unsigned t) (hr : Unnumbered r) (i : Nat) :
    ∃ j, skipToken ⟨i, t ++ r⟩ = .ok (none, ⟨j, r⟩) := by
  obtain ⟨j, hj⟩ := skipNumber_complete ht hr i
  obtain ⟨b, u, rfl, hb⟩ := exists_digit_cons ht
  refine ⟨j, ?_⟩
  have hn : b ≠ code 'n' := ne_of_isDigit hb (by decide)
  have ht : b ≠ code 't' := ne_of_isDigit hb (by decide)
  have hf : b ≠ code 'f' := ne_of_isDigit hb (by decide)
  have hminus : b ≠ code '-' := ne_of_isDigit hb (by decide)
  rw [List.cons_append] at hj ⊢
  simp only [skipToken, hn, ht, hf, hminus, hb, if_false, if_true, hj]
  rfl

theorem skipToken_negative {t r : Bytes} (ht : Unsigned t) (hr : Unnumbered r) (i : Nat) :
    ∃ j, skipToken ⟨i, code '-' :: (t ++ r)⟩ = .ok (none, ⟨j, r⟩) := by
  obtain ⟨j, hj⟩ := skipNumber_complete ht hr (i + 1)
  refine ⟨j, ?_⟩
  show (Stream.skipNumber ⟨i + 1, t ++ r⟩).map _ = _
  rw [hj]
  rfl

theorem skipToken_string {t : Bytes} (ht : Inside t) (r : Bytes) (i : Nat) :
    ∃ j, skipToken ⟨i, code '"' :: (t ++ code '"' :: r)⟩ = .ok (none, ⟨j, r⟩) := by
  obtain ⟨j, hj⟩ := ignoredString_complete ht r (i + 1)
  refine ⟨j, ?_⟩
  show (ignoredString (i + 1) (t ++ code '"' :: r)).map _ = _
  rw [hj]
  rfl

/-- A value is a token, or a frame whose opening is one. -/
theorem skipToken_complete {v r : Bytes} (hv : Value v) (hr : Unnumbered r) (i : Nat) :
    (∃ j, skipToken ⟨i, v ++ r⟩ = .ok (none, ⟨j, r⟩)) ∨
      ∃ f es t, v = opening f :: (t ++ [closing f]) ∧ Filling es t ∧
        (∀ e ∈ es, Lead f e.1) ∧ ∀ e ∈ es, Value e.2 := by
  cases hv with
  | null => exact .inl (skipToken_null r i)
  | literal b => exact .inl (skipToken_literal b r i)
  | unsigned ht => exact .inl (skipToken_unsigned ht hr i)
  | negative ht => exact .inl (skipToken_negative ht hr i)
  | string ht =>
    rw [List.cons_append, List.append_assoc, List.singleton_append]
    exact .inl (skipToken_string ht r i)
  | frame ht hlead hvalue => exact .inr ⟨_, _, _, rfl, ht, hlead, hvalue⟩

/-! ### What leads up to a value -/

/-- Pass over the key before a value, if the frame has keys. -/
def skipLead : Frame → Cursor → Except Fault Cursor
  | .array, c => .ok c
  | .object, c => skipKey c

/-- What is passed over as a key is a string and a colon, with blanks around them. -/
theorem skipKey_sound {c c' : Cursor} (h : skipKey c = .ok c') :
    ∃ a inside b, c.rest = a ++ code '"' :: (inside ++ code '"' :: (b ++ code ':' :: c'.rest)) ∧
      Blanks a ∧ Inside inside ∧ Blanks b := by
  obtain ⟨a, i, rest, ha, hrest, hskip⟩ := skipBlanks_sound c
  simp only [skipKey, hskip] at h
  cases rest with
  | nil => cases h
  | cons x t =>
    by_cases hx : x = code '"'
    · simp only [hx, if_true, bind, Except.bind, Cursor.advance_cons] at h
      cases hinside : ignoredString (i + 1) t with
      | error f =>
        rw [hinside] at h
        cases h
      | ok d =>
        rw [hinside] at h
        obtain ⟨inside, hform, ht⟩ := ignoredString_sound hinside
        obtain ⟨b, hb, hcolon⟩ := colon_sound h
        refine ⟨a, inside, b, ?_, ha, hform, hb⟩
        rw [hrest, hx, ← hcolon, ← ht]
    · simp only [hx, if_false] at h
      cases h

/-- A string and a colon are passed over as a key. -/
theorem skipKey_complete {a inside b : Bytes} (ha : Blanks a) (hinside : Inside inside)
    (hb : Blanks b) (r : Bytes) (i : Nat) :
    ∃ j, skipKey ⟨i, a ++ code '"' :: (inside ++ code '"' :: (b ++ code ':' :: r))⟩ =
      .ok ⟨j, r⟩ := by
  obtain ⟨j, hj⟩ := skipBlanks_cons ha (by decide : isJsonBlank (code '"') = false)
    (inside ++ code '"' :: (b ++ code ':' :: r)) i
  obtain ⟨k, hk⟩ := ignoredString_complete hinside (b ++ code ':' :: r) (j + 1)
  obtain ⟨l, hl⟩ := colon_complete hb r k
  refine ⟨l, ?_⟩
  simp only [skipKey, hj, if_true, bind, Except.bind, Cursor.advance_cons, hk, hl]

/-- What is passed over before a value leads up to it, with blanks around. -/
theorem skipLead_sound {f : Frame} {c c' : Cursor} (h : skipLead f c = .ok c') :
    ∃ lead, c.rest = lead ++ c'.rest ∧
      ∀ a b, Blanks a → Blanks b → Lead f (a ++ (lead ++ b)) := by
  cases f with
  | array =>
    cases h
    refine ⟨[], rfl, ?_⟩
    intro a b ha hb
    exact ha.append hb
  | object =>
    obtain ⟨a, inside, b, hrest, ha, hinside, hb⟩ := skipKey_sound h
    refine ⟨a ++ code '"' :: (inside ++ code '"' :: (b ++ [code ':'])), ?_, ?_⟩
    · rw [hrest]
      simp
    · intro x y hx hy
      refine ⟨x ++ a, inside, b, y, ?_, hx.append ha, hinside, hb, hy⟩
      simp

/-- What leads up to a value in a frame is passed over, but for blanks. -/
theorem skipLead_complete {f : Frame} {lead : Bytes} (h : Lead f lead) (r : Bytes) (i : Nat) :
    ∃ j a, Blanks a ∧ skipLead f ⟨i, lead ++ r⟩ = .ok ⟨j, a ++ r⟩ := by
  cases f with
  | array => exact ⟨i, lead, h, rfl⟩
  | object =>
    obtain ⟨a, inside, b, c, rfl, ha, hinside, hb, hc⟩ := h
    obtain ⟨j, hj⟩ := skipKey_complete ha hinside hb (c ++ r) i
    refine ⟨j, c, hc, ?_⟩
    rw [← hj]
    simp [skipLead]

/-! ### First bytes -/

/-- A text begins with a byte that is no blank and closes no frame. -/
def Begins (t : Bytes) : Prop :=
  ∃ b u, t = b :: u ∧ isJsonBlank b = false ∧ ∀ f, b ≠ closing f

theorem Begins.append {t : Bytes} (h : Begins t) (r : Bytes) : Begins (t ++ r) := by
  obtain ⟨b, u, rfl, hblank, hclosing⟩ := h
  exact ⟨b, u ++ r, rfl, hblank, hclosing⟩

theorem begins_cons {b : UInt8} (hblank : isJsonBlank b = false) (harray : b ≠ code ']')
    (hobject : b ≠ code '\x7d') (t : Bytes) : Begins (b :: t) := by
  refine ⟨b, t, rfl, hblank, ?_⟩
  intro f
  cases f with
  | array => exact harray
  | object => exact hobject

theorem begins_digit {b : UInt8} (hb : isDigit b = true) (t : Bytes) : Begins (b :: t) := by
  have hblank : isJsonBlank b = false := by
    simp only [isJsonBlank, Bool.or_eq_false_iff, beq_eq_false_iff_ne]
    exact ⟨⟨⟨ne_of_isDigit hb (by decide), ne_of_isDigit hb (by decide)⟩,
      ne_of_isDigit hb (by decide)⟩, ne_of_isDigit hb (by decide)⟩
  exact begins_cons hblank (ne_of_isDigit hb (by decide)) (ne_of_isDigit hb (by decide)) t

/-- A value starts with a byte that is neither blank nor closes a frame. -/
theorem Grammar.Value.begins {v : Bytes} (h : Value v) : Begins v := by
  cases h with
  | null => exact begins_cons (by decide) (by decide) (by decide) _
  | literal b => cases b <;> exact begins_cons (by decide) (by decide) (by decide) _
  | unsigned ht =>
    obtain ⟨b, u, rfl, hb⟩ := exists_digit_cons ht
    exact begins_digit hb u
  | negative _ => exact begins_cons (by decide) (by decide) (by decide) _
  | string _ => exact begins_cons (by decide) (by decide) (by decide) _
  | @frame f => cases f <;> exact begins_cons (by decide) (by decide) (by decide) _

/-- What leads up to a value begins with blanks, and then either the value comes or a key. -/
theorem exists_blanks_append {f : Frame} {lead : Bytes} (h : Lead f lead) :
    ∃ a lead', lead = a ++ lead' ∧ Blanks a ∧ Lead f lead' ∧
      ∀ r, Begins r → Begins (lead' ++ r) := by
  cases f with
  | array => exact ⟨lead, [], (List.append_nil lead).symm, h, blanks_nil, fun _ hr => hr⟩
  | object =>
    obtain ⟨a, inside, b, c, rfl, ha, hinside, hb, hc⟩ := h
    refine ⟨a, _, rfl, ha, ⟨[], inside, b, c, rfl, blanks_nil, hinside, hb, hc⟩, ?_⟩
    intro r _
    exact begins_cons (by decide) (by decide) (by decide) _

/-- Blanks do not carry on a number. -/
theorem Grammar.Blanks.unnumbered {a : Bytes} (ha : Blanks a) {b : UInt8}
    (hb : numeric b = false) (t : Bytes) : Unnumbered (a ++ b :: t) := by
  cases a with
  | nil => exact headless_cons hb t
  | cons x a =>
    apply headless_cons
    have hx := ha x List.mem_cons_self
    simp only [isJsonBlank, Bool.or_eq_true, beq_iff_eq] at hx
    rcases hx with ((rfl | rfl) | rfl) | rfl <;> decide

/-- Behind an entry nothing carries on a number. -/
theorem Grammar.Rest.unnumbered {es : List (Bytes × Bytes)} {t : Bytes} (h : Rest es t) (f : Frame)
    (r : Bytes) : Unnumbered (t ++ closing f :: r) := by
  cases h with
  | nil ha => exact ha.unnumbered (by cases f <;> decide) r
  | cons ha _ =>
    rw [List.append_assoc, List.cons_append]
    exact ha.unnumbered (by decide) _

end CommandAgent.Json
