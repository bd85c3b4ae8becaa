import CommandAgent.Proofs.Json.Grammar

/-!
# Scanning JSON text

A reader takes a text of its form off the front. It is described twice: what it takes has the form,
and what has the form it takes, wherever the text stands. Where a form can be carried on, like a
run of blanks, the second is so only before a byte that does not carry it on (`Headless`). This is
done here for blanks and words, as for numbers and strings in the modules that follow.
-/

namespace CommandAgent.Json

open Grammar

theorem bind_eq_ok {α β ε : Type} {r : Except ε α} {next : α → Except ε β} {y : β}
    (h : r.bind next = .ok y) : ∃ x, r = .ok x ∧ next x = .ok y := by
  cases r with
  | error e => cases h
  | ok x => exact ⟨x, rfl, h⟩

theorem map_eq_ok {α β ε : Type} {r : Except ε α} {g : α → β} {y : β} (h : r.map g = .ok y) :
    ∃ x, r = .ok x ∧ g x = y := by
  cases r with
  | error e => cases h
  | ok x => cases h; exact ⟨x, rfl, rfl⟩

theorem eq_ok_of_toOption {α ε : Type} {r : Except ε α} {x : α} (h : r.toOption = some x) :
    r = .ok x := by
  cases r with
  | error e => cases h
  | ok y => cases h; rfl

/-- A text does not begin with a byte of some kind. -/
def Headless (p : UInt8 → Bool) (r : Bytes) : Prop := ∀ b t, r = b :: t → p b = false

theorem headless_nil (p : UInt8 → Bool) : Headless p [] := by
  intro b t h
  cases h

theorem headless_cons {p : UInt8 → Bool} {b : UInt8} (h : p b = false) (t : Bytes) :
    Headless p (b :: t) := by
  intro b' t' heq
  obtain ⟨rfl, -⟩ := List.cons.inj heq
  exact h

theorem Headless.dropWhile {p : UInt8 → Bool} {a r : Bytes} (h : Headless p r)
    (ha : ∀ b ∈ a, p b = true) : (a ++ r).dropWhile p = r := by
  rw [List.dropWhile_append_of_pos ha]
  cases r with
  | nil => rfl
  | cons b t => rw [List.dropWhile_cons_of_neg (by rw [h b t rfl]; exact Bool.false_ne_true)]

@[simp] theorem Cursor.advance_cons (i : Nat) (b : UInt8) (t : Bytes) :
    (Cursor.mk i (b :: t)).advance = ⟨i + 1, t⟩ := rfl

/-! ### Blanks -/

/-- Blanks are passed over up to the first byte that is none. -/
theorem skipBlanks_go (i : Nat) (t : Bytes) :
    skipBlanks.go i t = ⟨i + (t.takeWhile isJsonBlank).length, t.dropWhile isJsonBlank⟩ := by
  induction t generalizing i with
  | nil => rfl
  | cons b t ih =>
    cases h : isJsonBlank b with
    | true =>
      rw [skipBlanks.go, if_pos h, ih, List.takeWhile_cons_of_pos h, List.dropWhile_cons_of_pos h,
        List.length_cons, Nat.add_assoc, Nat.add_comm 1]
    | false =>
      have hb : ¬ isJsonBlank b = true := by rw [h]; exact Bool.false_ne_true
      rw [skipBlanks.go, if_neg hb, List.takeWhile_cons_of_neg hb, List.dropWhile_cons_of_neg hb]
      rfl

theorem skipBlanks_sound (c : Cursor) :
    ∃ a i t, Blanks a ∧ c.rest = a ++ t ∧ skipBlanks c = ⟨i, t⟩ := by
  rw [skipBlanks, skipBlanks_go]
  exact ⟨c.rest.takeWhile isJsonBlank, _, _,
    fun b hb => List.all_eq_true.mp List.all_takeWhile b hb,
    List.takeWhile_append_dropWhile.symm, rfl⟩

theorem skipBlanks_complete {a r : Bytes} (ha : Blanks a) (hr : Headless isJsonBlank r) (i : Nat) :
    ∃ j, skipBlanks ⟨i, a ++ r⟩ = ⟨j, r⟩ := by
  rw [skipBlanks, skipBlanks_go, hr.dropWhile ha]
  exact ⟨_, rfl⟩

/-- Blanks are passed over up to a byte that is none. -/
theorem skipBlanks_cons {a : Bytes} (ha : Blanks a) {b : UInt8} (hb : isJsonBlank b = false)
    (t : Bytes) (i : Nat) : ∃ j, skipBlanks ⟨i, a ++ b :: t⟩ = ⟨j, b :: t⟩ :=
  skipBlanks_complete ha (headless_cons hb t) i

theorem Grammar.Blanks.append {a b : Bytes} (ha : Blanks a) (hb : Blanks b) : Blanks (a ++ b) := by
  intro x hx
  rcases List.mem_append.mp hx with hx | hx
  · exact ha x hx
  · exact hb x hx

theorem Grammar.blanks_nil : Blanks [] := fun _ hx => absurd hx List.not_mem_nil

theorem colon_sound {c c' : Cursor} (h : colon c = .ok c') :
    ∃ a, Blanks a ∧ c.rest = a ++ code ':' :: c'.rest := by
  obtain ⟨a, i, rest, ha, hrest, hskip⟩ := skipBlanks_sound c
  simp only [colon, hskip] at h
  cases rest with
  | nil => cases h
  | cons b t =>
    by_cases hb : b = code ':'
    · simp only [hb, if_true, Except.ok.injEq] at h
      refine ⟨a, ha, ?_⟩
      rw [hrest, hb, ← h]
      rfl
    · simp only [hb, if_false] at h
      cases h

theorem colon_complete {a : Bytes} (ha : Blanks a) (r : Bytes) (i : Nat) :
    ∃ j, colon ⟨i, a ++ code ':' :: r⟩ = .ok ⟨j, r⟩ := by
  obtain ⟨j, hj⟩ := skipBlanks_cons ha (by decide : isJsonBlank (code ':') = false) r i
  refine ⟨j + 1, ?_⟩
  simp only [colon, hj, if_true]
  rfl

/-! ### Words -/

/-- What is read as a word is its letters. -/
theorem word_sound {es : List Char} {c c' : Cursor} (h : word es c = .ok c') :
    c.rest = letters es ++ c'.rest := by
  induction es generalizing c with
  | nil =>
    cases h
    rfl
  | cons e es ih =>
    obtain ⟨i, rest⟩ := c
    cases rest with
    | nil => cases h
    | cons b t =>
      by_cases hb : b = code e
      · simp only [word, hb, if_true] at h
        have htail : t = letters es ++ c'.rest := ih h
        show b :: t = letters (e :: es) ++ c'.rest
        rw [hb, htail]
        rfl
      · simp only [word, hb, if_false] at h
        cases h

theorem word_complete (es : List Char) (i : Nat) (r : Bytes) :
    ∃ j, word es ⟨i, letters es ++ r⟩ = .ok ⟨j, r⟩ := by
  induction es generalizing i with
  | nil => exact ⟨i, rfl⟩
  | cons e es ih =>
    obtain ⟨j, hj⟩ := ih (i + 1)
    refine ⟨j, ?_⟩
    rw [← hj]
    show (if code e = code e then _ else _) = _
    rw [if_pos rfl]
    rfl

end CommandAgent.Json
