import CommandAgent.Text.Preview

/-!
# Searching, by positions

`Text.find?` walks a text and tries a needle at each place. Here it is characterized without the
walk: a needle *stands at* a position if it is a prefix of what follows there, and `find?` returns
the least such position (`find?_eq_some_iff`), or nothing if there is none (`find?_eq_none_iff`).

That gives the law of a search that is resumed (`find?_drop`): a part of the text in which the
needle cannot begin may be passed over.
-/

namespace CommandAgent.Text

variable {α : Type}

/-- The needle can be read off the text at position `i`. -/
def StandsAt (needle text : List α) (i : Nat) : Prop := needle <+: text.drop i

/-- The needle stands at `i` and nowhere before. -/
def FirstAt (needle text : List α) (i : Nat) : Prop :=
  StandsAt needle text i ∧ ∀ j < i, ¬ StandsAt needle text j

/-! ### Positions -/

theorem standsAt_drop {needle text : List α} {i k : Nat} :
    StandsAt needle (text.drop k) i ↔ StandsAt needle text (k + i) := by
  rw [StandsAt, StandsAt, List.drop_drop]

theorem not_standsAt_nil {needle : List α} (hne : needle ≠ []) (i : Nat) :
    ¬ StandsAt needle ([] : List α) i := by
  intro h
  rw [StandsAt, List.drop_nil] at h
  exact hne (List.prefix_nil.mp h)

/-- A needle that is not empty ends within the text. -/
theorem StandsAt.end_le {needle text : List α} {i : Nat} (h : StandsAt needle text i)
    (hne : needle ≠ []) : i + needle.length ≤ text.length := by
  have hlen : needle.length ≤ text.length - i := by
    simpa [StandsAt] using List.IsPrefix.length_le h
  have hpos : 0 < needle.length := List.length_pos_iff.mpr hne
  omega

/-- What stands in a text stands in every longer one. -/
theorem StandsAt.append {needle text : List α} {i : Nat} (h : StandsAt needle text i)
    (more : List α) (hne : needle ≠ []) : StandsAt needle (text ++ more) i := by
  have hle := h.end_le hne
  have hi : i ≤ text.length := by omega
  rw [StandsAt, List.drop_append_of_le_length hi]
  exact h.trans (List.prefix_append _ _)

/-- What ends within the first part of a text stands in that part. -/
theorem StandsAt.of_append {needle text more : List α} {i : Nat}
    (h : StandsAt needle (text ++ more) i) (hle : i + needle.length ≤ text.length) :
    StandsAt needle text i := by
  have hi : i ≤ text.length := by omega
  rw [StandsAt, List.drop_append_of_le_length hi] at h
  exact List.prefix_of_prefix_length_le h (List.prefix_append _ _) (by simp; omega)

/-- To stand somewhere is to be an infix. -/
theorem exists_standsAt_iff {needle text : List α} :
    (∃ i, StandsAt needle text i) ↔ needle <:+: text := by
  rw [List.infix_iff_prefix_suffix]
  constructor
  · rintro ⟨i, h⟩
    exact ⟨text.drop i, h, List.drop_suffix i text⟩
  · rintro ⟨t, hpre, hsuf⟩
    refine ⟨text.length - t.length, ?_⟩
    rwa [StandsAt, ← List.suffix_iff_eq_drop.mp hsuf]

/-- A text is cut in three by a needle that stands in it. -/
theorem StandsAt.eq_append {needle text : List α} {i : Nat} (h : StandsAt needle text i) :
    text = text.take i ++ needle ++ text.drop (i + needle.length) := by
  have hcut : text.drop i = needle ++ text.drop (i + needle.length) := by
    rw [← List.drop_drop]
    exact List.prefix_iff_eq_append.mp h |>.symm
  rw [List.append_assoc, ← hcut, List.take_append_drop]

/-- What stands somewhere has a first position. -/
theorem exists_firstAt {needle text : List α} (h : needle <:+: text) :
    ∃ i, FirstAt needle text i := by
  obtain ⟨i, hi⟩ := exists_standsAt_iff.mpr h
  -- go back from any position, as long as there is one before it
  induction i using Nat.strongRecOn with
  | ind i ih =>
    by_cases hbefore : ∃ j < i, StandsAt needle text j
    · obtain ⟨j, hj, hstands⟩ := hbefore
      exact ih j hj hstands
    · exact ⟨i, hi, fun j hj hstands => hbefore ⟨j, hj, hstands⟩⟩

/-- Two first positions are one. -/
theorem FirstAt.unique {needle text : List α} {i j : Nat} (hi : FirstAt needle text i)
    (hj : FirstAt needle text j) : i = j := by
  rcases Nat.lt_trichotomy i j with hlt | heq | hgt
  · exact absurd hi.1 (hj.2 i hlt)
  · exact heq
  · exact absurd hj.1 (hi.2 j hgt)

/-- The first position does not depend on what comes later. -/
theorem FirstAt.append {needle text : List α} {i : Nat} (h : FirstAt needle text i)
    (more : List α) (hne : needle ≠ []) : FirstAt needle (text ++ more) i := by
  refine ⟨h.1.append more hne, ?_⟩
  intro j hj hstands
  have hle := h.1.end_le hne
  exact h.2 j hj (hstands.of_append (by omega))

/-! ### The search -/

variable [BEq α] [LawfulBEq α]

/-- What is found is the first place where the needle stands. -/
theorem find?_eq_some_iff {needle : List α} (hne : needle ≠ []) {text : List α} {i : Nat} :
    find? needle text = some i ↔ FirstAt needle text i := by
  induction text generalizing i with
  | nil =>
    constructor
    · intro h
      simp [find?] at h
    · intro h
      exact absurd h.1 (not_standsAt_nil hne i)
  | cons x xs ih =>
    have hempty : needle.isEmpty = false := by simpa using hne
    rw [find?, hempty, if_neg Bool.false_ne_true]
    by_cases hpre : needle <+: x :: xs
    · rw [if_pos (List.isPrefixOf_iff_prefix.mpr hpre)]
      constructor
      · intro h
        obtain rfl : 0 = i := Option.some.inj h
        exact ⟨hpre, fun j hj => absurd hj (Nat.not_lt_zero j)⟩
      · intro h
        cases i with
        | zero => rfl
        | succ i => exact absurd hpre (h.2 0 (Nat.succ_pos i))
    · rw [if_neg (fun h => hpre (List.isPrefixOf_iff_prefix.mp h)), Option.map_eq_some_iff]
      constructor
      · rintro ⟨k, hk, rfl⟩
        obtain ⟨hstands, hfirst⟩ := ih.mp hk
        refine ⟨hstands, ?_⟩
        intro j hj
        cases j with
        | zero => exact hpre
        | succ j => exact hfirst j (Nat.lt_of_succ_lt_succ hj)
      · intro h
        cases i with
        | zero => exact absurd h.1 hpre
        | succ i =>
          exact ⟨i, ih.mpr ⟨h.1, fun j hj => h.2 (j + 1) (Nat.succ_lt_succ hj)⟩, rfl⟩

/-- Nothing is found exactly if the needle stands nowhere. -/
theorem find?_eq_none_iff {needle : List α} (hne : needle ≠ []) {text : List α} :
    find? needle text = none ↔ ∀ i, ¬ StandsAt needle text i := by
  induction text with
  | nil => exact ⟨fun _ => not_standsAt_nil hne, fun _ => rfl⟩
  | cons x xs ih =>
    have hempty : needle.isEmpty = false := by simpa using hne
    rw [find?, hempty, if_neg Bool.false_ne_true]
    by_cases hpre : needle <+: x :: xs
    · rw [if_pos (List.isPrefixOf_iff_prefix.mpr hpre)]
      constructor
      · intro h
        cases h
      · intro h
        exact absurd hpre (h 0)
    · rw [if_neg (fun h => hpre (List.isPrefixOf_iff_prefix.mp h)), Option.map_eq_none_iff, ih]
      constructor
      · intro h i
        cases i with
        | zero => exact hpre
        | succ i => exact h i
      · intro h i
        exact h (i + 1)

/-- A search may begin at `k` if the needle stands nowhere before. -/
theorem find?_drop {needle : List α} (hne : needle ≠ []) {text : List α} {k : Nat}
    (h : ∀ i < k, ¬ StandsAt needle text i) :
    find? needle text = (find? needle (text.drop k)).map (k + ·) := by
  cases hfind : find? needle (text.drop k) with
  | none =>
    rw [find?_eq_none_iff hne] at hfind
    rw [Option.map_none, find?_eq_none_iff hne]
    intro i hi
    -- before `k` nothing stands by assumption, and from there on the search has looked
    by_cases hik : i < k
    · exact h i hik hi
    · obtain ⟨m, rfl⟩ : ∃ m, i = k + m := ⟨i - k, by omega⟩
      exact hfind m (standsAt_drop.mpr hi)
  | some p =>
    obtain ⟨hstands, hfirst⟩ := (find?_eq_some_iff hne).mp hfind
    rw [Option.map_some, find?_eq_some_iff hne]
    refine ⟨standsAt_drop.mp hstands, ?_⟩
    intro j hj hstandsj
    by_cases hjk : j < k
    · exact h j hjk hstandsj
    · obtain ⟨m, rfl⟩ : ∃ m, j = k + m := ⟨j - k, by omega⟩
      exact hfirst m (by omega) (standsAt_drop.mpr hstandsj)

end CommandAgent.Text
