import CommandAgent.Text.Blank
import Mathlib.Data.List.DropRight

/-!
# Texts without outer blanks

A text is its own trimming exactly if it is not blank at either end (`trim_eq_self_iff`), and
trimming gives such a text (`trim_trim`).
-/

namespace CommandAgent.Text

/-- The text does not start with a blank. -/
def StartsPlain (cs : List Char) : Prop := ∀ c ∈ cs.head?, ¬ isBlank c

/-- The text does not end with a blank. -/
def EndsPlain (cs : List Char) : Prop := ∀ c ∈ cs.getLast?, ¬ isBlank c

section
variable {cs rest : List Char}

theorem StartsPlain.of_prefix (hcs : StartsPlain cs) (h : rest <+: cs) : StartsPlain rest := by
  cases rest with
  | nil => intro c hc; cases hc
  | cons c rest =>
    obtain ⟨rest', rfl⟩ := h
    exact hcs

theorem EndsPlain.of_suffix (hcs : EndsPlain cs) (h : rest <:+ cs) : EndsPlain rest := by
  intro c hc
  obtain ⟨before, rfl⟩ := h
  apply hcs
  rw [List.getLast?_append, Option.mem_def.mp hc]
  rfl

theorem dropBlanks_eq_self_iff : dropBlanks cs = cs ↔ StartsPlain cs := by
  cases cs with
  | nil => simp [dropBlanks, StartsPlain]
  | cons c cs =>
    rw [dropBlanks, List.dropWhile_eq_self_iff]
    simp [StartsPlain]

theorem dropTrailingBlanks_eq_self_iff : dropTrailingBlanks cs = cs ↔ EndsPlain cs := by
  have hreverse : dropBlanks cs.reverse = cs.reverse ↔ StartsPlain cs.reverse :=
    dropBlanks_eq_self_iff
  rw [StartsPlain, List.head?_reverse] at hreverse
  rw [EndsPlain, ← hreverse, dropTrailingBlanks, List.reverse_eq_iff]

theorem startsPlain_dropBlanks (cs : List Char) : StartsPlain (dropBlanks cs) :=
  dropBlanks_eq_self_iff.mp (List.dropWhile_idempotent ..)

theorem endsPlain_dropTrailingBlanks (cs : List Char) : EndsPlain (dropTrailingBlanks cs) :=
  dropTrailingBlanks_eq_self_iff.mp (List.rdropWhile_idempotent isBlank cs)

theorem prefix_dropTrailingBlanks (cs : List Char) : dropTrailingBlanks cs <+: cs :=
  cs.rdropWhile_prefix isBlank

end

@[simp] theorem toList_trim (s : String) :
    (trim s).toList = dropTrailingBlanks (dropBlanks s.toList) := String.toList_ofList

/-- A text is trimmed if it is not blank at either end. -/
theorem trim_eq_self_iff {s : String} :
    trim s = s ↔ StartsPlain s.toList ∧ EndsPlain s.toList := by
  rw [← String.toList_inj, toList_trim, ← dropBlanks_eq_self_iff, ← dropTrailingBlanks_eq_self_iff]
  constructor
  · intro h
    -- What is as long as the whole has lost nothing at its start.
    have hlength := (prefix_dropTrailingBlanks (dropBlanks s.toList)).length_le
    rw [h] at hlength
    have hstart : dropBlanks s.toList = s.toList :=
      (List.dropWhile_suffix isBlank).eq_of_length_le hlength
    rw [hstart] at h
    exact ⟨hstart, h⟩
  · rintro ⟨hstart, hend⟩
    rw [hstart, hend]

@[simp] theorem trim_trim (s : String) : trim (trim s) = trim s := by
  rw [trim_eq_self_iff, toList_trim]
  constructor
  · exact StartsPlain.of_prefix (startsPlain_dropBlanks s.toList) (prefix_dropTrailingBlanks _)
  · exact endsPlain_dropTrailingBlanks _

end CommandAgent.Text
