import CommandAgent.Batch.Output
import CommandAgent.Proofs.Text.Trimming

/-!
# When a run counts as failed

A run that exits with anything but zero has failed, and so has one whose output begins with an error
code. The output is looked at without the white space in front of it, and once more as it is
reported; neither begins with a blank. So a code that does not begin with a blank is found at the
beginning of the output as it is, too, while one that does is never found
(`failed_exactly`, `blank_code_overlooked`).
-/

namespace CommandAgent

open Text (StartsPlain)

namespace ErrorCodes

/-- An output starts with a code of a list if it has one of them at its beginning that is not
empty. -/
theorem matchesOutput_ofList {codes : List String} {output : String} :
    (ofList codes).matchesOutput output ↔
      ∃ code ∈ codes, code ≠ "" ∧ code.toList <+: output.toList := by
  rw [matchesOutput, ofList, List.any_eq_true]
  constructor
  · rintro ⟨code, hcode, hprefix⟩
    obtain ⟨hmem, hne⟩ := List.mem_filter.mp hcode
    refine ⟨code, hmem, ?_, List.isPrefixOf_iff_prefix.mp hprefix⟩
    rintro rfl
    cases hne
  · rintro ⟨code, hmem, hne, hprefix⟩
    refine ⟨code, List.mem_filter.mpr ⟨hmem, ?_⟩, List.isPrefixOf_iff_prefix.mpr hprefix⟩
    rw [Bool.not_eq_true', Bool.eq_false_iff]
    exact mt String.isEmpty_iff.mp hne

end ErrorCodes

namespace Output

/-! ### Outputs without blanks in front -/

theorem startsPlain_clean (flavor : Flavor) (raw : String) :
    StartsPlain (clean flavor raw).toList := by
  unfold clean
  exact (Text.trim_eq_self_iff.mp (Text.trim_trim _)).1

theorem startsPlain_trimStart (raw : String) : StartsPlain (Text.trimStart raw).toList := by
  rw [Text.trimStart, String.toList_ofList]
  exact Text.startsPlain_dropBlanks raw.toList

/-- A text that does not begin with a blank is found in front of another one before and after the
blanks in front of that are taken away. -/
theorem prefix_trimStart {code raw : String} (hne : code ≠ "") (hplain : StartsPlain code.toList)
    (h : code.toList <+: raw.toList) : code.toList <+: (Text.trimStart raw).toList := by
  obtain ⟨c, cs, hcode⟩ := List.exists_cons_of_ne_nil (mt String.toList_eq_nil_iff.mp hne)
  obtain ⟨rest, hrest⟩ := h
  have hraw : StartsPlain raw.toList := by
    rw [← hrest, hcode]
    rw [hcode] at hplain
    exact hplain
  rw [Text.trimStart, String.toList_ofList, Text.dropBlanks_eq_self_iff.mpr hraw]
  exact ⟨rest, hrest⟩

/-! ### Verdicts -/

/-- A code stands at the beginning of an output: as it came, without the white space in front, or as
it is reported. -/
def Begins (flavor : Flavor) (raw code : String) : Prop :=
  code.toList <+: raw.toList ∨ code.toList <+: (Text.trimStart raw).toList ∨
    code.toList <+: (clean flavor raw).toList

def failed (codes : List String) (flavor : Flavor) (exitCode : Int) (raw : String) : Bool :=
  !succeeded exitCode raw (clean flavor raw) (ErrorCodes.ofList codes)

theorem failed_iff {codes : List String} {flavor : Flavor} {exitCode : Int} {raw : String} :
    failed codes flavor exitCode raw ↔
      exitCode ≠ 0 ∨ ∃ code ∈ codes, code ≠ "" ∧ (code.toList <+: (clean flavor raw).toList ∨
        code.toList <+: (Text.trimStart raw).toList) := by
  rw [failed, succeeded, Bool.not_and, Bool.not_not, Bool.or_eq_true, Bool.or_eq_true,
    ErrorCodes.matchesOutput_ofList, ErrorCodes.matchesOutput_ofList, ← exists_or]
  simp only [Bool.not_eq_true', beq_eq_false_iff_ne, and_or_left]

/-- A code is found exactly if it does not begin with a blank and stands at the beginning of the
output. -/
theorem found_iff {flavor : Flavor} {raw code : String} (hne : code ≠ "") :
    (code.toList <+: (clean flavor raw).toList ∨ code.toList <+: (Text.trimStart raw).toList) ↔
      StartsPlain code.toList ∧ Begins flavor raw code := by
  constructor
  · rintro (h | h)
    · exact ⟨StartsPlain.of_prefix (startsPlain_clean flavor raw) h, .inr (.inr h)⟩
    · exact ⟨StartsPlain.of_prefix (startsPlain_trimStart raw) h, .inr (.inl h)⟩
  · rintro ⟨hplain, h | h | h⟩
    · exact .inr (prefix_trimStart hne hplain h)
    · exact .inr h
    · exact .inl h

/-- A run has failed exactly if it exits with anything but zero, or if a code that is not empty and
does not begin with a blank stands at the beginning of its output, be it as it came, without the
white space in front, or as it is reported. Order and repetition of the codes do not matter, and
neither do empty codes and those that begin with a blank. -/
theorem failed_exactly (codes : List String) (flavor : Flavor) (exitCode : Int) (raw : String) :
    (failed codes flavor exitCode raw ↔
      exitCode ≠ 0 ∨
        ∃ code ∈ codes, code ≠ "" ∧ StartsPlain code.toList ∧ Begins flavor raw code) ∧
    ∀ codes' : List String,
      (∀ code, code ≠ "" → StartsPlain code.toList → (code ∈ codes' ↔ code ∈ codes)) →
      failed codes' flavor exitCode raw = failed codes flavor exitCode raw := by
  have hfailed (codes : List String) : failed codes flavor exitCode raw ↔
      exitCode ≠ 0 ∨
        ∃ code ∈ codes, code ≠ "" ∧ StartsPlain code.toList ∧ Begins flavor raw code := by
    rw [failed_iff]
    refine or_congr_right (exists_congr fun code => and_congr_right fun _ => ?_)
    exact and_congr_right found_iff
  refine ⟨hfailed codes, ?_⟩
  intro codes' hsame
  rw [Bool.eq_iff_iff, hfailed codes', hfailed codes]
  refine or_congr_right (exists_congr fun code => ?_)
  constructor
  · rintro ⟨hmem, hne, hplain, hbegins⟩
    exact ⟨(hsame code hne hplain).mp hmem, hne, hplain, hbegins⟩
  · rintro ⟨hmem, hne, hplain, hbegins⟩
    exact ⟨(hsame code hne hplain).mpr hmem, hne, hplain, hbegins⟩

/-- Codes in another order, with repetitions, an empty one and one that begins with a blank. -/
theorem failed_exactly_reordered :
    (∀ code, code ≠ "" → StartsPlain code.toList →
        (code ∈ ["SP2-", "", "ORA-", " ERR", "SP2-"] ↔ code ∈ ["ORA-", "SP2-"])) ∧
      failed ["SP2-", "", "ORA-", " ERR", "SP2-"] .sqlplus 0 "\nSP2-0310: unable" =
        failed ["ORA-", "SP2-"] .sqlplus 0 "\nSP2-0310: unable" := by
  have hblank : ¬ StartsPlain " ERR".toList := fun h => h ' ' rfl (by decide)
  have hsame : ∀ code, code ≠ "" → StartsPlain code.toList →
      (code ∈ ["SP2-", "", "ORA-", " ERR", "SP2-"] ↔ code ∈ ["ORA-", "SP2-"]) := by
    intro code hne hplain
    have hother : code ≠ " ERR" := fun h => hblank (h ▸ hplain)
    simp only [List.mem_cons, List.not_mem_nil, or_false, hne, hother, false_or]
    tauto
  exact ⟨hsame, (failed_exactly _ .sqlplus 0 _).2 _ hsame⟩

/-- A code that begins with a blank is overlooked in front of an output that begins with it. -/
theorem blank_code_overlooked :
    " ERR" ≠ "" ∧ Begins .generic " ERR: table missing" " ERR" ∧
      failed [" ERR"] .generic 0 " ERR: table missing" = false :=
  ⟨by decide, .inl (by decide), by decide⟩

end Output
end CommandAgent
