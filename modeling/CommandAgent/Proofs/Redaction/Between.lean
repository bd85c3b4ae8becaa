import CommandAgent.Proofs.Text.Pieces

/-!
# Masking a secret between pieces

A secret that stands between the pieces of a text, and has no sign in common with them or with the
mask, is found there and nowhere else. What is shown of the text is then the pieces with the mask
between them, whatever the secret is (`maskSecrets_between`), provided that the secrets masked
before it leave it alone (`maskSecrets_intercalate`).
-/

namespace CommandAgent.Redaction

open Text (replaceFrom)

section
variable {s : String} {pieces : List (List Char)}

/-- A text with the secrets masked, as a list of characters. -/
def maskChars (secrets : List String) (cs : List Char) : List Char :=
  (maskSecrets (String.ofList cs) secrets).toList

theorem maskChars_nil : maskChars [] = id := funext fun _ => String.toList_ofList

/-- Masking adds no signs but those of the mask. -/
theorem mem_of_mem_maskChars {c : Char} (hc : c ∉ textMask.toList) {secrets : List String}
    {cs : List Char} (h : c ∈ maskChars secrets cs) : c ∈ cs := by
  have hforeign : Foreign [c] := by
    constructor
    · intro hedge
      rw [← List.mem_singleton.mp hedge] at hc
      exact hc (by decide)
    · exact fun hin => hc (hin.subset List.mem_cons_self)
  obtain ⟨front, behind, heq⟩ := List.append_of_mem h
  have hin : [c] <:+: (maskSecrets (String.ofList cs) secrets).toList :=
    ⟨front, behind, by rw [← maskChars, heq, List.append_assoc, List.singleton_append]⟩
  have hbefore := hforeign.infix_of_infix_maskSecrets hin
  rw [String.toList_ofList] at hbefore
  exact hbefore.subset List.mem_cons_self

/-- Secrets that have no sign in common with a separator are masked piece by piece. -/
theorem maskSecrets_intercalate (hs : s.toList ≠ []) {secrets : List String}
    (hapart : ∀ t ∈ secrets, ∀ c ∈ s.toList, c ∉ needle t) (pieces : List (List Char)) :
    maskSecrets (String.ofList (s.toList.intercalate pieces)) secrets =
      String.ofList (s.toList.intercalate (pieces.map (maskChars secrets))) := by
  induction secrets generalizing pieces with
  | nil =>
    rw [maskChars_nil, List.map_id]
    rfl
  | cons t secrets ih =>
    obtain ⟨ht, hsecrets⟩ := List.forall_mem_cons.mp hapart
    by_cases hsought : IsSought t
    · have hmap : maskChars (t :: secrets) =
          maskChars secrets ∘ replaceFrom (needle t) textMask.toList 0 := by
        funext cs
        rw [maskChars, maskSecrets_cons, maskSecret_of_sought hsought, String.toList_ofList]
        rfl
      rw [maskSecrets_cons, maskSecret_of_sought hsought, String.toList_ofList,
        Text.replaceFrom_intercalate hsought.needle_ne_nil hs ht, ih hsecrets, List.map_map, hmap]
    · have hmap : maskChars (t :: secrets) = maskChars secrets := by
        funext cs
        rw [maskChars, maskSecrets_cons, maskSecret_of_not_sought hsought]
        rfl
      rw [maskSecrets_cons, maskSecret_of_not_sought hsought, ih hsecrets, hmap]

/-- With a secret between the pieces, the masked text does not depend on the secret. -/
theorem maskSecrets_between (hsought : IsSought s) (htrimmed : Text.trim s = s)
    (hapart : ∀ c ∈ s.toList, (∀ p ∈ pieces, c ∉ p) ∧ c ∉ textMask.toList) {before : List String}
    (hbefore : ∀ t ∈ before, ∀ c ∈ s.toList, c ∉ needle t) (after : List String) :
    maskSecrets (String.ofList (s.toList.intercalate pieces)) (before ++ s :: after) =
      maskSecrets (String.ofList (textMask.toList.intercalate (pieces.map (maskChars before))))
        after := by
  have hneedle : needle s = s.toList := by rw [needle, htrimmed]
  have hne : s.toList ≠ [] := hneedle ▸ hsought.needle_ne_nil
  have hpieces : ∀ p ∈ pieces.map (maskChars before), ∀ c ∈ p, c ∉ s.toList := by
    intro p hp c hc hmem
    obtain ⟨q, hq, rfl⟩ := List.mem_map.mp hp
    obtain ⟨hout, hmask⟩ := hapart c hmem
    exact hout q hq (mem_of_mem_maskChars hmask hc)
  have hreplace : replaceFrom s.toList textMask.toList 0
        (s.toList.intercalate (pieces.map (maskChars before)) ++ []) =
      textMask.toList.intercalate (pieces.map (maskChars before)) ++ [] :=
    Text.replaceFrom_intercalate_append hne hpieces
  rw [List.append_nil, List.append_nil] at hreplace
  rw [maskSecrets_append, maskSecrets_intercalate hne hbefore, maskSecrets_cons,
    maskSecret_of_sought hsought, hneedle, String.toList_ofList, hreplace]

end
end CommandAgent.Redaction
