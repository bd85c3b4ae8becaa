import CommandAgent.Proofs.Text.Bounds
import CommandAgent.Proofs.Text.Masking

/-!
# Masking removes the secrets and nothing else

A masked text is the text with some occurrences of secrets cut out and the mask put in their place
(`Masked`), and no secret stands in it any more (`redactText_removes`). So masking it again changes
nothing.

That holds whatever the secrets have in common with each other or with themselves, since the mask is
a wall between them: a later secret can be found neither inside the mask nor across its edge
(`replaceFrom_append_cons`), so it is found in what has been kept of the text.
-/

namespace CommandAgent

namespace Text

section
variable {needle mask a b cs : List Char} {x : Char}

/-- To skip characters is to start behind them. -/
theorem replaceFrom_drop (skip : Nat) :
    replaceFrom needle mask skip cs = replaceFrom needle mask 0 (cs.drop skip) := by
  induction cs generalizing skip with
  | nil => rw [List.drop_nil, replaceFrom, replaceFrom]
  | cons c cs ih =>
    cases skip with
    | zero => rfl
    | succ skip => rw [replaceFrom, List.drop_succ_cons, ih]

/-- A text without the needle is left as it is. -/
theorem replaceFrom_of_not_infix (h : ¬ needle <:+: cs) : replaceFrom needle mask 0 cs = cs := by
  induction cs with
  | nil => rfl
  | cons c cs ih =>
    have hstands : ¬ needle.isPrefixOf (c :: cs) = true := by
      intro hpre
      exact h (List.isPrefixOf_iff_prefix.mp hpre).isInfix
    rw [replaceFrom, if_neg hstands, ih (fun hin => h (List.infix_cons hin))]

/-- Where the needle stands the mask is put, and the search goes on behind the needle. -/
theorem replaceFrom_append_self (hne : needle ≠ []) :
    replaceFrom needle mask 0 (needle ++ cs) = mask ++ replaceFrom needle mask 0 cs := by
  obtain ⟨c, rest, rfl⟩ := List.exists_cons_of_ne_nil hne
  have hstands : (c :: rest).isPrefixOf (c :: (rest ++ cs)) = true :=
    List.isPrefixOf_iff_prefix.mpr (List.prefix_append (c :: rest) cs)
  rw [List.cons_append, replaceFrom, if_pos hstands, replaceFrom_drop, List.length_cons,
    Nat.add_sub_cancel, List.drop_left]

/-- A sign that the needle lacks cuts the search in two. -/
theorem replaceFrom_append_cons (hne : needle ≠ []) (hx : x ∉ needle) {skip : Nat}
    (hskip : skip ≤ a.length) :
    replaceFrom needle mask skip (a ++ x :: b) =
      replaceFrom needle mask skip a ++ x :: replaceFrom needle mask 0 b := by
  fun_induction replaceFrom needle mask skip a with
  | case1 skip =>
    obtain rfl : skip = 0 := Nat.le_zero.mp hskip
    have hstands : ¬ needle.isPrefixOf (x :: b) = true := by
      intro hpre
      have hnil : needle <+: [] :=
        prefix_of_prefix_append_cons (a := []) hx (List.isPrefixOf_iff_prefix.mp hpre)
      exact hne (List.prefix_nil.mp hnil)
    rw [List.nil_append, replaceFrom, if_neg hstands, List.nil_append]
  | case2 skip c cs ih => exact ih (Nat.le_of_succ_le_succ hskip)
  | case3 c cs hstands ih =>
    have hpre : needle <+: c :: cs := List.isPrefixOf_iff_prefix.mp hstands
    have hmore : needle.isPrefixOf (c :: (cs ++ x :: b)) = true :=
      List.isPrefixOf_iff_prefix.mpr (hpre.trans (List.prefix_append (c :: cs) (x :: b)))
    have hlength : needle.length - 1 ≤ cs.length := by
      have hle := hpre.length_le
      rw [List.length_cons] at hle
      omega
    rw [List.cons_append, replaceFrom, if_pos hmore, ih hlength, List.append_assoc]
  | case4 c cs hstands ih =>
    have hless : ¬ needle.isPrefixOf (c :: (cs ++ x :: b)) = true := by
      intro hpre
      have hall : needle <+: c :: cs :=
        prefix_of_prefix_append_cons hx (List.isPrefixOf_iff_prefix.mp hpre)
      exact hstands (List.isPrefixOf_iff_prefix.mpr hall)
    rw [List.cons_append, replaceFrom, if_neg hless, ih (Nat.zero_le _), List.cons_append]

end
end Text

namespace Redaction

open Text (replaceFrom)

/-! ### What masking may change -/

/-- A secret that is looked for: it is long enough without its outer blanks. -/
def IsSought (secret : String) : Prop := minSecret ≤ Text.Utf8.size (Text.trim secret)

theorem IsSought.needle_ne_nil {secret : String} (h : IsSought secret) : needle secret ≠ [] := by
  intro hnil
  rw [IsSought, Text.size_eq_bytes, ← needle, hnil] at h
  exact absurd h (by decide)

/-- A text and what becomes of it when some occurrences of secrets in it are masked: the rest stays
as it is and where it is. -/
inductive Masked (secrets : List String) : List Char → List Char → Prop where
  | nil : Masked secrets [] []
  | keep (c : Char) {s r : List Char} : Masked secrets s r → Masked secrets (c :: s) (c :: r)
  | hide {secret : String} {s r : List Char} : secret ∈ secrets → IsSought secret →
    Masked secrets s r → Masked secrets (needle secret ++ s) (textMask.toList ++ r)

section
variable {secrets : List String} {s r p : List Char} {secret : String}

theorem masked_self (secrets : List String) (s : List Char) : Masked secrets s s := by
  induction s with
  | nil => exact .nil
  | cons c s ih => exact .keep c ih

/-- What begins a masked text and lacks the edge of the mask has been kept. -/
theorem Masked.exists_of_append (h : Masked secrets s (p ++ r)) (hedge : edge ∉ p) :
    ∃ rest, s = p ++ rest ∧ Masked secrets rest r := by
  induction p generalizing s with
  | nil => exact ⟨s, rfl, h⟩
  | cons c p ih =>
    generalize hall : c :: p ++ r = t at h
    cases h with
    | nil => cases hall
    | keep c' hrest =>
      obtain ⟨rfl, rfl⟩ := List.cons.inj hall
      obtain ⟨rest, rfl, hmasked⟩ := ih hrest (List.not_mem_of_not_mem_cons hedge)
      exact ⟨rest, rfl, hmasked⟩
    | hide =>
      rw [toList_textMask] at hall
      obtain ⟨rfl, -⟩ := List.cons.inj hall
      exact absurd List.mem_cons_self hedge

/-- A secret is not found inside a mask, nor across its edge. -/
theorem Foreign.replaceFrom_mask (hp : Foreign p) (hne : p ≠ []) :
    replaceFrom p textMask.toList 0 (textMask.toList ++ r) =
      textMask.toList ++ replaceFrom p textMask.toList 0 r := by
  have hinside : ¬ p <:+: Redaction.edge :: middle := by
    intro hin
    exact hp.not_infix_mask (hin.trans (List.prefix_append _ _).isInfix)
  have hmask (b : List Char) :
      textMask.toList ++ b = Redaction.edge :: middle ++ Redaction.edge :: b := by
    rw [toList_textMask, List.append_assoc, List.singleton_append]
  rw [hmask, Text.replaceFrom_append_cons hne hp.edge (Nat.zero_le _),
    Text.replaceFrom_of_not_infix hinside, hmask]

/-- Masking one more secret hides some of what has been kept. -/
theorem Masked.replaceFrom (h : Masked secrets s r) (hmem : secret ∈ secrets)
    (hsecret : Maskable secret) :
    Masked secrets s (replaceFrom (needle secret) textMask.toList 0 r) := by
  have hne := hsecret.needle_ne_nil
  -- on the length of what is searched, as the search goes on behind a needle
  induction hlength : r.length using Nat.strongRecOn generalizing s r with
  | ind n ih =>
    subst hlength
    cases h with
    | nil => exact .nil
    | keep c hrest =>
      rename_i s r
      by_cases hpre : needle secret <+: c :: r
      · obtain ⟨rest, hrest'⟩ := hpre
        have hshorter : rest.length < (c :: r).length := by
          have hpos := List.length_pos_iff.mpr hne
          rw [← hrest', List.length_append]
          omega
        have hall : Masked secrets (c :: s) (needle secret ++ rest) := by
          rw [hrest']
          exact .keep c hrest
        obtain ⟨before, hbefore, hmasked⟩ := hall.exists_of_append hsecret.foreign.edge
        rw [hbefore, ← hrest', Text.replaceFrom_append_self hne]
        exact .hide hmem hsecret.long (ih _ hshorter hmasked rfl)
      · have hstands : ¬ (needle secret).isPrefixOf (c :: r) = true :=
          fun h => hpre (List.isPrefixOf_iff_prefix.mp h)
        rw [Text.replaceFrom, if_neg hstands]
        exact .keep c (ih _ (Nat.lt_succ_self _) hrest rfl)
    | hide hmem' hlong hrest =>
      rename_i r
      have hshorter : r.length < (textMask.toList ++ r).length := by
        rw [toList_textMask, List.length_append, List.length_append, List.length_cons]
        omega
      rw [hsecret.foreign.replaceFrom_mask hne]
      exact .hide hmem' hlong (ih _ hshorter hrest rfl)

end

/-! ### Removal -/

section
variable {s : String} {secrets : List String}

theorem maskSecret_of_not_sought {secret : String} (h : ¬ IsSought secret) :
    maskSecret s secret = s := by
  have hshort : Text.Utf8.size (Text.trim secret) < minSecret := Nat.not_le.mp h
  rw [maskSecret, if_pos hshort]

theorem maskSecret_of_sought {secret : String} (h : IsSought secret) :
    maskSecret s secret =
      String.ofList (Text.replaceFrom (needle secret) textMask.toList 0 s.toList) := by
  rw [maskSecret, if_neg (Nat.not_lt.mpr h), Text.replace, needle]

theorem maskSecret_of_absent {secret : String} (h : ¬ needle secret <:+: s.toList) :
    maskSecret s secret = s := by
  rw [maskSecret]
  split
  · rfl
  · rw [Text.replace, ← needle, Text.replaceFrom_of_not_infix h, String.ofList_toList]

/-- A text in which no secret stands is left as it is. -/
theorem maskSecrets_of_not_infix
    (h : ∀ secret ∈ secrets, IsSought secret → ¬ needle secret <:+: s.toList) :
    maskSecrets s secrets = s := by
  induction secrets with
  | nil => rfl
  | cons secret secrets ih =>
    obtain ⟨hsecret, hsecrets⟩ := List.forall_mem_cons.mp h
    rw [maskSecrets_cons]
    by_cases hsought : IsSought secret
    · rw [maskSecret_of_absent (hsecret hsought), ih hsecrets]
    · rw [maskSecret_of_not_sought hsought, ih hsecrets]

/-- Masking hides some occurrences of the secrets and keeps the rest. -/
theorem masked_maskSecrets (h : ∀ secret ∈ secrets, IsSought secret → Maskable secret) :
    Masked secrets s.toList (maskSecrets s secrets).toList := by
  -- on the secrets still to be masked, whatever has been done for the others
  suffices hstep : ∀ todo ⊆ secrets, ∀ r : String, Masked secrets s.toList r.toList →
      Masked secrets s.toList (maskSecrets r todo).toList from
    hstep secrets (List.Subset.refl _) s (masked_self _ _)
  intro todo
  induction todo with
  | nil => exact fun _ r hr => hr
  | cons secret todo ih =>
    intro hsubset r hr
    obtain ⟨hmem, htodo⟩ := List.cons_subset.mp hsubset
    rw [maskSecrets_cons]
    apply ih htodo
    by_cases hsought : IsSought secret
    · rw [maskSecret, if_neg (Nat.not_lt.mpr hsought), Text.replace, String.toList_ofList]
      exact hr.replaceFrom hmem (h secret hmem hsought)
    · rwa [maskSecret_of_not_sought hsought]

theorem textMask_eq :
    textMask.toList = '*' :: '*' :: '*' :: ("REDACTED".toList ++ '*' :: ['*', '*']) := by rfl

/-- A text without asterisks stands in the mask only if it stands between them. -/
theorem foreign_of_outside {p : List Char} (hedge : '*' ∉ p)
    (hout : ¬ p <:+: "REDACTED".toList) : Foreign p := by
  have hnil : ¬ p <:+: [] := by
    intro h
    rw [List.infix_nil.mp h] at hout
    exact hout List.nil_infix
  have hbehind : ∀ {b : List Char}, p <:+: '*' :: b → p <:+: b := by
    intro b h
    rcases (Text.infix_append_cons_iff (a := []) hedge).mp h with h | h
    · exact absurd h hnil
    · exact h
  refine ⟨hedge, ?_⟩
  intro h
  rw [textMask_eq] at h
  rcases (Text.infix_append_cons_iff hedge).mp (hbehind (hbehind (hbehind h))) with h | h
  · exact hout h
  · exact hnil (hbehind (hbehind h))

/-- Secrets that are no part of the mask are removed from a text: what is shown is the text with
occurrences of secrets masked, and none of them is left. A text without secrets is shown as it is,
and so is a text that has been masked. -/
theorem redactText_removes {limit : Nat}
    (hsecrets : ∀ secret ∈ secrets, IsSought secret →
      '*' ∉ (Text.trim secret).toList ∧ ¬ (Text.trim secret).toList <:+: "REDACTED".toList)
    (hlimit : Text.Utf8.size (maskSecrets s secrets) ≤ limit) :
    Masked secrets s.toList (redactText s limit secrets).toList ∧
      (∀ secret ∈ secrets, IsSought secret →
        ¬ (Text.trim secret).toList <:+: (redactText s limit secrets).toList) ∧
      ((∀ secret ∈ secrets, IsSought secret → ¬ (Text.trim secret).toList <:+: s.toList) →
        redactText s limit secrets = s) ∧
      redactText (redactText s limit secrets) limit secrets = redactText s limit secrets := by
  have hmaskable : ∀ secret ∈ secrets, IsSought secret → Maskable secret := by
    intro secret hmem hsought
    obtain ⟨hedge, hout⟩ := hsecrets secret hmem hsought
    exact ⟨hsought, foreign_of_outside hedge hout⟩
  have hgone : ∀ secret ∈ secrets, IsSought secret →
      ¬ needle secret <:+: (maskSecrets s secrets).toList := by
    intro secret hmem hsought
    exact not_infix_maskSecrets hmem (hmaskable secret hmem hsought) s
  have hshown : redactText s limit secrets = maskSecrets s secrets := bound_of_le hlimit
  rw [hshown]
  refine ⟨masked_maskSecrets hmaskable, hgone, maskSecrets_of_not_infix, ?_⟩
  rw [redactText, maskSecrets_of_not_infix hgone, bound_of_le hlimit]

/-- Secrets that overlap and contain each other, one of them with blanks around it and one that is
too short. -/
theorem redactText_removes_overlapping :
    (∀ secret ∈ ["hunter2", " ter2x\n", "unter", "ok"], IsSought secret →
      '*' ∉ (Text.trim secret).toList ∧ ¬ (Text.trim secret).toList <:+: "REDACTED".toList) ∧
    redactText "ok hunter2x unter2x" 512 ["hunter2", " ter2x\n", "unter", "ok"] =
      "ok ***REDACTED***x un***REDACTED***" ∧
    redactText "ok ***REDACTED***x un***REDACTED***" 512 ["hunter2", " ter2x\n", "unter", "ok"] =
      "ok ***REDACTED***x un***REDACTED***" := by
  have hsecrets : ∀ secret ∈ ["hunter2", " ter2x\n", "unter", "ok"], IsSought secret →
      '*' ∉ (Text.trim secret).toList ∧ ¬ (Text.trim secret).toList <:+: "REDACTED".toList := by
    unfold IsSought
    decide +kernel
  have hshown : redactText "ok hunter2x unter2x" 512 ["hunter2", " ter2x\n", "unter", "ok"] =
      "ok ***REDACTED***x un***REDACTED***" := by
    decide +kernel
  refine ⟨hsecrets, hshown, ?_⟩
  have hfits : Text.Utf8.size (maskSecrets "ok hunter2x unter2x"
      ["hunter2", " ter2x\n", "unter", "ok"]) ≤ 512 := by
    decide
  have hagain := (redactText_removes hsecrets hfits).2.2.2
  rwa [hshown] at hagain

end
end Redaction
end CommandAgent
