import CommandAgent.Redaction

/-!
# What masking leaves

A replacement cannot bring a text about that was not there: whatever stands in the result, apart
from the mask itself, stood in the text (`infix_of_infix_replaceFrom`). So once a secret has been
masked no later masking brings it back, and none of the masked secrets is left at the end
(`not_infix_maskSecrets`). All this is for texts that lack the sign at the ends of the mask; a text
that holds an asterisk could be put together from a mask and what is next to it.
-/

namespace CommandAgent

namespace Text

/-! ### Cutting at a sign -/

section
variable {α : Type} {p a b : List α} {x : α}

/-- What begins a text and lacks a sign of it ends before that sign. -/
theorem prefix_of_prefix_append_cons (hx : x ∉ p) (h : p <+: a ++ x :: b) : p <+: a := by
  rcases List.prefix_or_prefix_of_prefix h (List.prefix_append a (x :: b)) with hpa | ⟨t, rfl⟩
  · exact hpa
  · cases t with
    | nil => simp
    | cons y t =>
      have hcons : y :: t <+: x :: b := (List.prefix_append_right_inj a).mp h
      obtain ⟨rfl, -⟩ := List.cons_prefix_cons.mp hcons
      exact absurd (List.mem_append_right a List.mem_cons_self) hx

/-- A text without some sign stands on one side of it. -/
theorem infix_append_cons_iff (hx : x ∉ p) : p <:+: a ++ x :: b ↔ p <:+: a ∨ p <:+: b := by
  constructor
  · intro h
    induction a with
    | nil =>
      rcases List.infix_cons_iff.mp h with hpre | hin
      · exact .inl (prefix_of_prefix_append_cons (a := []) hx hpre).isInfix
      · exact .inr hin
    | cons y a ih =>
      rcases List.infix_cons_iff.mp h with hpre | hin
      · exact .inl (prefix_of_prefix_append_cons (a := y :: a) hx hpre).isInfix
      · exact (ih hin).imp_left List.infix_cons
  · rintro (h | h)
    · exact h.trans (List.prefix_append a (x :: b)).isInfix
    · exact h.trans ((List.suffix_cons x b).trans (List.suffix_append a (x :: b))).isInfix

/-- A text is cut at the first place of a sign in one way only. -/
theorem eq_and_eq_of_append_cons {a' b' : List α} (ha : x ∉ a) (ha' : x ∉ a')
    (h : a ++ x :: b = a' ++ x :: b') : a = a' ∧ b = b' := by
  induction a generalizing a' with
  | nil =>
    cases a' with
    | nil => exact ⟨rfl, (List.cons.inj h).2⟩
    | cons y a' =>
      obtain ⟨rfl, -⟩ := List.cons.inj h
      exact absurd List.mem_cons_self ha'
  | cons z a ih =>
    cases a' with
    | nil =>
      obtain ⟨rfl, -⟩ := List.cons.inj h
      exact absurd List.mem_cons_self ha
    | cons y a' =>
      obtain ⟨rfl, hrest⟩ := List.cons.inj h
      obtain ⟨rfl, rfl⟩ :=
        ih (List.not_mem_of_not_mem_cons ha) (List.not_mem_of_not_mem_cons ha') hrest
      exact ⟨rfl, rfl⟩

/-- Behind a place where a sign stands, two texts that go on alike are alike. -/
theorem eq_of_append_eq {l a' s t : List α} (hl : x ∈ l) (hs : x ∉ s) (ht : x ∉ t)
    (h : l ++ a = s ++ x :: b) (h' : l ++ a' = t ++ x :: b) : a = a' := by
  obtain ⟨v, v', rfl, hv⟩ := List.eq_append_cons_of_mem hl
  rw [List.append_assoc, List.cons_append] at h h'
  obtain ⟨-, hbehind⟩ := eq_and_eq_of_append_cons hv hs h
  obtain ⟨-, hbehind'⟩ := eq_and_eq_of_append_cons hv ht h'
  exact List.append_cancel_left (hbehind.trans hbehind'.symm)

end

/-! ### Replacing

The mask begins and ends with a sign, its edge.
-/

section
variable {p needle middle cs : List Char} {edge : Char} {skip : Nat}

/-- What begins the result of a replacement begins the text, unless it has the edge of the mask. -/
theorem prefix_of_prefix_replaceFrom (hp : edge ∉ p)
    (h : p <+: replaceFrom needle (edge :: middle ++ [edge]) skip cs) : p <+: cs.drop skip := by
  fun_induction replaceFrom needle (edge :: middle ++ [edge]) skip cs generalizing p with
  | case1 skip => rwa [List.drop_nil]
  | case2 skip c cs ih => exact ih hp h
  | case3 c cs hstands ih =>
    have hnil : p <+: [] := prefix_of_prefix_append_cons (a := []) hp h
    rw [List.prefix_nil.mp hnil]
    exact List.nil_prefix
  | case4 c cs hstands ih =>
    cases p with
    | nil => exact List.nil_prefix
    | cons y p =>
      obtain ⟨rfl, hrest⟩ := List.cons_prefix_cons.mp h
      exact List.cons_prefix_cons.mpr ⟨rfl, ih (List.not_mem_of_not_mem_cons hp) hrest⟩

/-- What stands after a mask, and not inside it, stands in what follows it. -/
theorem infix_of_infix_mask_append (hp : edge ∉ p) (hout : ¬ p <:+: edge :: middle ++ [edge])
    (h : p <:+: edge :: middle ++ [edge] ++ cs) : p <:+: cs := by
  rw [List.append_assoc] at h
  rcases (infix_append_cons_iff hp).mp h with hmask | hrest
  · exact absurd (hmask.trans (List.prefix_append _ _).isInfix) hout
  · exact hrest

/-- What stands in the result of a replacement stands in the text, unless it has the edge of the
mask or stands inside it. -/
theorem infix_of_infix_replaceFrom (hp : edge ∉ p) (hout : ¬ p <:+: edge :: middle ++ [edge])
    (h : p <:+: replaceFrom needle (edge :: middle ++ [edge]) skip cs) : p <:+: cs := by
  fun_induction replaceFrom needle (edge :: middle ++ [edge]) skip cs with
  | case1 skip => exact h
  | case2 skip c cs ih => exact List.infix_cons (ih h)
  | case3 c cs hstands ih =>
    exact List.infix_cons (ih (infix_of_infix_mask_append hp hout h))
  | case4 c cs hstands ih =>
    rcases List.infix_cons_iff.mp h with hpre | hin
    · cases p with
      | nil => exact List.nil_infix
      | cons y p =>
        obtain ⟨rfl, hrest⟩ := List.cons_prefix_cons.mp hpre
        have htail := prefix_of_prefix_replaceFrom (List.not_mem_of_not_mem_cons hp) hrest
        exact (List.cons_prefix_cons.mpr ⟨rfl, htail⟩).isInfix
    · exact List.infix_cons (ih hin)

/-- What has been replaced stands nowhere in the result, unless it has the edge of the mask or
stands inside it. -/
theorem not_infix_replaceFrom (hne : needle ≠ []) (hedge : edge ∉ needle)
    (hout : ¬ needle <:+: edge :: middle ++ [edge]) :
    ¬ needle <:+: replaceFrom needle (edge :: middle ++ [edge]) skip cs := by
  fun_induction replaceFrom needle (edge :: middle ++ [edge]) skip cs with
  | case1 skip => exact fun h => hne (List.infix_nil.mp h)
  | case2 skip c cs ih => exact ih
  | case3 c cs hstands ih => exact fun h => ih (infix_of_infix_mask_append hedge hout h)
  | case4 c cs hstands ih =>
    intro h
    rcases List.infix_cons_iff.mp h with hpre | hin
    · have hall : needle <+: replaceFrom needle (edge :: middle ++ [edge]) 0 (c :: cs) := by
        rwa [replaceFrom, if_neg hstands]
      exact hstands (List.isPrefixOf_iff_prefix.mpr (prefix_of_prefix_replaceFrom hedge hall))
    · exact ih hin

end
end Text

namespace Redaction

/-! ### Masking -/

/-- The sign at both ends of the mask. -/
def edge : Char := '*'

/-- What stands between the ends of the mask. -/
def middle : List Char := "**REDACTED**".toList

theorem toList_textMask : textMask.toList = edge :: middle ++ [edge] := by rfl

theorem maskSecrets_cons (s secret : String) (rest : List String) :
    maskSecrets s (secret :: rest) = maskSecrets (maskSecret s secret) rest := List.foldl_cons ..

theorem maskSecrets_append (s : String) (before after : List String) :
    maskSecrets s (before ++ after) = maskSecrets (maskSecrets s before) after :=
  List.foldl_append ..

/-- A text that masking cannot bring about: it lacks the edge of the mask and stands nowhere inside
the mask. -/
structure Foreign (p : List Char) : Prop where
  edge : edge ∉ p
  outside : ¬ p <:+: textMask.toList

namespace Foreign

variable {p : List Char}

theorem not_infix_mask (hp : Foreign p) :
    ¬ p <:+: Redaction.edge :: middle ++ [Redaction.edge] := by
  rw [← toList_textMask]
  exact hp.outside

theorem infix_of_infix_maskSecret (hp : Foreign p) {s secret : String}
    (h : p <:+: (maskSecret s secret).toList) : p <:+: s.toList := by
  simp only [maskSecret] at h
  split at h
  · exact h
  · rw [Text.replace, String.toList_ofList, toList_textMask] at h
    exact Text.infix_of_infix_replaceFrom hp.edge hp.not_infix_mask h

/-- What stands in a masked text stood there before. -/
theorem infix_of_infix_maskSecrets (hp : Foreign p) {s : String} {secrets : List String}
    (h : p <:+: (maskSecrets s secrets).toList) : p <:+: s.toList := by
  induction secrets generalizing s with
  | nil => exact h
  | cons secret rest ih =>
    rw [maskSecrets_cons] at h
    exact hp.infix_of_infix_maskSecret (ih h)

end Foreign

/-- What is looked for when a text is masked: the secret without outer blanks. -/
def needle (secret : String) : List Char := (Text.trim secret).toList

/-- A secret that is masked, and can be: it is not too short, and not like the mask. -/
structure Maskable (secret : String) : Prop where
  long : minSecret ≤ Text.Utf8.size (Text.trim secret)
  foreign : Foreign (needle secret)

theorem Maskable.needle_ne_nil {secret : String} (h : Maskable secret) : needle secret ≠ [] := by
  intro hnil
  have hout := h.foreign.outside
  rw [hnil] at hout
  exact hout List.nil_infix

theorem not_infix_maskSecret {secret : String} (h : Maskable secret) (s : String) :
    ¬ needle secret <:+: (maskSecret s secret).toList := by
  have hlong : ¬ Text.Utf8.size (Text.trim secret) < minSecret := Nat.not_lt.mpr h.long
  simp only [maskSecret, if_neg hlong, Text.replace, String.toList_ofList]
  rw [toList_textMask]
  exact Text.not_infix_replaceFrom h.needle_ne_nil h.foreign.edge h.foreign.not_infix_mask

/-- None of the secrets is left in a masked text, whatever the others are. -/
theorem not_infix_maskSecrets {secret : String} {secrets : List String} (hmem : secret ∈ secrets)
    (h : Maskable secret) (s : String) :
    ¬ needle secret <:+: (maskSecrets s secrets).toList := by
  obtain ⟨before, after, rfl⟩ := List.append_of_mem hmem
  intro hin
  rw [maskSecrets_append, maskSecrets_cons] at hin
  exact not_infix_maskSecret h _ (h.foreign.infix_of_infix_maskSecrets hin)

end Redaction
end CommandAgent
