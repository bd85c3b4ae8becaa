import CommandAgent.Proofs.Redaction.Removal

/-!
# Texts put together from pieces

A text is made of pieces with a separator between them, a secret say. If the separator has no sign
in common with the pieces, it is found between them and nowhere else, so replacing it gives the same
pieces with the mask between them (`replaceFrom_intercalate_append`), and replacing a text that has
no sign in common with the separator is done piece by piece (`replaceFrom_intercalate`).

Within a limit the text begins with the same pieces, the last one maybe cut, unless the limit falls
inside a separator (`exists_keepBytes_intercalate`).
-/

namespace CommandAgent.Text

section
variable {s s' a b z mask needle : List Char} {pieces : List (List Char)}

/-! ### Separated pieces -/

theorem intercalate_append {before behind : List (List Char)} (hbefore : before ≠ [])
    (hbehind : behind ≠ []) :
    s.intercalate (before ++ behind) = s.intercalate before ++ s ++ s.intercalate behind := by
  induction before with
  | nil => exact absurd rfl hbefore
  | cons piece before ih =>
    cases before with
    | nil =>
      rw [List.singleton_append, List.intercalate_cons_of_ne_nil hbehind,
        List.intercalate_singleton]
    | cons next before =>
      have hcons : (next :: before) ++ behind ≠ [] := List.cons_ne_nil _ _
      rw [List.cons_append, List.intercalate_cons_of_ne_nil hcons, ih (List.cons_ne_nil _ _),
        List.intercalate_cons_cons]
      simp only [List.append_assoc]

/-- What follows the text belongs to its last piece. -/
theorem intercalate_concat_append (front : List (List Char)) (last : List Char) :
    s.intercalate (front ++ [last]) ++ z = s.intercalate (front ++ [last ++ z]) := by
  cases front with
  | nil =>
    rw [List.nil_append, List.nil_append, List.intercalate_singleton, List.intercalate_singleton]
  | cons piece front =>
    rw [intercalate_append (List.cons_ne_nil _ _) (List.cons_ne_nil _ _),
      intercalate_append (List.cons_ne_nil _ _) (List.cons_ne_nil _ _), List.intercalate_singleton,
      List.intercalate_singleton, List.append_assoc]

theorem bytes_intercalate_congr (h : bytes s = bytes s') (pieces : List (List Char)) :
    bytes (s.intercalate pieces) = bytes (s'.intercalate pieces) := by
  induction pieces with
  | nil => rfl
  | cons piece pieces ih =>
    cases pieces with
    | nil => rw [List.intercalate_singleton, List.intercalate_singleton]
    | cons next pieces =>
      rw [List.intercalate_cons_cons, List.intercalate_cons_cons]
      simp only [bytes_append, ih, h]

/-! ### Line breaks -/

/-- A character that is neither a line break nor the start of one stays as it is. -/
theorem flatten_cons_of_ne {c : Char} (hc : c ≠ '\n') (hcut : c ≠ '\r' ∨ a.head? ≠ some '\n') :
    flatten (c :: a) = c :: flatten a := by
  rw [flatten, if_neg hc]
  rintro rest rfl rfl
  rcases hcut with h | h <;> exact h rfl

theorem getLast?_cons_ne {c : Char} (h : (c :: a).getLast? ≠ some '\r' ∨ b.head? ≠ some '\n') :
    a.getLast? ≠ some '\r' ∨ b.head? ≠ some '\n' := by
  refine h.imp_left fun hlast heq => hlast ?_
  rw [List.getLast?_cons, heq]
  rfl

/-- Line breaks are written out part by part, if none of them is cut in two. -/
theorem flatten_append (h : a.getLast? ≠ some '\r' ∨ b.head? ≠ some '\n') :
    flatten (a ++ b) = flatten a ++ flatten b := by
  fun_induction flatten a with
  | case1 => rfl
  | case2 cs ih =>
    have hrest := getLast?_cons_ne (getLast?_cons_ne h)
    simp only [List.cons_append, flatten, ih hrest]
  | case3 cs hnot ih =>
    have hbreak : flatten ('\n' :: (cs ++ b)) = '\\' :: 'n' :: flatten (cs ++ b) := by
      rw [flatten, if_pos rfl]
      exact fun _ hc _ => absurd hc (by decide)
    rw [List.cons_append, hbreak, ih (getLast?_cons_ne h)]
    rfl
  | case4 c cs hnot hc ih =>
    have hcut : c ≠ '\r' ∨ (cs ++ b).head? ≠ some '\n' := by
      cases cs with
      | nil => exact h.imp_left fun hlast heq => hlast (by rw [heq]; rfl)
      | cons d cs =>
        by_cases hd : d = '\n'
        · exact .inl fun heq => hnot cs heq (by rw [hd])
        · exact .inr fun heq => hd (Option.some.inj heq)
    rw [List.cons_append, flatten_cons_of_ne hc hcut, ih (getLast?_cons_ne h)]
    rfl

/-- A text without line breaks stays as it is. -/
theorem flatten_of_notMem (h : '\n' ∉ a) : flatten a = a := by
  induction a with
  | nil => rfl
  | cons c a ih =>
    have hc : '\n' ≠ c := List.ne_of_not_mem_cons h
    have ha : '\n' ∉ a := List.not_mem_of_not_mem_cons h
    have hcut : c ≠ '\r' ∨ a.head? ≠ some '\n' :=
      .inr fun heq => ha (List.mem_of_head? heq)
    rw [flatten_cons_of_ne (Ne.symm hc) hcut, ih ha]

/-- Line breaks are written out piece by piece if the separator has none and does not end in a part
of one. -/
theorem flatten_intercalate (hs : s ≠ []) (hbreak : '\n' ∉ s) (hlast : s.getLast? ≠ some '\r')
    (pieces : List (List Char)) :
    flatten (s.intercalate pieces) = s.intercalate (pieces.map flatten) := by
  induction pieces with
  | nil => rfl
  | cons piece pieces ih =>
    cases pieces with
    | nil => rw [List.map_singleton, List.intercalate_singleton, List.intercalate_singleton]
    | cons next pieces =>
      have hhead : (s ++ s.intercalate (next :: pieces)).head? ≠ some '\n' := by
        obtain ⟨c, rest, rfl⟩ := List.exists_cons_of_ne_nil hs
        exact fun heq => hbreak (by rw [Option.some.inj heq]; exact List.mem_cons_self)
      rw [List.map_cons, List.map_cons, List.intercalate_cons_cons, List.intercalate_cons_cons,
        List.append_assoc, flatten_append (.inr hhead), flatten_append (.inl hlast),
        flatten_of_notMem hbreak, ih, List.append_assoc]
      rfl

/-- A text with its line breaks written out. -/
def written (t : String) : String := String.ofList (flatten t.toList)

theorem preview_eq (t : String) (limit : Nat) : preview t limit = shorten (written t) limit := rfl

/-- A text put on one line has no signs but its own and those of the escape. -/
theorem mem_of_mem_flatten {c : Char} (h : c ∈ flatten a) : c ∈ a ∨ c ∈ "\\n".toList := by
  fun_induction flatten a with
  | case1 => cases h
  | case2 cs ih =>
    rcases List.mem_append.mp (show c ∈ ['\\', 'n'] ++ flatten cs from h) with h | h
    · exact .inr h
    · exact (ih h).imp_left fun hcs => List.mem_cons_of_mem _ (List.mem_cons_of_mem _ hcs)
  | case3 cs hnot ih =>
    rcases List.mem_append.mp (show c ∈ ['\\', 'n'] ++ flatten cs from h) with h | h
    · exact .inr h
    · exact (ih h).imp_left (List.mem_cons_of_mem _)
  | case4 d cs hnot hd ih =>
    rcases List.mem_cons.mp h with rfl | h
    · exact .inl List.mem_cons_self
    · exact (ih h).imp_left (List.mem_cons_of_mem _)

/-! ### Limits -/

/-- The limit falls inside a separator: it is in front of where the separator ends, and some of the
separator is in front of it. -/
def FallsInside (limit : Nat) (s : List Char) (pieces : List (List Char)) : Prop :=
  ∃ before behind, pieces = before ++ behind ∧ before ≠ [] ∧ behind ≠ [] ∧
    bytes (s.intercalate before) < limit ∧ limit < bytes (s.intercalate before) + bytes s

/-- Where the limit falls inside a separator, the text begins with the pieces before it and the part
of the separator that is left. -/
theorem keepBytes_intercalate {limit : Nat} {before behind : List (List Char)}
    (hbefore : before ≠ []) (hbehind : behind ≠ []) (hstart : bytes (s.intercalate before) ≤ limit)
    (hend : limit ≤ bytes (s.intercalate before) + bytes s) :
    keepBytes limit (s.intercalate (before ++ behind)) =
      s.intercalate before ++ keepBytes (limit - bytes (s.intercalate before)) s := by
  rw [intercalate_append hbefore hbehind, List.append_assoc, keepBytes_append_of_le hstart,
    keepBytes_append_of_ge (by omega)]

/-- Unless the limit falls inside a separator, the text begins with some pieces, and with the same
ones whatever separator of this size is between them. -/
theorem exists_keepBytes_intercalate {limit : Nat} (hsize : bytes s = bytes s') (hne : pieces ≠ [])
    (hout : ¬ FallsInside limit s pieces) :
    ∃ kept ≠ [], (∀ p ∈ kept, ∃ q ∈ pieces, p <+: q) ∧
      keepBytes limit (s.intercalate pieces) = s.intercalate kept ∧
      keepBytes limit (s'.intercalate pieces) = s'.intercalate kept := by
  induction pieces generalizing limit with
  | nil => exact absurd rfl hne
  | cons piece pieces ih =>
    have hcut : ∃ q ∈ piece :: pieces, keepBytes limit piece <+: q :=
      ⟨piece, List.mem_cons_self, (longest_keepBytes limit piece).isPrefix⟩
    cases pieces with
    | nil =>
      refine ⟨[keepBytes limit piece], List.cons_ne_nil _ _, by simpa using hcut, ?_, ?_⟩ <;>
        simp only [List.intercalate_singleton]
    | cons next pieces =>
      simp only [List.intercalate_cons_cons, List.append_assoc]
      by_cases hin : limit ≤ bytes piece
      · refine ⟨[keepBytes limit piece], List.cons_ne_nil _ _, by simpa using hcut, ?_, ?_⟩ <;>
          rw [keepBytes_append_of_ge hin, List.intercalate_singleton]
      · have hbehind : bytes piece + bytes s ≤ limit := by
          refine Nat.le_of_not_lt fun hinside => ?_
          refine hout ⟨[piece], next :: pieces, rfl, List.cons_ne_nil _ _, List.cons_ne_nil _ _, ?_⟩
          rw [List.intercalate_singleton]
          omega
        have hrest : ¬ FallsInside (limit - (bytes piece + bytes s)) s (next :: pieces) := by
          rintro ⟨before, behind, heq, hbefore, hbehind', hstart, hend⟩
          refine hout
            ⟨piece :: before, behind, by rw [heq]; rfl, List.cons_ne_nil _ _, hbehind', ?_⟩
          rw [List.intercalate_cons_of_ne_nil hbefore, bytes_append, bytes_append]
          omega
        obtain ⟨kept, hkept, hsub, hs, hs'⟩ := ih (List.cons_ne_nil _ _) hrest
        refine ⟨piece :: kept, List.cons_ne_nil _ _, ?_, ?_, ?_⟩
        · intro p hp
          rcases List.mem_cons.mp hp with rfl | hp
          · exact ⟨p, List.mem_cons_self, List.prefix_refl p⟩
          · obtain ⟨q, hq, hpre⟩ := hsub p hp
            exact ⟨q, List.mem_cons_of_mem _ hq, hpre⟩
        · rw [keepBytes_append_of_le (by omega), keepBytes_append_of_le (by omega), Nat.sub_sub, hs,
            List.intercalate_cons_of_ne_nil hkept, List.append_assoc]
        · rw [keepBytes_append_of_le (by omega), keepBytes_append_of_le (by omega), Nat.sub_sub,
            ← hsize, hs', List.intercalate_cons_of_ne_nil hkept, List.append_assoc]

/-! ### Replacing -/

/-- What has no sign in common with the needle is passed over. -/
theorem replaceFrom_append_of_apart (hne : needle ≠ []) (ha : ∀ c ∈ a, c ∉ needle) :
    replaceFrom needle mask 0 (a ++ b) = a ++ replaceFrom needle mask 0 b := by
  induction a with
  | nil => rfl
  | cons c a ih =>
    obtain ⟨hc, ha⟩ := List.forall_mem_cons.mp ha
    have hcut : replaceFrom needle mask 0 ([] ++ c :: (a ++ b)) =
        [] ++ c :: replaceFrom needle mask 0 (a ++ b) :=
      replaceFrom_append_cons hne hc (Nat.zero_le _)
    rw [ih ha] at hcut
    exact hcut

/-- Replacing the separator gives the same pieces with the mask between them. -/
theorem replaceFrom_intercalate_append (hs : s ≠ []) (hpieces : ∀ p ∈ pieces, ∀ c ∈ p, c ∉ s) :
    replaceFrom s mask 0 (s.intercalate pieces ++ z) =
      mask.intercalate pieces ++ replaceFrom s mask 0 z := by
  induction pieces with
  | nil => rfl
  | cons piece pieces ih =>
    obtain ⟨hpiece, hpieces⟩ := List.forall_mem_cons.mp hpieces
    cases pieces with
    | nil =>
      rw [List.intercalate_singleton, List.intercalate_singleton,
        replaceFrom_append_of_apart hs hpiece]
    | cons next pieces =>
      simp only [List.intercalate_cons_cons, List.append_assoc]
      rw [replaceFrom_append_of_apart hs hpiece, replaceFrom_append_self hs, ih hpieces]

/-- A beginning of the separator that is not all of it is no separator, and neither is it with
something behind it that has no sign in common with the separator. -/
theorem replaceFrom_append_of_part (hpart : a <+: s) (hless : a ≠ s) (hz : ∀ c ∈ z, c ∉ s) :
    replaceFrom s mask 0 (a ++ z) = a ++ z := by
  have hout : ¬ s <:+: a := fun hin => hless (hpart.eq_of_length_le hin.length_le)
  apply replaceFrom_of_not_infix
  cases z with
  | nil => rwa [List.append_nil]
  | cons x z =>
    obtain ⟨hx, hz⟩ := List.forall_mem_cons.mp hz
    rw [infix_append_cons_iff hx]
    rintro (hin | hin)
    · exact hout hin
    · have hnil : s = [] := List.eq_nil_iff_forall_not_mem.mpr fun c hc => hz c (hin.subset hc) hc
      exact hout (hnil ▸ List.nil_infix)

/-- Replacing a text that has no sign in common with the separator is done piece by piece. -/
theorem replaceFrom_intercalate (hne : needle ≠ []) (hs : s ≠ []) (hapart : ∀ c ∈ s, c ∉ needle)
    (pieces : List (List Char)) :
    replaceFrom needle mask 0 (s.intercalate pieces) =
      s.intercalate (pieces.map (replaceFrom needle mask 0)) := by
  induction pieces with
  | nil => rfl
  | cons piece pieces ih =>
    cases pieces with
    | nil => rw [List.map_singleton, List.intercalate_singleton, List.intercalate_singleton]
    | cons next pieces =>
      obtain ⟨x, rest, rfl⟩ := List.exists_cons_of_ne_nil hs
      obtain ⟨hx, hrest⟩ := List.forall_mem_cons.mp hapart
      rw [List.map_cons] at ih
      rw [List.map_cons, List.map_cons, List.intercalate_cons_cons, List.intercalate_cons_cons,
        List.append_assoc, List.cons_append, replaceFrom_append_cons hne hx (Nat.zero_le _),
        replaceFrom_append_of_apart hne hrest, ih, List.append_assoc, List.cons_append]

end
end CommandAgent.Text
