import CommandAgent.Proofs.Text.Pieces

/-!
# Where a text is cut

Text is cut in its bytes: from the limit one goes back to the last offset at which a character
begins or the text ends (`boundaryBefore`). Such an offset is the size of a beginning of the text
that is made of whole characters, and the other way round (`isBoundary_iff`), so what is in front of
it is the longest such beginning within the limit (`encode_truncatePrefix`).

The preview of an output is cut in the same way, once its line breaks have been written out. That is
done for the two kinds of line breaks one after the other, and comes to the same as one pass over
the text (`written_eq_replace`).
-/

namespace CommandAgent.Text

open Utf8 (encode)

/-! ### Boundaries -/

/-- The offset of the first byte of a character, or the end of the bytes. -/
def IsBoundary (bs : Bytes) (n : Nat) : Prop := n = bs.length ∨ ∃ b ∈ bs[n]?, b.IsUTF8FirstByte

instance (bs : Bytes) (n : Nat) : Decidable (IsBoundary bs n) := inferInstanceAs (Decidable (_ ∨ _))

/-- Back from an offset to the last boundary that is not behind it, or to the beginning. -/
def boundaryBefore (bs : Bytes) : Nat → Nat
  | 0 => 0
  | n + 1 => if IsBoundary bs (n + 1) then n + 1 else boundaryBefore bs n

section
variable {bs : Bytes} {n limit : Nat} {kept cs : List Char}

theorem IsBoundary.le (h : IsBoundary bs n) : n ≤ bs.length := by
  rcases h with rfl | ⟨b, hb, -⟩
  · exact Nat.le_refl _
  · exact Nat.le_of_lt (List.getElem?_eq_some_iff.mp hb).1

/-- Inside the bytes of a character is no boundary, and behind them are those of the rest. -/
theorem isBoundary_encodeChar_append {c : Char} :
    IsBoundary (String.utf8EncodeChar c ++ bs) n ↔
      n = 0 ∨ (c.utf8Size ≤ n ∧ IsBoundary bs (n - c.utf8Size)) := by
  have hsize := String.length_utf8EncodeChar c
  have hpos := c.utf8Size_pos
  rw [IsBoundary, IsBoundary, List.length_append, hsize]
  rcases Nat.lt_or_ge n c.utf8Size with hlt | hge
  · have hinside : n < (String.utf8EncodeChar c).length := by omega
    rw [List.getElem?_append_left hinside, List.getElem?_eq_getElem hinside]
    simp only [Option.mem_def, Option.some.injEq, exists_eq_left',
      UInt8.isUTF8FirstByte_getElem_utf8EncodeChar]
    omega
  · rw [List.getElem?_append_right (by omega), hsize]
    constructor
    · rintro (hend | hfirst)
      · exact .inr ⟨hge, .inl (by omega)⟩
      · exact .inr ⟨hge, .inr hfirst⟩
    · rintro (hzero | ⟨-, hend | hfirst⟩)
      · omega
      · exact .inl (by omega)
      · exact .inr hfirst

/-- The boundaries of a text are the sizes of its beginnings. -/
theorem isBoundary_iff :
    IsBoundary (cs.flatMap String.utf8EncodeChar) n ↔ ∃ p, p <+: cs ∧ bytes p = n := by
  induction cs generalizing n with
  | nil =>
    rw [List.flatMap_nil, IsBoundary]
    simp [eq_comm]
  | cons c cs ih =>
    rw [List.flatMap_cons, isBoundary_encodeChar_append, ih]
    constructor
    · rintro (rfl | ⟨hge, p, hp, hbytes⟩)
      · exact ⟨[], List.nil_prefix, rfl⟩
      · exact ⟨c :: p, List.cons_prefix_cons.mpr ⟨rfl, hp⟩, by rw [bytes_cons]; omega⟩
    · rintro ⟨p, hp, rfl⟩
      rcases List.prefix_cons_iff.mp hp with rfl | ⟨rest, rfl, hrest⟩
      · exact .inl rfl
      · rw [bytes_cons]
        exact .inr ⟨by omega, rest, hrest, by omega⟩

theorem isBoundary_zero (cs : List Char) : IsBoundary (cs.flatMap String.utf8EncodeChar) 0 :=
  isBoundary_iff.mpr ⟨[], List.nil_prefix, rfl⟩

/-- Going back stops at the last boundary. -/
theorem boundaryBefore_last (hzero : IsBoundary bs 0) (limit : Nat) :
    IsBoundary bs (boundaryBefore bs limit) ∧ boundaryBefore bs limit ≤ limit ∧
      ∀ m ≤ limit, IsBoundary bs m → m ≤ boundaryBefore bs limit := by
  induction limit with
  | zero => exact ⟨hzero, Nat.le_refl 0, fun m hm _ => hm⟩
  | succ n ih =>
    rw [boundaryBefore]
    split
    · next hboundary => exact ⟨hboundary, Nat.le_refl _, fun m hm _ => hm⟩
    · next hnot =>
      obtain ⟨hboundary, hle, hlast⟩ := ih
      refine ⟨hboundary, Nat.le_succ_of_le hle, ?_⟩
      intro m hm hm'
      have hne : m ≠ n + 1 := by
        rintro rfl
        exact hnot hm'
      exact hlast m (by omega) hm'

/-- The longest beginning within a limit ends at the last boundary. -/
theorem Longest.bytes_eq (h : Longest limit kept cs) :
    bytes kept = boundaryBefore (cs.flatMap String.utf8EncodeChar) limit := by
  obtain ⟨hboundary, hle, hlast⟩ := boundaryBefore_last (isBoundary_zero cs) limit
  apply Nat.le_antisymm
  · exact hlast _ h.fits (isBoundary_iff.mpr ⟨kept, h.isPrefix, rfl⟩)
  · obtain ⟨p, hp, hbytes⟩ := isBoundary_iff.mp hboundary
    obtain ⟨rest, rfl⟩ := h.longest hp (by omega)
    rw [← hbytes, bytes_append]
    omega

end

/-! ### Cutting -/

/-- What is kept of a text that is cut at an offset: the offset is the last boundary within the
limit, and what is in front of it is the longest beginning of whole characters that fits. -/
structure CutAt (limit n : Nat) (s kept : String) : Prop where
  longest : Longest limit kept.toList s.toList
  bytes : encode kept = (encode s).take n
  boundary : IsBoundary (encode s) n
  inside : n ≤ (encode s).length
  fits : n ≤ limit
  last {m : Nat} : m ≤ limit → IsBoundary (encode s) m → m ≤ n

theorem longest_truncatePrefix (s : String) (limit : Nat) :
    Longest limit (truncatePrefix s limit).toList s.toList := by
  rw [truncatePrefix, String.toList_ofList]
  exact longest_keepBytes limit s.toList

theorem size_truncatePrefix (s : String) (limit : Nat) :
    Utf8.size (truncatePrefix s limit) = boundaryBefore (encode s) limit :=
  (longest_truncatePrefix s limit).bytes_eq

/-- What is kept of a text are its bytes in front of the last boundary within the limit. -/
theorem encode_truncatePrefix (s : String) (limit : Nat) :
    encode (truncatePrefix s limit) = (encode s).take (boundaryBefore (encode s) limit) := by
  obtain ⟨rest, hrest⟩ := (longest_truncatePrefix s limit).isPrefix
  have hsplit :
      encode s = encode (truncatePrefix s limit) ++ rest.flatMap String.utf8EncodeChar := by
    rw [encode, ← hrest, List.flatMap_append, encode]
  rw [← size_truncatePrefix, Utf8.size, hsplit, List.take_left]

/-- A text is cut at the last boundary of a character within the limit. -/
theorem cutAt_truncatePrefix (s : String) (limit : Nat) :
    CutAt limit (boundaryBefore (encode s) limit) s (truncatePrefix s limit) := by
  obtain ⟨hboundary, hfits, hlast⟩ := boundaryBefore_last (isBoundary_zero s.toList) limit
  exact {
    longest := longest_truncatePrefix s limit
    bytes := encode_truncatePrefix s limit
    boundary := hboundary
    inside := IsBoundary.le hboundary
    fits := hfits
    last := fun hm hm' => hlast _ hm hm' }

/-! ### Line breaks -/

theorem replaceFrom_cons_of_not_begins {needle mask cs : List Char} {c : Char}
    (h : ¬ needle <+: c :: cs) :
    replaceFrom needle mask 0 (c :: cs) = c :: replaceFrom needle mask 0 cs := by
  rw [replaceFrom, if_neg (mt List.isPrefixOf_iff_prefix.mp h)]

/-- Replacing the long line breaks and then what is left of line breaks is writing all of them out:
nothing that is written for a long one is taken for a short one, and none is made of the parts. -/
theorem replaceFrom_replaceFrom (cs : List Char) :
    replaceFrom ['\n'] ['\\', 'n'] 0 (replaceFrom ['\r', '\n'] ['\\', 'n'] 0 cs) = flatten cs := by
  have hmask (rest : List Char) :
      replaceFrom ['\n'] ['\\', 'n'] 0 (['\\', 'n'] ++ rest) =
        ['\\', 'n'] ++ replaceFrom ['\n'] ['\\', 'n'] 0 rest :=
    replaceFrom_append_of_apart (List.cons_ne_nil _ _) (List.forall_mem_cons.mpr
      ⟨by decide, List.forall_mem_cons.mpr ⟨by decide, List.forall_mem_nil _⟩⟩)
  fun_induction flatten cs with
  | case1 => rfl
  | case2 cs ih =>
    have hlong : replaceFrom ['\r', '\n'] ['\\', 'n'] 0 ('\r' :: '\n' :: cs) =
        ['\\', 'n'] ++ replaceFrom ['\r', '\n'] ['\\', 'n'] 0 cs :=
      replaceFrom_append_self (List.cons_ne_nil _ _)
    rw [hlong, hmask, ih]
    rfl
  | case3 cs _ ih =>
    have hnot : ¬ ['\r', '\n'] <+: '\n' :: cs := by
      rw [List.cons_prefix_cons]
      exact fun h => absurd h.1 (by decide)
    have hshort (rest : List Char) : replaceFrom ['\n'] ['\\', 'n'] 0 ('\n' :: rest) =
        ['\\', 'n'] ++ replaceFrom ['\n'] ['\\', 'n'] 0 rest :=
      replaceFrom_append_self (List.cons_ne_nil _ _)
    rw [replaceFrom_cons_of_not_begins hnot, hshort, ih]
    rfl
  | case4 c cs hnot hc ih =>
    have hlong : ¬ ['\r', '\n'] <+: c :: cs := by
      rintro ⟨rest, hrest⟩
      obtain ⟨rfl, rfl⟩ := List.cons.inj hrest
      exact hnot rest rfl rfl
    have hshort (rest : List Char) : ¬ ['\n'] <+: c :: rest := by
      rw [List.cons_prefix_cons]
      exact fun h => hc h.1.symm
    rw [replaceFrom_cons_of_not_begins hlong, replaceFrom_cons_of_not_begins (hshort _), ih]

theorem written_eq_replace (s : String) :
    written s = replace (replace s "\r\n" "\\n") "\n" "\\n" := by
  have hlong : (replace s "\r\n" "\\n").toList =
      replaceFrom ['\r', '\n'] ['\\', 'n'] 0 s.toList := String.toList_ofList
  rw [written, ← replaceFrom_replaceFrom, ← hlong]
  rfl

/-- No line break is left. -/
theorem newline_notMem_flatten (cs : List Char) : '\n' ∉ flatten cs := by
  fun_induction flatten cs with
  | case1 => exact List.not_mem_nil
  | case2 cs ih => simpa using ih
  | case3 cs _ ih => simpa using ih
  | case4 c cs _ hc ih =>
    rw [List.mem_cons, not_or]
    exact ⟨Ne.symm hc, ih⟩

/-! ### Previews -/

theorem newline_notMem_shorten {s : String} (h : '\n' ∉ s.toList) (limit : Nat) :
    '\n' ∉ (shorten s limit).toList := by
  rw [shorten]
  split
  · exact h
  · rw [String.toList_append, List.mem_append, not_or]
    exact ⟨fun hmem => h ((longest_truncatePrefix s limit).isPrefix.subset hmem), by decide⟩

/-- A shortened text is longer than the limit by its dots at most. -/
theorem size_shorten_le (s : String) (limit : Nat) : Utf8.size (shorten s limit) ≤ limit + 3 := by
  rw [shorten]
  split
  · next hfits => omega
  · have hkept := (longest_truncatePrefix s limit).fits
    have hdots : bytes "...".toList = 3 := by decide
    rw [size_eq_bytes, String.toList_append, bytes_append, hdots]
    omega

/-- A text is cut at the last boundary within a limit, which keeps the longest beginning of whole
characters that fits. The preview of a text has no line break and at most the three dots beyond the
limit: it is the text with its line breaks written out, the long ones first, if that fits, and else
that text cut in the same way, with the dots behind. -/
theorem preview_exactly (s : String) (limit : Nat) :
    CutAt limit (boundaryBefore (encode s) limit) s (truncatePrefix s limit) ∧
    written s = replace (replace s "\r\n" "\\n") "\n" "\\n" ∧
    '\n' ∉ (preview s limit).toList ∧
    Utf8.size (preview s limit) ≤ limit + 3 ∧
    (Utf8.size (written s) ≤ limit → preview s limit = written s) ∧
    (limit < Utf8.size (written s) →
      ∃ n kept, CutAt limit n (written s) kept ∧ preview s limit = kept ++ "...") := by
  have hwritten : '\n' ∉ (written s).toList := by
    rw [written, String.toList_ofList]
    exact newline_notMem_flatten s.toList
  rw [preview_eq]
  refine ⟨cutAt_truncatePrefix s limit, written_eq_replace s, newline_notMem_shorten hwritten limit,
    size_shorten_le (written s) limit, ?_, ?_⟩
  · intro hfits
    rw [shorten, if_pos hfits]
  · intro hlong
    refine ⟨_, _, cutAt_truncatePrefix (written s) limit, ?_⟩
    rw [shorten, if_neg (Nat.not_le.mpr hlong)]

/-- A limit inside a character, behind a line break of each kind. -/
theorem preview_exactly_inside :
    4 < Utf8.size (written "\r\n\n\r€") ∧
      ∃ n kept, CutAt 4 n (written "\r\n\n\r€") kept ∧ preview "\r\n\n\r€" 4 = kept ++ "..." := by
  have hlong : 4 < Utf8.size (written "\r\n\n\r€") := by decide
  exact ⟨hlong, (preview_exactly "\r\n\n\r€" 4).2.2.2.2.2 hlong⟩

end CommandAgent.Text
