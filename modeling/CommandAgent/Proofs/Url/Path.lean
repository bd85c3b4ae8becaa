import CommandAgent.Proofs.Url.Percent
import CommandAgent.Url.Basic

/-!
# Paths of URLs

A path that has been read consists of settled segments: nothing in them is left to be encoded, they
hold no slash, and none of them is a dot or two, however spelt (`isPath_readPath`). Reading such a
path changes nothing (`readPath_of_isPath`). A text that is one such segment once it has been
encoded is read as a path with nothing else in it (`readPath_of_segment`).
-/

namespace CommandAgent.Url

/-- A segment that reading leaves alone. -/
structure Segment (s : List Char) : Prop where
  encoded : ∀ c ∈ s, pathSet c = false
  solid : ∀ c ∈ s, c ≠ '/'
  single : isSingleDot s = false
  double : isDoubleDot s = false

theorem segment_nil : Segment [] where
  encoded := fun c hc => absurd hc List.not_mem_nil
  solid := fun c hc => absurd hc List.not_mem_nil
  single := by decide
  double := by decide

/-! ### Working off -/

theorem goUp_subset (done : List (List Char)) : goUp done ⊆ done := by
  unfold goUp
  split
  · exact List.nil_subset _
  · split
    · exact List.Subset.refl _
    · exact List.dropLast_subset _

/-- What is worked off has a property if the empty segment has it and so has each segment that is
no dot. -/
theorem workOff_forall {P : List Char → Prop} (hnil : P []) {done raw : List (List Char)}
    (hdone : ∀ s ∈ done, P s)
    (hraw : ∀ s ∈ raw, isSingleDot s = false → isDoubleDot s = false → P s) :
    (∀ s ∈ (workOff done raw).done, P s) ∧ P (workOff done raw).last := by
  have hup (done : List (List Char)) (hdone : ∀ s ∈ done, P s) : ∀ s ∈ goUp done, P s :=
    fun s hs => hdone s (goUp_subset done hs)
  -- on the raw segments, with any done: going up takes some of those away and adds none
  induction raw generalizing done with
  | nil =>
    rw [workOff]
    exact ⟨hdone, hnil⟩
  | cons s raw ih =>
    obtain ⟨hs, hraw⟩ := List.forall_mem_cons.mp hraw
    cases raw with
    | nil =>
      rw [workOff]
      split
      · exact ⟨hup done hdone, hnil⟩
      split
      · exact ⟨hdone, hnil⟩
      · next hdouble hsingle =>
        exact ⟨hdone, hs (Bool.eq_false_iff.mpr hsingle) (Bool.eq_false_iff.mpr hdouble)⟩
    | cons t raw =>
      rw [workOff]
      · split
        · exact ih (hup done hdone) hraw
        split
        · exact ih hdone hraw
        · next hdouble hsingle =>
          have hs := hs (Bool.eq_false_iff.mpr hsingle) (Bool.eq_false_iff.mpr hdouble)
          refine ih (List.forall_mem_append.mpr ⟨hdone, ?_⟩) hraw
          simpa using hs
      · exact List.cons_ne_nil t raw

/-- Segments that are no dots are worked off to themselves. -/
theorem workOff_of_segments {done : List (List Char)} {last : List Char}
    (hdone : ∀ s ∈ done, Segment s) (hlast : Segment last) (before : List (List Char)) :
    workOff before (done ++ [last]) = ⟨before ++ done, last⟩ := by
  induction done generalizing before with
  | nil =>
    rw [List.nil_append, workOff, hlast.double, hlast.single, List.append_nil]
    rfl
  | cons s done ih =>
    obtain ⟨hs, hdone⟩ := List.forall_mem_cons.mp hdone
    rw [List.cons_append, workOff, hs.double, hs.single]
    · simp only [Bool.false_eq_true, if_false]
      rw [ih hdone, List.append_assoc, List.singleton_append]
    · simp

/-! ### Splitting -/

/-- No part has a character that the text was split at. -/
theorem forall_of_mem_splitOnP {p : Char → Bool} {cs s : List Char} (h : s ∈ cs.splitOnP p) :
    ∀ c ∈ s, p c = false := by
  induction cs generalizing s with
  | nil =>
    rw [List.splitOnP_nil, List.mem_singleton] at h
    rw [h]
    exact fun c hc => absurd hc List.not_mem_nil
  | cons c cs ih =>
    rw [List.splitOnP_cons_eq_if_modifyHead] at h
    split at h
    · rcases List.mem_cons.mp h with rfl | h
      · exact fun c hc => absurd hc List.not_mem_nil
      · exact ih h
    · next hc =>
      -- a character that does not separate comes to the front of the first part
      obtain ⟨t, rest, hsplit⟩ := List.exists_cons_of_ne_nil (List.splitOnP_ne_nil p cs)
      rw [hsplit] at ih h
      rw [List.modifyHead_cons] at h
      rcases List.mem_cons.mp h with rfl | h
      · exact List.forall_mem_cons.mpr ⟨Bool.eq_false_iff.mpr hc, ih List.mem_cons_self⟩
      · exact ih (List.mem_cons_of_mem t h)

/-- The text of segments is split into them. -/
theorem splitOnP_segments {p : Char → Bool} (hslash : p '/' = true) {done : List (List Char)}
    {last : List Char} (hdone : ∀ s ∈ done, ∀ c ∈ s, p c = false)
    (hlast : ∀ c ∈ last, p c = false) :
    (done.flatMap (fun s => s ++ ['/']) ++ last).splitOnP p = done ++ [last] := by
  induction done with
  | nil => exact List.splitOnP_eq_singleton hlast
  | cons s done ih =>
    obtain ⟨hs, hdone⟩ := List.forall_mem_cons.mp hdone
    rw [List.flatMap_cons, List.append_assoc, List.append_assoc, List.singleton_append,
      List.splitOnP_append_cons_of_forall_mem hs '/' hslash, ih hdone, List.cons_append]

/-! ### Reading -/

/-- The text of a path that has been read. -/
inductive IsPath : List Char → Prop where
  | empty : IsPath []
  | segments {p : Segments} : (∀ s ∈ p.done, Segment s) → Segment p.last → IsPath p.text

theorem isSlash_false_iff {c : Char} : isSlash false c = false ↔ c ≠ '/' := by
  simp [isSlash]

/-- Segments that are encoded and worked off make a path that reading leaves alone. -/
theorem isPath_workOff (body : List Char) :
    IsPath (workOff [] ((body.splitOnP (isSlash false)).map (encodeWith pathSet))).text := by
  have hworked := workOff_forall (P := Segment) segment_nil (fun s hs => absurd hs List.not_mem_nil)
    (fun s (hs : s ∈ (body.splitOnP (isSlash false)).map (encodeWith pathSet)) hsingle hdouble => by
      obtain ⟨raw, hraw, rfl⟩ := List.mem_map.mp hs
      have hkept : ∀ c ∈ raw, pathSet c = false → c ≠ '/' := fun c hc _ =>
        isSlash_false_iff.mp (forall_of_mem_splitOnP hraw c hc)
      exact ⟨forall_encodeWith spares_pathSet raw,
        forall_mem_encodeWith (by decide) (by decide) hkept, hsingle, hdouble⟩)
  exact .segments hworked.1 hworked.2

theorem isPath_readPath (cs : List Char) : IsPath (readPath false cs).toList := by
  unfold readPath
  split
  · exact .empty
  · rw [String.toList_ofList]
    exact isPath_workOff _

/-- A path that has been read is read as it is. -/
theorem readPath_of_isPath {cs : List Char} (h : IsPath cs) :
    readPath false cs = String.ofList cs := by
  cases h with
  | empty => rfl
  | @segments p hdone hlast =>
    have hslash : isSlash false '/' = true := rfl
    have hsplit := splitOnP_segments hslash
      (fun s hs c hc => isSlash_false_iff.mpr ((hdone s hs).solid c hc))
      (fun c hc => isSlash_false_iff.mpr (hlast.solid c hc))
    have hencoded : (p.done ++ [p.last]).map (encodeWith pathSet) = p.done ++ [p.last] := by
      refine (List.map_congr_left fun s hs => ?_).trans (List.map_id _)
      rcases List.mem_append.mp hs with hs | hs
      · exact encodeWith_of_forall (hdone s hs).encoded
      · rw [List.mem_singleton.mp hs]
        exact encodeWith_of_forall hlast.encoded
    unfold readPath
    rw [if_neg (by simp [Segments.text])]
    simp only [Segments.text, List.cons_append, hslash, if_true]
    rw [hsplit, hencoded, workOff_of_segments hdone hlast]
    rfl

/-- A text without slashes that is encoded to a segment is a path of one segment. -/
theorem readPath_of_segment {cs : List Char} (hne : cs ≠ []) (hsolid : ∀ c ∈ cs, c ≠ '/')
    (h : Segment (encodeWith pathSet cs)) :
    readPath false cs = String.ofList ('/' :: encodeWith pathSet cs) := by
  obtain ⟨c, t, rfl⟩ := List.exists_cons_of_ne_nil hne
  have hfirst : isSlash false c = false := isSlash_false_iff.mpr (hsolid c List.mem_cons_self)
  have hsplit : (c :: t).splitOnP (isSlash false) = [c :: t] :=
    List.splitOnP_eq_singleton fun d hd => isSlash_false_iff.mpr (hsolid d hd)
  have hworked := workOff_of_segments (fun s hs => absurd hs List.not_mem_nil) h []
  unfold readPath
  rw [if_neg (by simp)]
  simp only [hfirst, Bool.false_eq_true, if_false]
  rw [hsplit, List.map_singleton, ← List.nil_append [encodeWith pathSet (c :: t)], hworked]
  rfl

/-! ### Encoded texts -/

/-- However a dot is spelt, it stands for a dot. -/
theorem decodeBytes_of_isSingleDot {cs : List Char} (h : isSingleDot cs) :
    decodeBytes cs = [0x2E] := by
  obtain ⟨spelling, hmem, heq⟩ := List.any_eq_true.mp h
  have hall : ∀ s ∈ [".", "%2e", "%2E"], decodeBytes s.toList = [0x2E] := by decide
  rw [← eq_of_beq heq]
  exact hall spelling hmem

theorem decodeBytes_of_isDoubleDot {cs : List Char} (h : isDoubleDot cs) :
    decodeBytes cs = [0x2E, 0x2E] := by
  obtain ⟨spelling, hmem, heq⟩ := List.any_eq_true.mp h
  have hall : ∀ s ∈ ["..", "%2e%2e", "%2e%2E", "%2E%2e", "%2E%2E", "%2e.", "%2E.", ".%2e", ".%2E"],
      decodeBytes s.toList = [0x2E, 0x2E] := by decide
  rw [← eq_of_beq heq]
  exact hall spelling hmem

/-- A text without slashes that stands for neither one dot nor two is encoded to a segment. -/
theorem segment_encodeWith {cs : List Char} (hsolid : ∀ c ∈ cs, c ≠ '/')
    (hsingle : decodeBytes cs ≠ [0x2E]) (hdouble : decodeBytes cs ≠ [0x2E, 0x2E]) :
    Segment (encodeWith pathSet cs) where
  encoded := forall_encodeWith spares_pathSet cs
  solid := forall_mem_encodeWith (by decide) (by decide) fun c hc _ => hsolid c hc
  -- a spelling of a dot would stand for what the text stands for
  single := by
    rw [Bool.eq_false_iff]
    intro hdot
    apply hsingle
    rw [← decodeBytes_encodeWith spares_pathSet cs]
    exact decodeBytes_of_isSingleDot hdot
  double := by
    rw [Bool.eq_false_iff]
    intro hdots
    apply hdouble
    rw [← decodeBytes_encodeWith spares_pathSet cs]
    exact decodeBytes_of_isDoubleDot hdots

/-! ### Characters -/

/-- Nothing in a path is left to be encoded. -/
theorem IsPath.encoded {cs : List Char} (h : IsPath cs) : ∀ c ∈ cs, pathSet c = false := by
  have hslash : pathSet '/' = false := by decide
  cases h with
  | empty => exact fun c hc => absurd hc List.not_mem_nil
  | @segments p hdone hlast =>
    intro c hc
    rcases List.mem_cons.mp hc with rfl | hc
    · exact hslash
    rcases List.mem_append.mp hc with hc | hc
    · obtain ⟨s, hs, hc⟩ := List.mem_flatMap.mp hc
      rcases List.mem_append.mp hc with hc | hc
      · exact (hdone s hs).encoded c hc
      · rw [List.mem_singleton.mp hc]
        exact hslash
    · exact hlast.encoded c hc

/-- A path is empty or starts with a slash. -/
theorem IsPath.head? {cs : List Char} (h : IsPath cs) : ∀ c ∈ cs.head?, c = '/' := by
  cases h with
  | empty => exact fun c hc => by cases hc
  | segments => exact fun c hc => by cases hc; rfl

end CommandAgent.Url
