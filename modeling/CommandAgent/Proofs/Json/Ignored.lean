import CommandAgent.Proofs.Json.Tokens

/-!
# Values that are passed over

A value of an unknown member is passed over without a stack of calls: the frames around the place
that has been reached are kept on a list. So what is left to read is told by that list: behind a
value, each frame still wants its other entries and its closing (`Closes`). That the reader takes
exactly one value and what closes the frames around it is an induction on its fuel
(`skipValues_sound`, `skipValues_complete`); with no frames around it, it takes one value.
-/

namespace CommandAgent.Json

open Grammar
open CommandAgent.Json.Stream (Frame skipToken skipSeparators skipValues ignored)

/-! ### Separators -/

/-- What is wanted behind a value, by the frames around it: the other entries and the closing of
each, from the innermost to the outermost. -/
inductive Closes : List Frame → Bytes → Prop
  | nil : Closes [] []
  | cons {f : Frame} {fs : List Frame} {es : List (Bytes × Bytes)} {t u : Bytes} : Rest es t →
      (∀ e ∈ es, Lead f e.1) → (∀ e ∈ es, Value e.2) → Closes fs u →
      Closes (f :: fs) (t ++ closing f :: u)

/-- Blanks and the closing of the innermost frame, and what the others want. -/
theorem Closes.closing {f : Frame} {fs : List Frame} {a u : Bytes} (ha : Blanks a)
    (h : Closes fs u) : Closes (f :: fs) (a ++ closing f :: u) :=
  .cons (.nil ha) (fun _ he => absurd he List.not_mem_nil)
    (fun _ he => absurd he List.not_mem_nil) h

/-- A comma and one more entry may come before. -/
theorem Closes.comma {f : Frame} {fs : List Frame} {a lead v u : Bytes} (ha : Blanks a)
    (hlead : Lead f lead) (hv : Value v) (h : Closes (f :: fs) u) :
    Closes (f :: fs) (a ++ code ',' :: (lead ++ (v ++ u))) := by
  cases h with
  | @cons _ _ es t u ht hleads hvalues hu =>
    have hcut : a ++ code ',' :: (lead ++ (v ++ (t ++ Grammar.closing f :: u))) =
        (a ++ code ',' :: (lead ++ (v ++ t))) ++ Grammar.closing f :: u := by simp
    rw [hcut]
    exact .cons (.cons ha ht) (List.forall_mem_cons.mpr ⟨hlead, hleads⟩)
      (List.forall_mem_cons.mpr ⟨hv, hvalues⟩) hu

theorem isJsonBlank_closing (f : Frame) : isJsonBlank (closing f) = false := by
  cases f <;> decide

theorem closing_ne_comma (f : Frame) : closing f ≠ code ',' := by
  cases f <;> decide

/-- The byte closes the frame. -/
theorem closes_iff (b : UInt8) (f : Frame) :
    ((b = code ']' ∧ f = .array) ∨ (b = code '\x7d' ∧ f = .object)) ↔ b = closing f := by
  cases f <;> simp [closing]

/-- One step between the values of frames, by the first byte that is not blank. -/
theorem skipSeparators_cons {n : Nat} {afterValue : Bool} {f : Frame} {fs : List Frame}
    {c : Cursor} {b : UInt8} {t : Bytes} {i : Nat} (h : skipBlanks c = ⟨i, b :: t⟩) :
    skipSeparators (n + 1) afterValue (f :: fs) c =
      if afterValue ∧ b = code ',' then .ok (f :: fs, ⟨i + 1, t⟩)
      else if b = closing f then skipSeparators n true fs ⟨i + 1, t⟩
      else if afterValue then
        .error ((Cursor.mk i (b :: t)).peekFault
          (if f = .array then .expectedCommaOrBracket else .expectedCommaOrBrace))
      else .ok (f :: fs, ⟨i, b :: t⟩) := by
  simp only [skipSeparators, h, closes_iff, Cursor.advance_cons]

theorem skipSeparators_closing {a : Bytes} (ha : Blanks a) (n : Nat) (afterValue : Bool)
    (f : Frame) (fs : List Frame) (r : Bytes) (i : Nat) :
    ∃ j, skipSeparators (n + 1) afterValue (f :: fs) ⟨i, a ++ closing f :: r⟩ =
      skipSeparators n true fs ⟨j, r⟩ := by
  obtain ⟨j, hj⟩ := skipBlanks_cons ha (isJsonBlank_closing f) r i
  refine ⟨j + 1, ?_⟩
  rw [skipSeparators_cons hj, if_neg (fun h => closing_ne_comma f h.2), if_pos rfl]

theorem skipSeparators_comma {a : Bytes} (ha : Blanks a) (n : Nat) (f : Frame)
    (fs : List Frame) (r : Bytes) (i : Nat) :
    ∃ j, skipSeparators (n + 1) true (f :: fs) ⟨i, a ++ code ',' :: r⟩ = .ok (f :: fs, ⟨j, r⟩) := by
  obtain ⟨j, hj⟩ := skipBlanks_cons ha (by decide : isJsonBlank (code ',') = false) r i
  refine ⟨j + 1, ?_⟩
  rw [skipSeparators_cons hj, if_pos ⟨rfl, rfl⟩]

/-- Before the first entry of a frame only blanks are passed over. -/
theorem skipSeparators_entry {a : Bytes} (ha : Blanks a) {f : Frame} {b : UInt8}
    (hblank : isJsonBlank b = false) (hclosing : b ≠ closing f) (n : Nat) (fs : List Frame)
    (t : Bytes) (i : Nat) :
    ∃ j, skipSeparators (n + 1) false (f :: fs) ⟨i, a ++ b :: t⟩ =
      .ok (f :: fs, ⟨j, b :: t⟩) := by
  obtain ⟨j, hj⟩ := skipBlanks_cons ha hblank t i
  refine ⟨j, ?_⟩
  rw [skipSeparators_cons hj, if_neg (fun h => Bool.false_ne_true h.1), if_neg hclosing,
    if_neg Bool.false_ne_true]

/-- What the separators before an innermost frame can be: its closing, or what comes before an
entry. -/
theorem skipSeparators_inv {n : Nat} {afterValue : Bool} {f : Frame} {fs frames : List Frame}
    {c c' : Cursor} (h : skipSeparators (n + 1) afterValue (f :: fs) c = .ok (frames, c')) :
    ∃ a, Blanks a ∧
      ((∃ i r, c.rest = a ++ closing f :: r ∧
          skipSeparators n true fs ⟨i, r⟩ = .ok (frames, c')) ∨
        (frames = f :: fs ∧ afterValue = true ∧ c.rest = a ++ code ',' :: c'.rest) ∨
        (frames = f :: fs ∧ afterValue = false ∧ c.rest = a ++ c'.rest)) := by
  obtain ⟨a, i, rest, ha, hrest, hc⟩ := skipBlanks_sound c
  refine ⟨a, ha, ?_⟩
  rw [hrest]
  cases rest with
  | nil =>
    simp only [skipSeparators, hc] at h
    cases h
  | cons b t =>
    rw [skipSeparators_cons hc] at h
    split at h
    · next hcomma =>
      cases h
      exact .inr (.inl ⟨rfl, hcomma.1, by rw [hcomma.2]⟩)
    split at h
    · next hclosing => exact .inl ⟨i + 1, t, by rw [hclosing], h⟩
    split at h
    · cases h
    · next hafter =>
      cases h
      exact .inr (.inr ⟨rfl, Bool.eq_false_iff.mpr hafter, rfl⟩)

/-- Behind a value: either all frames are closed, or an entry of one of them comes next. -/
theorem skipSeparators_sound {n : Nat} {frames frames' : List Frame} {c c' : Cursor}
    (h : skipSeparators n true frames c = .ok (frames', c')) :
    ∃ t, c.rest = t ++ c'.rest ∧
      ((frames' = [] ∧ Closes frames t) ∨
        ∃ f fs, frames' = f :: fs ∧ ∀ lead v u, Lead f lead → Value v → Closes (f :: fs) u →
          Closes frames (t ++ (lead ++ (v ++ u)))) := by
  -- on the fuel: each turn closes a frame, until there is none left or another entry is found
  induction n generalizing frames c with
  | zero => cases h
  | succ n ih =>
    cases frames with
    | nil =>
      cases h
      exact ⟨[], rfl, .inl ⟨rfl, .nil⟩⟩
    | cons f fs =>
      obtain ⟨a, ha, ⟨i, r, hrest, hrun⟩ | ⟨rfl, -, hrest⟩ | ⟨-, hfalse, -⟩⟩ :=
        skipSeparators_inv h
      · obtain ⟨t, rfl, hcases⟩ := ih hrun
        refine ⟨a ++ closing f :: t, by rw [hrest]; simp, ?_⟩
        rcases hcases with ⟨rfl, hcloses⟩ | ⟨g, gs, rfl, hcloses⟩
        · exact .inl ⟨rfl, .closing ha hcloses⟩
        · refine .inr ⟨g, gs, rfl, ?_⟩
          intro lead v u hlead hv hu
          rw [List.append_assoc, List.cons_append]
          exact .closing ha (hcloses lead v u hlead hv hu)
      · refine ⟨a ++ [code ','], by rw [hrest]; simp, .inr ⟨f, fs, rfl, ?_⟩⟩
        intro lead v u hlead hv hu
        rw [List.append_assoc, List.singleton_append]
        exact .comma ha hlead hv hu
      · cases hfalse

/-- Behind a value either all frames close, or some close and the next entry begins; the fuel
suffices for both. -/
theorem skipSeparators_complete {frames : List Frame} {u : Bytes} (h : Closes frames u) (n : Nat)
    (r : Bytes) (i : Nat) :
    (∃ j, skipSeparators (frames.length + (n + 1)) true frames ⟨i, u ++ r⟩ = .ok ([], ⟨j, r⟩)) ∨
      ∃ j f fs lead v u', Lead f lead ∧ Value v ∧ Closes (f :: fs) u' ∧
        v.length + u'.length < u.length ∧
        skipSeparators (frames.length + (n + 1)) true frames ⟨i, u ++ r⟩ =
          .ok (f :: fs, ⟨j, lead ++ (v ++ (u' ++ r))⟩) := by
  -- on what closes the frames: either the innermost one ends here, or it has another entry
  induction h generalizing i with
  | nil => exact .inl ⟨i, by rw [List.length_nil, Nat.zero_add]; rfl⟩
  | @cons f fs es t u ht hleads hvalues hu ih =>
    have hfuel : (f :: fs).length + (n + 1) = fs.length + (n + 1) + 1 := by
      rw [List.length_cons]; omega
    rw [hfuel, List.append_assoc, List.cons_append]
    cases ht with
    | nil ha =>
      obtain ⟨j, hj⟩ :=
        skipSeparators_closing ha (fs.length + (n + 1)) true f fs (u ++ r) i
      rw [hj]
      rcases ih j with hall | ⟨k, g, gs, lead, v, u', hlead, hv, hu', hlength, hk⟩
      · exact .inl hall
      · refine .inr ⟨k, g, gs, lead, v, u', hlead, hv, hu', ?_, hk⟩
        rw [List.length_append, List.length_cons]
        omega
    | @cons a lead v t es ha ht =>
      rw [List.append_assoc, List.cons_append]
      obtain ⟨j, hj⟩ := skipSeparators_comma ha (fs.length + (n + 1)) f fs
        ((lead ++ (v ++ t)) ++ closing f :: (u ++ r)) i
      obtain ⟨hlead, hleads⟩ := List.forall_mem_cons.mp hleads
      obtain ⟨hv, hvalues⟩ := List.forall_mem_cons.mp hvalues
      refine .inr ⟨j, f, fs, lead, v, t ++ closing f :: u, hlead, hv, .cons ht hleads hvalues hu,
        ?_, ?_⟩
      · simp only [List.length_append, List.length_cons]
        omega
      · rw [hj]
        simp

theorem Closes.unnumbered {frames : List Frame} {u r : Bytes} (h : Closes frames u)
    (hr : Unnumbered r) : Unnumbered (u ++ r) := by
  cases h with
  | nil => exact hr
  | @cons f _ _ _ _ ht _ _ _ =>
    rw [List.append_assoc, List.cons_append]
    exact ht.unnumbered f _

/-! ### Values -/

/-- Go on with the entry of the innermost frame, if there is a frame left. -/
def onward (fuel : Nat) : List Frame → Cursor → Except Fault Cursor
  | [], c => .ok c
  | f :: fs, c => (skipLead f c).bind (skipValues fuel (f :: fs))

/-- Passing over values goes one token at a time. -/
theorem skipValues_succ (fuel : Nat) (frames : List Frame) (c : Cursor) :
    skipValues (fuel + 1) frames c =
      (skipToken (skipBlanks c)).bind fun (opened, c) =>
        (match opened with
          | some f => skipSeparators (frames.length + 2) false (f :: frames) c
          | none => skipSeparators (frames.length + 2) true frames c).bind
        fun (frames, c) => onward fuel frames c := by
  rw [skipValues]
  simp only [bind, Except.bind]
  cases skipToken (skipBlanks c) with
  | error e => rfl
  | ok token =>
    obtain ⟨opened, c⟩ := token
    cases opened with
    | none =>
      simp only
      cases skipSeparators (frames.length + 2) true frames c with
      | error e => rfl
      | ok found =>
        obtain ⟨frames, c⟩ := found
        cases frames with
        | nil => rfl
        | cons f fs => cases f <;> rfl
    | some f =>
      simp only
      cases skipSeparators (frames.length + 2) false (f :: frames) c with
      | error e => rfl
      | ok found =>
        obtain ⟨frames, c⟩ := found
        cases frames with
        | nil => rfl
        | cons f fs => cases f <;> rfl

/-- The reader takes one value, and what closes the frames around it. -/
theorem skipValues_sound {fuel : Nat} {frames : List Frame} {c c' : Cursor}
    (h : skipValues fuel frames c = .ok c') :
    ∃ a v u, Blanks a ∧ Value v ∧ Closes frames u ∧ c.rest = a ++ (v ++ (u ++ c'.rest)) := by
  induction fuel generalizing frames c with
  | zero => cases h
  | succ fuel ih =>
    -- an entry of an innermost frame, with what leads up to it
    have hentry {f : Frame} {fs : List Frame} {d : Cursor}
        (hd : onward fuel (f :: fs) d = .ok c') :
        ∃ lead v u, (∀ a, Blanks a → Lead f (a ++ lead)) ∧ Value v ∧ Closes (f :: fs) u ∧
          d.rest = lead ++ (v ++ (u ++ c'.rest)) := by
      obtain ⟨e, hlead, hvalue⟩ := bind_eq_ok hd
      obtain ⟨lead, hrest, hleads⟩ := skipLead_sound hlead
      obtain ⟨b, v, u, hb, hv, hu, hbehind⟩ := ih hvalue
      refine ⟨lead ++ b, v, u, fun a ha => hleads a b ha hb, hv, hu, ?_⟩
      rw [hrest, hbehind, List.append_assoc]
    -- what follows a value that has been passed over
    have hbehind {n : Nat} {frames frames' : List Frame} {d d' : Cursor}
        (hd : skipSeparators n true frames d = .ok (frames', d'))
        (hd' : onward fuel frames' d' = .ok c') : ∃ u, Closes frames u ∧ d.rest = u ++ c'.rest := by
      obtain ⟨t, hrest, ⟨rfl, ht⟩ | ⟨f, fs, rfl, ht⟩⟩ := skipSeparators_sound hd
      · cases hd'
        exact ⟨t, ht, hrest⟩
      · obtain ⟨lead, v, u, hlead, hv, hu, hentry⟩ := hentry hd'
        refine ⟨t ++ (lead ++ (v ++ u)), ht lead v u (hlead [] blanks_nil) hv hu, ?_⟩
        rw [hrest, hentry]
        simp only [List.append_assoc]
    obtain ⟨a, i, rest, ha, hblanks, hskip⟩ := skipBlanks_sound c
    rw [skipValues_succ, hskip] at h
    obtain ⟨⟨opened, d⟩, htoken, hrest⟩ := bind_eq_ok h
    obtain ⟨⟨frames', d'⟩, hseparators, honward⟩ := bind_eq_ok hrest
    clear h hrest
    rcases skipToken_sound htoken with ⟨rfl, v, hv, htext⟩ | ⟨f, rfl, htext⟩
    · have hrest : rest = v ++ d.rest := htext
      obtain ⟨u, hu, hd⟩ := hbehind hseparators honward
      exact ⟨a, v, u, ha, hv, hu, by rw [hblanks, hrest, hd]⟩
    · have hrest : rest = opening f :: d.rest := htext
      obtain ⟨b, hb, ⟨j, r, hd, hrun⟩ | ⟨-, htrue, -⟩ | ⟨rfl, -, hd⟩⟩ :=
        skipSeparators_inv hseparators
      · -- a frame without entries
        obtain ⟨u, hu, hr⟩ := hbehind hrun honward
        have hframe : Value (opening f :: (b ++ [closing f])) :=
          .frame (.nil hb) (fun _ he => absurd he List.not_mem_nil)
            (fun _ he => absurd he List.not_mem_nil)
        refine ⟨a, _, u, ha, hframe, hu, ?_⟩
        have hr : r = u ++ c'.rest := hr
        rw [hblanks, hrest, hd, hr]
        simp
      · cases htrue
      · -- a frame with a first entry
        obtain ⟨lead, v, u, hlead, hv, hu, hentry⟩ := hentry honward
        cases hu with
        | @cons _ _ es t u ht hleads hvalues hu =>
          have hframe : Value (opening f :: ((b ++ lead) ++ (v ++ t) ++ [closing f])) :=
            .frame (.cons ht) (List.forall_mem_cons.mpr ⟨hlead b hb, hleads⟩)
              (List.forall_mem_cons.mpr ⟨hv, hvalues⟩)
          refine ⟨a, _, u, ha, hframe, hu, ?_⟩
          rw [hblanks, hrest, hd, hentry]
          simp

/-- The reader takes a value that is there, and what closes the frames around it. -/
theorem skipValues_complete {fuel : Nat} {frames : List Frame} {a v u r : Bytes} (ha : Blanks a)
    (hv : Value v) (hu : Closes frames u) (hr : Unnumbered r)
    (hfuel : v.length + u.length < fuel) (i : Nat) :
    ∃ j, skipValues fuel frames ⟨i, a ++ (v ++ (u ++ r))⟩ = .ok ⟨j, r⟩ := by
  -- each turn passes over a value or opens a frame, so what is left to close becomes shorter
  induction fuel generalizing frames a v u i with
  | zero => omega
  | succ fuel ih =>
    -- an entry of an innermost frame, with what leads up to it
    have hentry {f : Frame} {fs : List Frame} {lead v u : Bytes} (hlead : Lead f lead)
        (hv : Value v) (hu : Closes (f :: fs) u) (hlength : v.length + u.length < fuel) (i : Nat) :
        ∃ j, onward fuel (f :: fs) ⟨i, lead ++ (v ++ (u ++ r))⟩ = .ok ⟨j, r⟩ := by
      obtain ⟨j, a, ha, hj⟩ := skipLead_complete hlead (v ++ (u ++ r)) i
      rw [onward, hj]
      exact ih ha hv hu hlength j
    -- what follows a value that has been passed over
    have hbehind {frames : List Frame} {u : Bytes} (hu : Closes frames u)
        (hlength : u.length ≤ fuel) (n i : Nat) :
        ∃ j, (skipSeparators (frames.length + (n + 1)) true frames ⟨i, u ++ r⟩).bind
          (fun (frames, c) => onward fuel frames c) = .ok ⟨j, r⟩ := by
      rcases skipSeparators_complete hu n r i with
        ⟨j, hj⟩ | ⟨j, f, fs, lead, v, u', hlead, hv, hu', hshorter, hj⟩
      · exact ⟨j, by rw [hj]; rfl⟩
      · rw [hj]
        exact hentry hlead hv hu' (by omega) j
    rw [skipValues_succ]
    obtain ⟨b, t, rfl, hblank, -⟩ := hv.begins
    obtain ⟨j, hj⟩ := skipBlanks_cons ha hblank (t ++ (u ++ r)) i
    rw [List.cons_append, hj, ← List.cons_append]
    rcases skipToken_complete hv (hu.unnumbered hr) j with
      ⟨k, hk⟩ | ⟨f, es, s, hframe, hs, hleads, hvalues⟩
    · rw [hk]
      have hlength : u.length ≤ fuel := by
        rw [List.length_cons] at hfuel
        omega
      exact hbehind hu hlength 1 k
    · rw [hframe] at hfuel ⊢
      rw [List.cons_append, List.append_assoc, skipToken_opening]
      simp only [List.length_cons, List.length_append, List.length_nil] at hfuel
      show ∃ j, (skipSeparators (frames.length + 1 + 1) false (f :: frames) _).bind _ = _
      cases hs with
      | nil hb =>
        obtain ⟨k, hk⟩ := skipSeparators_closing hb (frames.length + 1) false f frames (u ++ r)
          (j + 1)
        rw [List.singleton_append, hk]
        exact hbehind hu (by omega) 0 k
      | @cons lead v s es hs =>
        obtain ⟨hlead, hleads'⟩ := List.forall_mem_cons.mp hleads
        obtain ⟨hv', hvalues'⟩ := List.forall_mem_cons.mp hvalues
        obtain ⟨b', lead', rfl, hb', hlead', hbegins⟩ := exists_blanks_append hlead
        obtain ⟨x, y, hxy, hx, hclosing⟩ :=
          hbegins _ (hv'.begins.append (s ++ closing f :: (u ++ r)))
        obtain ⟨k, hk⟩ := skipSeparators_entry hb' hx (hclosing f) (frames.length + 1) frames y
          (j + 1)
        have hcut : (b' ++ lead' ++ (v ++ s)) ++ ([closing f] ++ (u ++ r)) =
            b' ++ (lead' ++ (v ++ (s ++ closing f :: (u ++ r)))) := by simp
        have hrest : s ++ closing f :: (u ++ r) = (s ++ closing f :: u) ++ r := by simp
        rw [hcut, hxy, hk, ← hxy, hrest]
        refine hentry hlead' hv' (.cons hs hleads' hvalues' hu) ?_ k
        simp only [List.length_append, List.length_cons] at hfuel ⊢
        omega

/-! ### One value -/

theorem ignored_sound {c c' : Cursor} (h : ignored c = .ok c') :
    ∃ a v, Blanks a ∧ Value v ∧ c.rest = a ++ (v ++ c'.rest) := by
  obtain ⟨a, v, u, ha, hv, hu, hrest⟩ := skipValues_sound h
  cases hu with
  | nil => exact ⟨a, v, ha, hv, hrest⟩

theorem ignored_complete {a v r : Bytes} (ha : Blanks a) (hv : Value v) (hr : Unnumbered r)
    (i : Nat) : ∃ j, ignored ⟨i, a ++ (v ++ r)⟩ = .ok ⟨j, r⟩ := by
  have hfuel : v.length + ([] : Bytes).length < (a ++ (v ++ r)).length + 1 := by
    simp only [List.length_append, List.length_nil]
    omega
  exact skipValues_complete ha hv .nil hr hfuel i

end CommandAgent.Json
