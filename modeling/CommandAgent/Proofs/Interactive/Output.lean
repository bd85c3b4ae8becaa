import CommandAgent.Proofs.Interactive.Prompt
import CommandAgent.Proofs.Text.Decoding

/-!
# The prompt never shows in an output

A command that was typed succeeds exactly if the prompt comes, and its output is the text of the
bytes before the first prompt (`submit_of_typed`). The prompt is looked for in the bytes, and the
output is text in which whatever is no text has been replaced. That no prompt comes about in this
way is a fact about decoding (`encode_infix_of_decodeLossy`): a prompt without the replacement that
stands in the text stands in the bytes, and in the bytes before the first prompt there is none.
-/

namespace CommandAgent.Interactive

open Terminal (Console)
open Text (FirstAt StandsAt find?)
open Text.Utf8 (encode decodeLossy replacement encode_infix_of_decodeLossy)

/-! ### Bytes before the prompt -/

section
variable {prompt stream before : Bytes}

/-- Before its first place the prompt does not stand. -/
theorem not_infix_take {stop : Nat} (hne : prompt ≠ []) (h : FirstAt prompt stream stop) :
    ¬ prompt <:+: stream.take stop := by
  intro hinfix
  obtain ⟨i, hi⟩ := Text.exists_standsAt_iff.mpr hinfix
  have hend := hi.end_le hne
  have hpos : 0 < prompt.length := List.length_pos_iff.mpr hne
  rw [List.length_take] at hend
  apply h.2 i (by omega)
  have hstands := hi.append (stream.drop stop) hne
  rwa [List.take_append_drop] at hstands

/-- What comes before the prompt is followed by it at once and does not hold it. -/
theorem split_of_upToPrompt (hne : prompt ≠ []) (h : upToPrompt prompt stream = .ok before) :
    (∃ after, stream = before ++ prompt ++ after) ∧ ¬ prompt <:+: before := by
  unfold upToPrompt at h
  split at h
  · next stop hfind =>
    cases h
    have hfirst := (Text.find?_eq_some_iff hne).mp hfind
    exact ⟨⟨_, hfirst.1.eq_append⟩, not_infix_take hne hfirst⟩
  · cases h

theorem exists_upToPrompt (hne : prompt ≠ []) (h : prompt <:+: stream) :
    ∃ before, upToPrompt prompt stream = .ok before := by
  obtain ⟨stop, hstop⟩ := Text.exists_firstAt h
  refine ⟨stream.take stop, ?_⟩
  rw [upToPrompt, (Text.find?_eq_some_iff hne).mpr hstop]

end

/-! ### Typed commands -/

section
variable {σ : Type} {k : Console σ} {logger : Logger} {o : Options} {c : Command} {s : Sessions σ}
  {w : World} {t : σ}

variable (k c s w) in
/-- The command has been typed in the current session, which has come to `t`. -/
def Typed (t : σ) : Prop :=
  ∃ t₀ count, s.current = some t₀ ∧ k.write (encode (c.input ++ "\n")) t₀ w = (.ok count, t)

/-- A typed command comes to what stands before the prompt in the stream. -/
theorem submit_of_typed (ho : o.prompt ≠ "") (h : Typed k c s w t) :
    (submit k logger o c s w).1 =
      match upToPrompt o.marker (k.upcoming t).flatten with
      | .ok before => .ok (decodeLossy before)
      | .error whole => o.cutShort whole := by
  obtain ⟨t₀, count, hcurrent, hwrite⟩ := h
  rw [← scan_result (Options.marker_ne_nil ho), ← readPrompt_fst k logger o t w]
  simp only [submit, hcurrent, hwrite]
  cases (readPrompt k logger o t w).1 <;> rfl

/-- Only a typed command succeeds. -/
theorem typed_of_success (h : (submit k logger o c s w).1.success = true) :
    ∃ t, Typed k c s w t := by
  unfold submit at h
  cases hcurrent : s.current with
  | none =>
    rw [hcurrent] at h
    cases h
  | some t₀ =>
    rw [hcurrent] at h
    simp only at h
    cases hwrite : (k.write (encode (c.input ++ "\n")) t₀ w).1 with
    | error f =>
      rw [hwrite] at h
      cases h
    | ok count =>
      exact ⟨_, t₀, count, hcurrent, Prod.ext hwrite rfl⟩

end

/-- A command that is typed in a session, whatever comes back in whatever portions: it succeeds if
the prompt comes, and where it succeeds, its output is the text of bytes that came before a prompt,
and does not show the prompt, if the prompt is neither empty nor shows the replacement for what is
no text. -/
theorem submit_hides_prompt {σ : Type} (k : Console σ) (logger : Logger) (o : Options)
    (c : Command) (s : Sessions σ) (w : World) (ho : o.prompt ≠ "")
    (hr : replacement ∉ o.prompt.toList) :
    (∀ t, Typed k c s w t → o.marker <:+: (k.upcoming t).flatten →
      (submit k logger o c s w).1.success = true) ∧
    ((submit k logger o c s w).1.success = true →
      ∃ t before after, Typed k c s w t ∧
        (k.upcoming t).flatten = before ++ o.marker ++ after ∧
        (submit k logger o c s w).1.output = decodeLossy before ∧
        ¬ o.prompt.toList <:+: (submit k logger o c s w).1.output.toList) := by
  have hne := Options.marker_ne_nil ho
  constructor
  · intro t ht hcame
    obtain ⟨before, hbefore⟩ := exists_upToPrompt hne hcame
    rw [submit_of_typed ho ht, hbefore]
    rfl
  · intro hsuccess
    obtain ⟨t, ht⟩ := typed_of_success hsuccess
    rw [submit_of_typed ho ht] at hsuccess ⊢
    cases hup : upToPrompt o.marker (k.upcoming t).flatten with
    | error whole =>
      rw [hup] at hsuccess
      cases hsuccess
    | ok before =>
      obtain ⟨⟨after, hstream⟩, hbefore⟩ := split_of_upToPrompt hne hup
      refine ⟨t, before, after, ht, hstream, rfl, ?_⟩
      intro hshown
      exact hbefore (encode_infix_of_decodeLossy hshown hr)

/-- A shell whose prompt begins with a character of two bytes. -/
def accented : Options := ⟨"db", [], "é>", 80, 24⟩

/-- The stream `FF C3 é>A`, whose second byte looks as if the prompt began, cut inside the prompt's
first character. -/
def broken : Sessions (List Bytes) := { current := some [[0xFF, 0xC3, 0xC3], [0xA9], [0x3E, 0x41]] }

/-- Bytes that are no text and a prompt that is cut in its middle. -/
theorem submit_hides_prompt_broken :
    accented.prompt ≠ "" ∧ replacement ∉ accented.prompt.toList ∧
      Typed playback {} broken bareWorld [[0xFF, 0xC3, 0xC3], [0xA9], [0x3E, 0x41]] ∧
      (submit playback ⟨"db", .info⟩ accented {} broken bareWorld).1.success = true ∧
      ¬ accented.prompt.toList <:+:
        (submit playback ⟨"db", .info⟩ accented {} broken bareWorld).1.output.toList := by
  have hall := submit_hides_prompt playback ⟨"db", .info⟩ accented {} broken bareWorld
    (by decide) (by decide)
  have htyped : Typed playback {} broken bareWorld [[0xFF, 0xC3, 0xC3], [0xA9], [0x3E, 0x41]] :=
    ⟨_, _, rfl, rfl⟩
  have hsuccess := hall.1 _ htyped (by decide)
  obtain ⟨-, -, -, -, -, -, hhidden⟩ := hall.2 hsuccess
  exact ⟨by decide, by decide, htyped, hsuccess, hhidden⟩

/-- A prompt that shows the replacement may show in the output, where it was not sent. -/
example : (submit playback ⟨"db", .info⟩ { accented with prompt := "\uFFFD>" } {}
    { current := some [[0xFF, 0x3E, 0xEF, 0xBF, 0xBD, 0x3E]] } bareWorld).1 = .ok "\uFFFD>" := by
  decide

end CommandAgent.Interactive
