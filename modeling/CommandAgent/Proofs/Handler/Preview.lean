import CommandAgent.Handler.Executor
import CommandAgent.Proofs.Json.Canonical
import CommandAgent.Proofs.Redaction.Between
import CommandAgent.Proofs.Text.Trimming

/-!
# What a log line tells of a secret in an output

The line after a command shows a preview of the output, in which the secrets are masked. As the
output is cut before it is masked, an occurrence of a secret in which the limit falls is no longer
found: its beginning is shown (`cut_secret_shown`). And what is cut away depends on how long the
secret is.

Apart from that the line tells nothing: two outputs with secrets of the same length between the same
pieces give the same line if the limit falls inside no occurrence, and so do outputs within the
limit, whatever the lengths are (`finished_conceals_whole_secrets`).
-/

namespace CommandAgent

/-! ### The line after a command -/

namespace Executor

open Redaction (IsSought textMask needle)

variable {σ : Type}

/-- The output as the line that `execute` writes after a command shows it. -/
def shownOutput (x : Executor σ) (c : Command) (o : Outcome) (elapsed : Nat) : Option Json :=
  (x.finished c o elapsed).metadata.get? "output"

/-- What the log shows of an output is its preview, masked after it was cut. -/
theorem shownOutput_eq (x : Executor σ) (c : Command) (o : Outcome) (elapsed : Nat) :
    x.shownOutput c o elapsed =
      some (.string (x.mask (Text.preview o.output maxPreview))) := by
  have hlast (m : Json) (ms : List (String × Json)) :
      (Json.ofMembers (ms ++ [("output", m)])).get? "output" = some m := by
    rw [Json.ofMembers, List.foldl_append, Json.get?]
    exact (Json.lookup?_insertMember _ _ _ _).trans (if_pos rfl)
  rw [shownOutput, finished]
  split <;> exact hlast _ [_, _, _]

/-- A secret as it may stand in an output: of one line, with nothing blank around it, long enough to
be looked for, and without a sign that the pieces around it or the line itself have. -/
structure StandsOut (pieces : List String) (secret : String) : Prop where
  long : Redaction.minSecret ≤ Text.Utf8.size secret
  trimmed : Text.trim secret = secret
  oneLine : '\n' ∉ secret.toList
  apart : ∀ c ∈ secret.toList, (∀ p ∈ pieces, c ∉ p.toList) ∧ c ∉ textMask.toList ∧
    c ∉ "\\n".toList ∧ c ∉ "...".toList

/-- The limit of the preview falls inside an occurrence of the secret between the pieces. -/
def CutsSecret (pieces : List String) (secret : String) : Prop :=
  ∃ front behind, pieces = front ++ behind ∧ front ≠ [] ∧ behind ≠ [] ∧
    Text.Utf8.size (Text.written (secret.intercalate front)) < maxPreview ∧
    maxPreview < Text.Utf8.size (Text.written (secret.intercalate front)) + Text.Utf8.size secret

/-- The output is short enough to be shown as a whole. -/
def IsShownWhole (output : String) : Prop := Text.Utf8.size (Text.written output) ≤ maxPreview

section
variable {pieces : List String} {secret s s' : String}

instance : Decidable (StandsOut pieces secret) :=
  decidable_of_iff
    (Redaction.minSecret ≤ Text.Utf8.size secret ∧ Text.trim secret = secret ∧
      '\n' ∉ secret.toList ∧
      (secret.toList.all fun c => (pieces.all fun p => c ∉ p.toList) && c ∉ textMask.toList &&
        c ∉ "\\n".toList && c ∉ "...".toList) = true)
    (by
      simp only [List.all_eq_true, Bool.and_eq_true, decide_eq_true_eq, and_assoc]
      exact ⟨fun ⟨long, trimmed, oneLine, apart⟩ => ⟨long, trimmed, oneLine, apart⟩,
        fun ⟨long, trimmed, oneLine, apart⟩ => ⟨long, trimmed, oneLine, apart⟩⟩)

namespace StandsOut

theorem isSought (h : StandsOut pieces secret) : IsSought secret := by
  rw [IsSought, h.trimmed]
  exact h.long

theorem needle_eq (h : StandsOut pieces secret) : needle secret = secret.toList := by
  rw [needle, h.trimmed]

theorem toList_ne_nil (h : StandsOut pieces secret) : secret.toList ≠ [] :=
  h.needle_eq ▸ h.isSought.needle_ne_nil

/-- The secret stays between the pieces when line breaks are written out. -/
theorem toList_written (h : StandsOut pieces secret) :
    (Text.written (secret.intercalate pieces)).toList =
      secret.toList.intercalate (pieces.map fun p => (Text.written p).toList) := by
  have hlast : secret.toList.getLast? ≠ some '\r' := by
    have hends := (Text.trim_eq_self_iff.mp h.trimmed).2
    exact fun heq => hends _ heq (by decide)
  have hwritten : (fun p => (Text.written p).toList) = Text.flatten ∘ String.toList :=
    funext fun p => String.toList_ofList
  rw [Text.written, String.toList_ofList, String.toList_intercalate,
    Text.flatten_intercalate h.toList_ne_nil h.oneLine hlast, List.map_map, hwritten]

/-- The signs of a secret that stands out are not in the pieces either when these are put on one
line. -/
theorem apart_written (h : StandsOut pieces secret) :
    ∀ c ∈ secret.toList, (∀ p ∈ pieces.map fun p => (Text.written p).toList, c ∉ p) ∧
      c ∉ textMask.toList ∧ c ∉ "...".toList := by
  intro c hc
  obtain ⟨hpieces, hmask, hbreak, hdots⟩ := h.apart c hc
  refine ⟨?_, hmask, hdots⟩
  intro p hp hmem
  obtain ⟨q, hq, rfl⟩ := List.mem_map.mp hp
  rw [Text.written, String.toList_ofList] at hmem
  rcases Text.mem_of_mem_flatten hmem with h | h
  · exact hpieces q hq h
  · exact hbreak h

/-- What stands out between pieces stands out between others that have no further signs. -/
theorem of_signs (h : StandsOut pieces secret) {others : List String}
    (hothers : ∀ p ∈ others, ∀ c ∈ p.toList, ∃ q ∈ pieces, c ∈ q.toList) :
    StandsOut others secret where
  long := h.long
  trimmed := h.trimmed
  oneLine := h.oneLine
  apart c hc := by
    refine (h.apart c hc).imp_left fun hpieces p hp hmem => ?_
    obtain ⟨q, hq, hin⟩ := hothers p hp c hmem
    exact hpieces q hq hin

theorem of_append {front behind : List String} (h : StandsOut (front ++ behind) secret) :
    StandsOut front secret :=
  h.of_signs fun p hp _ hc => ⟨p, List.mem_append_left _ hp, hc⟩

theorem size_written (h : StandsOut pieces secret) :
    Text.Utf8.size (Text.written (secret.intercalate pieces)) =
      Text.bytes (secret.toList.intercalate (pieces.map fun p => (Text.written p).toList)) := by
  rw [Text.size_eq_bytes, h.toList_written]

/-- The limit falls inside a separator of the written pieces only if it falls inside a secret. -/
theorem cutsSecret_of_fallsInside (h : StandsOut pieces secret)
    (hinside : Text.FallsInside maxPreview secret.toList
      (pieces.map fun p => (Text.written p).toList)) : CutsSecret pieces secret := by
  obtain ⟨before, behind, heq, hbefore, hbehind, hstart, hend⟩ := hinside
  obtain ⟨front, rest, rfl, rfl, rfl⟩ := List.map_eq_append_iff.mp heq
  have hfront : StandsOut front secret := h.of_append
  refine ⟨front, rest, rfl, fun hnil => hbefore (by rw [hnil]; rfl),
    fun hnil => hbehind (by rw [hnil]; rfl), ?_⟩
  rw [hfront.size_written]
  exact ⟨hstart, hend⟩

end StandsOut

/-! ### Previews -/

/-- The preview of an output that is cut. -/
theorem preview_of_not_whole {output : String} (h : ¬ IsShownWhole output) :
    Text.preview output maxPreview =
      String.ofList (Text.keepBytes maxPreview (Text.written output).toList ++ "...".toList) := by
  rw [IsShownWhole] at h
  rw [Text.preview_eq, Text.shorten, if_neg h, Text.truncatePrefix, String.ofList_append,
    String.ofList_toList]

theorem preview_of_whole {output : String} (h : IsShownWhole output) :
    Text.preview output maxPreview = Text.written output := by
  rw [IsShownWhole] at h
  rw [Text.preview_eq, Text.shorten, if_pos h]

namespace StandsOut

variable {before : List String}

/-- Masked, an output that is shown as a whole is its pieces with the mask between them. -/
theorem mask_preview_of_whole (h : StandsOut pieces secret)
    (hwhole : IsShownWhole (secret.intercalate pieces))
    (hbefore : ∀ t ∈ before, ∀ c ∈ secret.toList, c ∉ needle t) (after : List String) :
    Redaction.maskSecrets (Text.preview (secret.intercalate pieces) maxPreview)
        (before ++ secret :: after) =
      Redaction.maskSecrets
        (String.ofList (textMask.toList.intercalate
          ((pieces.map fun p => (Text.written p).toList).map (Redaction.maskChars before))))
        after := by
  have hapart := fun c hc => (h.apart_written c hc).imp_right And.left
  rw [preview_of_whole hwhole, ← String.ofList_toList (s := Text.written _), h.toList_written]
  exact Redaction.maskSecrets_between h.isSought h.trimmed hapart hbefore after

/-- With no other secrets, that is what is shown. -/
theorem mask_preview_alone (h : StandsOut pieces secret)
    (hwhole : IsShownWhole (secret.intercalate pieces)) :
    Redaction.maskSecrets (Text.preview (secret.intercalate pieces) maxPreview) [secret] =
      textMask.intercalate (pieces.map Text.written) := by
  have hmasked := h.mask_preview_of_whole hwhole (fun t ht => absurd ht List.not_mem_nil) []
  rw [List.nil_append, Redaction.maskChars_nil, List.map_id] at hmasked
  rw [hmasked]
  apply String.toList_inj.mp
  simp [Redaction.maskSecrets, Function.comp_def]

/-- Masked, an output that is cut behind some pieces is these pieces with the mask between them and
the dots behind them. -/
theorem mask_preview_of_cut (h : StandsOut pieces secret)
    (hnot : ¬ IsShownWhole (secret.intercalate pieces)) {front : List (List Char)}
    {last : List Char}
    (hkeep : Text.keepBytes maxPreview
      (secret.toList.intercalate (pieces.map fun p => (Text.written p).toList)) =
        secret.toList.intercalate (front ++ [last]))
    (hsub : ∀ p ∈ front ++ [last], ∃ q ∈ pieces.map fun p => (Text.written p).toList, p <+: q)
    (hbefore : ∀ t ∈ before, ∀ c ∈ secret.toList, c ∉ needle t) (after : List String) :
    Redaction.maskSecrets (Text.preview (secret.intercalate pieces) maxPreview)
        (before ++ secret :: after) =
      Redaction.maskSecrets (String.ofList (textMask.toList.intercalate
        ((front ++ [last ++ "...".toList]).map (Redaction.maskChars before)))) after := by
  have hapart : ∀ c ∈ secret.toList, (∀ p ∈ front ++ [last ++ "...".toList], c ∉ p) ∧
      c ∉ textMask.toList := by
    intro c hc
    obtain ⟨hout, hmask, hdots⟩ := h.apart_written c hc
    have hkept : ∀ p ∈ front ++ [last], c ∉ p := by
      intro p hp hmem
      obtain ⟨q, hq, hpre⟩ := hsub p hp
      exact hout q hq (hpre.subset hmem)
    refine ⟨?_, hmask⟩
    intro p hp hmem
    rcases List.mem_append.mp hp with hp | hp
    · exact hkept p (List.mem_append_left _ hp) hmem
    · rw [List.mem_singleton.mp hp] at hmem
      rcases List.mem_append.mp hmem with hmem | hmem
      · exact hkept last (List.mem_append_right _ (List.mem_singleton_self _)) hmem
      · exact hdots hmem
  rw [preview_of_not_whole hnot, h.toList_written, hkeep, Text.intercalate_concat_append]
  exact Redaction.maskSecrets_between h.isSought h.trimmed hapart hbefore after

end StandsOut

/-- Outputs with secrets in which the limit does not fall are shown alike. -/
theorem mask_preview_congr (hs : StandsOut pieces s) (hs' : StandsOut pieces s')
    (hlimit : IsShownWhole (s.intercalate pieces) ∧ IsShownWhole (s'.intercalate pieces) ∨
      Text.Utf8.size s = Text.Utf8.size s' ∧ ¬ CutsSecret pieces s) {before : List String}
    (hbefore : ∀ t ∈ before, ∀ c ∈ s.toList, c ∉ needle t)
    (hbefore' : ∀ t ∈ before, ∀ c ∈ s'.toList, c ∉ needle t) (after : List String) :
    Redaction.maskSecrets (Text.preview (s.intercalate pieces) maxPreview)
        (before ++ s :: after) =
      Redaction.maskSecrets (Text.preview (s'.intercalate pieces) maxPreview)
        (before ++ s' :: after) := by
  by_cases hwhole : IsShownWhole (s.intercalate pieces) ∧ IsShownWhole (s'.intercalate pieces)
  · rw [hs.mask_preview_of_whole hwhole.1 hbefore, hs'.mask_preview_of_whole hwhole.2 hbefore']
  · obtain ⟨hsize, hcut⟩ := hlimit.resolve_left hwhole
    have hsame := Text.bytes_intercalate_congr hsize (pieces.map fun p => (Text.written p).toList)
    have hiff : IsShownWhole (s.intercalate pieces) ↔ IsShownWhole (s'.intercalate pieces) := by
      rw [IsShownWhole, IsShownWhole, hs.size_written, hs'.size_written, hsame]
    have hnot : ¬ IsShownWhole (s.intercalate pieces) := fun h => hwhole ⟨h, hiff.mp h⟩
    have hpieces : (pieces.map fun p => (Text.written p).toList) ≠ [] := by
      intro hnil
      rw [IsShownWhole, hs.size_written, hnil] at hnot
      exact hnot (Nat.zero_le _)
    obtain ⟨kept, hkept, hsub, hkeep, hkeep'⟩ := Text.exists_keepBytes_intercalate hsize hpieces
      (fun h => hcut (hs.cutsSecret_of_fallsInside h))
    obtain ⟨front, last, rfl⟩ := (List.eq_nil_or_concat kept).resolve_left hkept
    rw [List.concat_eq_append] at hsub hkeep hkeep'
    rw [hs.mask_preview_of_cut hnot hkeep hsub hbefore,
      hs'.mask_preview_of_cut (fun h => hnot (hiff.mpr h)) hkeep' hsub hbefore']

/-- Where the limit falls inside a secret, the beginning of it that is left is shown behind the
masked pieces. -/
theorem mask_preview_of_cutsSecret {front behind : List String} {start : Nat}
    (hs : StandsOut (front ++ behind) s) (hfront : front ≠ []) (hbehind : behind ≠ [])
    (hat : start = Text.Utf8.size (Text.written (s.intercalate front)))
    (hstart : start < maxPreview) (hend : maxPreview < start + Text.Utf8.size s) :
    Redaction.maskSecrets (Text.preview (s.intercalate (front ++ behind)) maxPreview) [s] =
      textMask.intercalate (front.map Text.written) ++
        Text.truncatePrefix s (maxPreview - start) ++ "..." := by
  have hparts : StandsOut front s := hs.of_append
  have hne : front.map (fun p => (Text.written p).toList) ≠ [] := mt List.map_eq_nil_iff.mp hfront
  have hne' : behind.map (fun p => (Text.written p).toList) ≠ [] :=
    mt List.map_eq_nil_iff.mp hbehind
  rw [hparts.size_written] at hat
  rw [Text.size_eq_bytes] at hend
  have hnot : ¬ IsShownWhole (s.intercalate (front ++ behind)) := by
    rw [IsShownWhole, hs.size_written, List.map_append, Text.intercalate_append hne hne',
      Text.bytes_append, Text.bytes_append]
    omega
  have hkeep := Text.keepBytes_intercalate hne hne' (hat ▸ hstart.le) (hat ▸ hend.le)
  have hleft := Text.longest_keepBytes (maxPreview - start) s.toList
  -- what is left of the secret is not all of it, so it is not masked
  have hless : Text.keepBytes (maxPreview - start) s.toList ≠ s.toList := by
    intro hall
    have hfits := hleft.fits
    rw [hall] at hfits
    omega
  have hfree : ∀ p ∈ front.map fun p => (Text.written p).toList, ∀ c ∈ p, c ∉ s.toList :=
    fun p hp c hc hmem => (hparts.apart_written c hmem).1 p hp hc
  have hdots : ∀ c ∈ "...".toList, c ∉ s.toList :=
    fun c hc hmem => (hs.apart_written c hmem).2.2 hc
  rw [preview_of_not_whole hnot, hs.toList_written, List.map_append, hkeep, ← hat,
    Redaction.maskSecrets_cons, Redaction.maskSecret_of_sought hs.isSought, hs.needle_eq,
    String.toList_ofList, List.append_assoc,
    Text.replaceFrom_intercalate_append hs.toList_ne_nil hfree,
    Text.replaceFrom_append_of_part hleft.isPrefix hless hdots]
  apply String.toList_inj.mp
  simp [Text.truncatePrefix, Redaction.maskSecrets, Function.comp_def]

/-! ### Filled lines -/

/-- An executor whose backend does nothing. -/
def idle : Executor Unit where
  logger := ⟨"behemoth", .info⟩
  handler := {
    backend := .script
    connect := fun s w => (.ok (), s, w)
    submit := fun _ s w => (.ok "", s, w)
    close := fun s w => (s, w) }
  secrets := []

def filler (n : Nat) : String := String.ofList (List.replicate n 'x')

theorem written_filler (n : Nat) : Text.written (filler n) = filler n := by
  have hbreak : '\n' ∉ List.replicate n 'x' :=
    fun hmem => absurd (List.eq_of_mem_replicate hmem) (by decide)
  rw [Text.written, filler, String.toList_ofList, Text.flatten_of_notMem hbreak]

theorem size_filler (n : Nat) : Text.Utf8.size (filler n) = n := by
  rw [Text.size_eq_bytes, filler, String.toList_ofList, Text.bytes_replicate]
  exact Nat.mul_one n

/-- A secret that stands out from a single `x` stands out from a line of them. -/
theorem StandsOut.behind_filler (h : StandsOut ["x"] s) (n : Nat) : StandsOut [filler n, ""] s := by
  refine h.of_signs fun p hp d hd => ⟨"x", List.mem_singleton_self _, ?_⟩
  rcases List.mem_cons.mp hp with rfl | hp
  · rw [filler, String.toList_ofList] at hd
    rw [List.eq_of_mem_replicate hd]
    decide
  · rw [List.mem_singleton.mp hp] at hd
    cases hd

/-- Behind a line that leaves two bytes up to the limit, two bytes of a secret are shown. -/
theorem StandsOut.shownOutput_filler (h : StandsOut ["x"] s) (hlong : 2 < Text.Utf8.size s)
    (c : Command) (success : Bool) (elapsed : Nat) :
    { idle with secrets := [s] }.shownOutput c ⟨s.intercalate [filler 510, ""], success⟩ elapsed =
      some (.string (filler 510 ++ Text.truncatePrefix s 2 ++ "...")) := by
  have hat : 510 = Text.Utf8.size (Text.written (s.intercalate [filler 510])) := by
    rw [String.intercalate_singleton, written_filler, size_filler]
  have hend : maxPreview < 510 + Text.Utf8.size s := by
    rw [maxPreview]
    omega
  have hshown := @mask_preview_of_cutsSecret s [filler 510] [""] 510 (h.behind_filler 510)
    (List.cons_ne_nil _ _) (List.cons_ne_nil _ _) hat (by decide) hend
  rw [List.map_singleton, String.intercalate_singleton, written_filler] at hshown
  rw [shownOutput_eq]
  exact congrArg (fun shown => some (Json.string shown)) hshown

/-! ### What the line tells -/

/-- The line after a command tells nothing of a secret between pieces of the output, unless the
limit falls inside the secret or cuts an output with a secret of another length. An output within
the limit is shown with the mask for the secret; where the limit falls inside the secret, the line
shows the beginning of the secret up to the limit. -/
theorem finished_conceals_whole_secrets (x : Executor σ) (c : Command) (success : Bool)
    (elapsed elapsed' : Nat) (hs : StandsOut pieces s) (hs' : StandsOut pieces s') :
    (∀ before after : List String,
      (∀ t ∈ before, ∀ d, d ∈ s.toList ∨ d ∈ s'.toList → d ∉ (Text.trim t).toList) →
      (IsShownWhole (s.intercalate pieces) ∧ IsShownWhole (s'.intercalate pieces) ∨
        Text.Utf8.size s = Text.Utf8.size s' ∧ ¬ CutsSecret pieces s) →
      { x with secrets := before ++ s :: after }.shownOutput c
          ⟨s.intercalate pieces, success⟩ elapsed =
        { x with secrets := before ++ s' :: after }.shownOutput c
          ⟨s'.intercalate pieces, success⟩ elapsed') ∧
    (IsShownWhole (s.intercalate pieces) →
      { x with secrets := [s] }.shownOutput c ⟨s.intercalate pieces, success⟩ elapsed =
        some (.string (textMask.intercalate (pieces.map Text.written)))) ∧
    (∀ (front behind : List String) (start : Nat),
      pieces = front ++ behind → front ≠ [] → behind ≠ [] →
      start = Text.Utf8.size (Text.written (s.intercalate front)) →
      start < maxPreview → maxPreview < start + Text.Utf8.size s →
      { x with secrets := [s] }.shownOutput c ⟨s.intercalate pieces, success⟩ elapsed =
        some (.string (textMask.intercalate (front.map Text.written) ++
          Text.truncatePrefix s (maxPreview - start) ++ "..."))) := by
  refine ⟨?_, ?_, ?_⟩
  · intro before after hbefore hlimit
    have hshown := mask_preview_congr hs hs' hlimit (fun t ht d hd => hbefore t ht d (.inl hd))
      (fun t ht d hd => hbefore t ht d (.inr hd)) after
    rw [shownOutput_eq, shownOutput_eq]
    exact congrArg (fun shown => some (Json.string shown)) hshown
  · intro hwhole
    rw [shownOutput_eq]
    exact congrArg (fun shown => some (Json.string shown)) (hs.mask_preview_alone hwhole)
  · rintro front behind start rfl hfront hbehind hat hstart hend
    have hshown := mask_preview_of_cutsSecret hs hfront hbehind hat hstart hend
    rw [shownOutput_eq]
    exact congrArg (fun shown => some (Json.string shown)) hshown

/-- Passwords of two lengths between the pieces of an output of three lines, and a password behind a
line that leaves two bytes up to the limit. -/
theorem finished_conceals_whole_secrets_login :
    StandsOut ["login ", "\nbad login ", "\n"] "s3cret-pw" ∧
    StandsOut ["login ", "\nbad login ", "\n"] "qu1etest-key" ∧
    StandsOut [filler 510, ""] "s3cret-pw" ∧
    { idle with secrets := ["s3cret-pw", "t0k3n"] }.shownOutput { id := "c1" }
        ⟨"s3cret-pw".intercalate ["login ", "\nbad login ", "\n"], false⟩ 3 =
      { idle with secrets := ["qu1etest-key", "t0k3n"] }.shownOutput { id := "c1" }
        ⟨"qu1etest-key".intercalate ["login ", "\nbad login ", "\n"], false⟩ 4 ∧
    { idle with secrets := ["s3cret-pw"] }.shownOutput { id := "c1" }
        ⟨"s3cret-pw".intercalate ["login ", "\nbad login ", "\n"], false⟩ 3 =
      some (.string (textMask.intercalate
        (["login ", "\nbad login ", "\n"].map Text.written))) ∧
    { idle with secrets := ["s3cret-pw"] }.shownOutput { id := "c1" }
        ⟨"s3cret-pw".intercalate [filler 510, ""], true⟩ 3 =
      some (.string (textMask.intercalate ([filler 510].map Text.written) ++
        Text.truncatePrefix "s3cret-pw" (maxPreview - 510) ++ "...")) := by
  have hs : StandsOut ["login ", "\nbad login ", "\n"] "s3cret-pw" := by decide
  have hs' : StandsOut ["login ", "\nbad login ", "\n"] "qu1etest-key" := by decide
  have hx : StandsOut ["x"] "s3cret-pw" := by decide
  have hlong := hx.behind_filler 510
  have hwhole : IsShownWhole ("s3cret-pw".intercalate ["login ", "\nbad login ", "\n"]) ∧
      IsShownWhole ("qu1etest-key".intercalate ["login ", "\nbad login ", "\n"]) := by
    unfold IsShownWhole
    decide
  have hat : 510 = Text.Utf8.size (Text.written ("s3cret-pw".intercalate [filler 510])) := by
    rw [String.intercalate_singleton, written_filler, size_filler]
  refine ⟨hs, hs', hlong, ?_, ?_, ?_⟩
  · exact (finished_conceals_whole_secrets idle _ _ 3 4 hs hs').1 [] ["t0k3n"]
      (fun t ht => absurd ht List.not_mem_nil) (.inl hwhole)
  · exact (finished_conceals_whole_secrets idle _ _ 3 3 hs hs).2.1 hwhole.1
  · exact (finished_conceals_whole_secrets idle _ _ 3 3 hlong hlong).2.2 [filler 510] [""] 510 rfl
      (List.cons_ne_nil _ _) (List.cons_ne_nil _ _) hat (by decide) (by decide)

/-- Two passwords of one length whose first two letters the line shows. -/
theorem cut_secret_shown :
    StandsOut [filler 510, ""] "s3cret-pw" ∧ StandsOut [filler 510, ""] "qu1et-key" ∧
    { idle with secrets := ["s3cret-pw"] }.shownOutput { id := "c1" }
        (.ok ("s3cret-pw".intercalate [filler 510, ""])) 3 =
      some (.string (filler 510 ++ "s3" ++ "...")) ∧
    { idle with secrets := ["s3cret-pw"] }.shownOutput { id := "c1" }
        (.ok ("s3cret-pw".intercalate [filler 510, ""])) 3 ≠
      { idle with secrets := ["qu1et-key"] }.shownOutput { id := "c1" }
        (.ok ("qu1et-key".intercalate [filler 510, ""])) 3 := by
  have hs : StandsOut ["x"] "s3cret-pw" := by decide
  have hs' : StandsOut ["x"] "qu1et-key" := by decide
  have hshown := hs.shownOutput_filler (by decide) { id := "c1" } true 3
  have hshown' := hs'.shownOutput_filler (by decide) { id := "c1" } true 3
  have hleft : Text.truncatePrefix "s3cret-pw" 2 = "s3" := by decide
  have hleft' : Text.truncatePrefix "qu1et-key" 2 = "qu" := by decide
  rw [hleft] at hshown
  rw [hleft'] at hshown'
  refine ⟨hs.behind_filler 510, hs'.behind_filler 510, hshown, ?_⟩
  intro heq
  have htext := Json.string.inj (Option.some.inj (hshown.symm.trans (heq.trans hshown')))
  have hsame : "s3" = "qu" :=
    (String.append_right_inj (filler 510)).mp ((String.append_left_inj "...").mp htext)
  exact absurd hsame (by decide)

end
end Executor
end CommandAgent
