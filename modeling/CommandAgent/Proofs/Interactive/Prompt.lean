import CommandAgent.Interactive.Handler
import CommandAgent.Proofs.Text.Search

/-!
# The prompt is found however the output is cut

`scan` looks again only at the tail of what has come before. `rescan` is the plain search that goes
through all of it after each portion, and the two agree (`scan_eq_rescan`): the invariant is that
the prompt does not stand in what has been searched, so it cannot begin before `searchFrom`.

From the plain search come the two facts about waiting for a prompt: it takes the fewest portions in
which the prompt stands (`rescanFrom_found`), and what it returns depends on the stream alone
(`scan_result`).
-/

namespace CommandAgent.Interactive

open Terminal (Console)
open Text (StandsAt FirstAt find?)

/-! ### The plain search -/

/-- Take portions until the prompt stands in what has come, searching all of it each time. -/
def rescanFrom (prompt : Bytes) : (seen : Bytes) → (taken : Nat) → List Bytes → Scan
  | seen, _, [] => .ended seen
  | seen, taken, portion :: rest =>
    let all := seen ++ portion
    match find? prompt all with
    | some stop => .found (all.take stop) (all.length - stop - prompt.length) (taken + 1)
    | none => rescanFrom prompt all (taken + 1) rest

/-- Take portions until the prompt stands in what has come, searching all of it each time. -/
def rescan (prompt : Bytes) (portions : List Bytes) : Scan := rescanFrom prompt [] 0 portions

def Scan.result : Scan → Except Bytes Bytes
  | found before .. => .ok before
  | ended whole => .error whole

/-- What a whole stream returns: the bytes before the first prompt, or all of them. -/
def upToPrompt (prompt stream : Bytes) : Except Bytes Bytes :=
  match find? prompt stream with
  | some stop => .ok (stream.take stop)
  | none => .error stream

variable {prompt : Bytes}

/-! ### The tail suffices -/

/-- If the prompt stands nowhere in the old bytes, it cannot begin before the tail of them that is
searched again. -/
theorem not_standsAt_of_lt_searchFrom {seen : Bytes} (hne : prompt ≠ [])
    (hseen : ∀ i, ¬ StandsAt prompt seen i) (portion : Bytes) :
    ∀ i < searchFrom prompt seen, ¬ StandsAt prompt (seen ++ portion) i := by
  intro i hi hstands
  have hpos : 0 < prompt.length := List.length_pos_iff.mpr hne
  unfold searchFrom at hi
  exact hseen i (hstands.of_append (by omega))

theorem find?_tail {seen : Bytes} (hne : prompt ≠ []) (hseen : ∀ i, ¬ StandsAt prompt seen i)
    (portion : Bytes) :
    find? prompt (seen ++ portion) =
      (find? prompt ((seen ++ portion).drop (searchFrom prompt seen))).map
        (searchFrom prompt seen + ·) :=
  Text.find?_drop hne (not_standsAt_of_lt_searchFrom hne hseen portion)

/-- The invariant carries the agreement: what has been searched does not hold the prompt. -/
theorem scanFrom_eq_rescanFrom (hne : prompt ≠ []) (portions : List Bytes) {seen : Bytes}
    (hseen : ∀ i, ¬ StandsAt prompt seen i) (taken : Nat) :
    scanFrom prompt seen taken portions = rescanFrom prompt seen taken portions := by
  induction portions generalizing seen taken with
  | nil => rfl
  | cons portion rest ih =>
    simp only [scanFrom, rescanFrom]
    rw [find?_tail hne hseen portion]
    cases hfind : find? prompt ((seen ++ portion).drop (searchFrom prompt seen)) with
    | some position => rfl
    | none =>
      have hall : find? prompt (seen ++ portion) = none := by
        rw [find?_tail hne hseen portion, hfind, Option.map_none]
      exact ih ((Text.find?_eq_none_iff hne).mp hall) (taken + 1)

theorem scan_eq_rescan (hne : prompt ≠ []) (portions : List Bytes) :
    scan prompt portions = rescan prompt portions :=
  scanFrom_eq_rescanFrom hne portions (Text.not_standsAt_nil hne) 0

/-! ### What is returned -/

/-- Scanning all that has come, after each portion, finds the first place of the prompt. -/
theorem rescanFrom_result (hne : prompt ≠ []) (portions : List Bytes) (seen : Bytes)
    (taken : Nat) (hseen : ∀ i, ¬ StandsAt prompt seen i) :
    (rescanFrom prompt seen taken portions).result =
      upToPrompt prompt (seen ++ portions.flatten) := by
  induction portions generalizing seen taken with
  | nil =>
    rw [List.flatten_nil, List.append_nil, upToPrompt, (Text.find?_eq_none_iff hne).mpr hseen]
    rfl
  | cons portion rest ih =>
    rw [List.flatten_cons, ← List.append_assoc]
    simp only [rescanFrom]
    cases hfind : find? prompt (seen ++ portion) with
    | none => exact ih _ _ ((Text.find?_eq_none_iff hne).mp hfind)
    | some stop =>
      have hfirst := (Text.find?_eq_some_iff hne).mp hfind
      have hle := hfirst.1.end_le hne
      -- what lies before the prompt has already come, so later portions do not change it
      have htake : (seen ++ portion ++ rest.flatten).take stop = (seen ++ portion).take stop :=
        List.take_append_of_le_length (by omega)
      rw [upToPrompt, (Text.find?_eq_some_iff hne).mpr (hfirst.append rest.flatten hne)]
      show Except.ok _ = Except.ok _
      rw [htake]

theorem scan_result (hne : prompt ≠ []) (portions : List Bytes) :
    (scan prompt portions).result = upToPrompt prompt portions.flatten := by
  rw [scan_eq_rescan hne]
  exact rescanFrom_result hne portions [] 0 (Text.not_standsAt_nil hne)

/-! ### How many portions are taken -/

/-- The bytes of the first `n` portions. -/
def came (portions : List Bytes) (n : Nat) : Bytes := (portions.take n).flatten

@[simp] theorem came_zero (portions : List Bytes) : came portions 0 = [] := rfl

@[simp] theorem came_nil (n : Nat) : came [] n = [] := by
  rw [came, List.take_nil, List.flatten_nil]

@[simp] theorem came_cons (portion : Bytes) (rest : List Bytes) (n : Nat) :
    came (portion :: rest) (n + 1) = portion ++ came rest n := rfl

theorem came_length (portions : List Bytes) : came portions portions.length = portions.flatten := by
  rw [came, List.take_length]

/-- The portions taken are the fewest in which the prompt stands, and what is returned and passed
over lies before and behind its first place in them. -/
theorem rescanFrom_found (hne : prompt ≠ []) (portions : List Bytes) {seen : Bytes} {n stop : Nat}
    (hseen : ¬ prompt <:+: seen)
    (hleast : ∀ m < n, ¬ prompt <:+: seen ++ came portions m)
    (hfirst : FirstAt prompt (seen ++ came portions n) stop) (taken : Nat) :
    rescanFrom prompt seen taken portions =
      .found ((seen ++ came portions n).take stop)
        ((seen ++ came portions n).length - stop - prompt.length) (taken + n) := by
  induction portions generalizing seen n taken with
  | nil =>
    rw [came_nil, List.append_nil] at hfirst
    exact absurd (Text.exists_standsAt_iff.mp ⟨stop, hfirst.1⟩) hseen
  | cons portion rest ih =>
    cases n with
    | zero =>
      rw [came_zero, List.append_nil] at hfirst
      exact absurd (Text.exists_standsAt_iff.mp ⟨stop, hfirst.1⟩) hseen
    | succ n =>
      rw [came_cons, ← List.append_assoc] at hfirst ⊢
      simp only [rescanFrom]
      cases hfind : find? prompt (seen ++ portion) with
      | none =>
        have hall : ¬ prompt <:+: seen ++ portion := by
          intro h
          obtain ⟨i, hi⟩ := Text.exists_standsAt_iff.mpr h
          exact (Text.find?_eq_none_iff hne).mp hfind i hi
        have hrest : ∀ m < n, ¬ prompt <:+: seen ++ portion ++ came rest m := by
          intro m hm
          rw [List.append_assoc, ← came_cons]
          exact hleast (m + 1) (Nat.succ_lt_succ hm)
        show rescanFrom prompt (seen ++ portion) (taken + 1) rest = _
        rw [ih hall hrest hfirst (taken + 1), Nat.add_assoc, Nat.add_comm 1 n]
      | some position =>
        have hpos := (Text.find?_eq_some_iff hne).mp hfind
        -- one portion was enough, so no more than one was taken
        obtain rfl : n = 0 := by
          cases n with
          | zero => rfl
          | succ n =>
            have hone := hleast 1 (Nat.succ_lt_succ (Nat.succ_pos n))
            rw [came_cons, came_zero, List.append_nil] at hone
            exact absurd (Text.exists_standsAt_iff.mp ⟨position, hpos.1⟩) hone
        rw [came_zero, List.append_nil] at hfirst ⊢
        rw [hpos.unique hfirst]

/-- Without a prompt everything is taken. -/
theorem rescanFrom_ended (hne : prompt ≠ []) (portions : List Bytes) (seen : Bytes) (taken : Nat)
    (h : ∀ i, ¬ StandsAt prompt (seen ++ portions.flatten) i) :
    rescanFrom prompt seen taken portions = .ended (seen ++ portions.flatten) := by
  induction portions generalizing seen taken with
  | nil => rw [List.flatten_nil, List.append_nil]; rfl
  | cons portion rest ih =>
    rw [List.flatten_cons, ← List.append_assoc] at h ⊢
    have hall : find? prompt (seen ++ portion) = none := by
      rw [Text.find?_eq_none_iff hne]
      intro i hi
      exact h i (hi.append rest.flatten hne)
    simp only [rescanFrom, hall]
    exact ih (seen ++ portion) (taken + 1) h

/-- The fewest portions in which the prompt stands are cut at its first place. -/
theorem scan_of_fewest (hne : prompt ≠ []) {portions : List Bytes} {n : Nat}
    (hn : prompt <:+: came portions n) (hleast : ∀ m < n, ¬ prompt <:+: came portions m) :
    ∃ before after, came portions n = before ++ prompt ++ after ∧
      FirstAt prompt (came portions n) before.length ∧
      scan prompt portions = .found before after.length n := by
  obtain ⟨stop, hstop⟩ := Text.exists_firstAt hn
  have hend := hstop.1.end_le hne
  have hbefore : ((came portions n).take stop).length = stop := by
    rw [List.length_take]; omega
  have hafter : ((came portions n).drop (stop + prompt.length)).length =
      (came portions n).length - stop - prompt.length := by
    rw [List.length_drop]; omega
  refine ⟨_, _, hstop.1.eq_append, ?_, ?_⟩
  · rw [hbefore]; exact hstop
  · have hnil : ¬ prompt <:+: [] := fun h => hne (List.infix_nil.mp h)
    have hfound := rescanFrom_found hne portions hnil hleast hstop 0
    rw [List.nil_append, Nat.zero_add] at hfound
    rw [hafter, scan_eq_rescan hne]
    exact hfound

/-- A prompt that never stands in what has come is awaited until the end of the stream. -/
theorem scan_of_none (hne : prompt ≠ []) {portions : List Bytes}
    (hnever : ∀ n, ¬ prompt <:+: came portions n) :
    scan prompt portions = .ended portions.flatten := by
  have hnone : ∀ i, ¬ StandsAt prompt ([] ++ portions.flatten) i := by
    intro i hi
    apply hnever portions.length
    rw [came_length]
    exact Text.exists_standsAt_iff.mp ⟨i, hi⟩
  rw [scan_eq_rescan hne]
  exact rescanFrom_ended hne portions [] 0 hnone

/-- The positions that the search computes lie within the bytes at hand. -/
theorem search_within (hne : prompt ≠ []) (seen portion : Bytes) :
    searchFrom prompt seen ≤ seen.length ∧
      ∀ position, find? prompt ((seen ++ portion).drop (searchFrom prompt seen)) = some position →
        searchFrom prompt seen + position + prompt.length ≤ (seen ++ portion).length := by
  refine ⟨Nat.sub_le _ _, ?_⟩
  intro position hfind
  have hstands := ((Text.find?_eq_some_iff hne).mp hfind).1
  exact (Text.standsAt_drop.mp hstands).end_le hne

/-! ### Reading in a session -/

theorem Options.marker_ne_nil {o : Options} (ho : o.prompt ≠ "") : o.marker ≠ [] := by
  intro h
  cases hcs : o.prompt.toList with
  | nil => exact ho (String.toList_eq_nil_iff.mp hcs)
  | cons c cs =>
    rw [Options.marker, Text.Utf8.encode, hcs, List.flatMap_cons] at h
    exact String.utf8EncodeChar_ne_nil (List.append_eq_nil_iff.mp h).1

variable {σ : Type}

/-- A prompt that came: what is returned, what is taken and what is noted. -/
theorem readPrompt_found (k : Console σ) (logger : Logger) (o : Options) (s : σ) (w : World)
    {before : Bytes} {trailing taken : Nat}
    (h : scan o.marker (k.upcoming s) = .found before trailing taken) :
    readPrompt k logger o s w =
      (.ok before, (k.advance taken s w).1,
        if trailing > 0 then logger.log (discarded trailing) (k.advance taken s w).2
        else (k.advance taken s w).2) := by
  rw [readPrompt, h]

/-- A stream that ended: all is returned, and the end of the stream is taken too. -/
theorem readPrompt_ended (k : Console σ) (logger : Logger) (o : Options) (s : σ) (w : World)
    {whole : Bytes} (h : scan o.marker (k.upcoming s) = .ended whole) :
    readPrompt k logger o s w = (.error whole, k.advance ((k.upcoming s).length + 1) s w) := by
  rw [readPrompt, h]

theorem readPrompt_fst (k : Console σ) (logger : Logger) (o : Options) (s : σ) (w : World) :
    (readPrompt k logger o s w).1 = (scan o.marker (k.upcoming s)).result := by
  cases h : scan o.marker (k.upcoming s) with
  | found before trailing taken => rw [readPrompt_found k logger o s w h]; rfl
  | ended whole => rw [readPrompt_ended k logger o s w h]; rfl

/-- Waiting for a prompt that is not empty, in a session whose stream comes in any portions: it
takes the fewest portions in which the prompt stands and returns exactly the bytes before its first
place in them; without a prompt it takes and returns everything. To search the tail is to search
everything, the portions matter only through the stream that they make up, and the positions that
the search computes lie within the bytes at hand. -/
theorem readPrompt_whatever_the_portions (k : Console σ) (logger : Logger) (o : Options) (s : σ)
    (w : World) (ho : o.prompt ≠ "") :
    (∀ n, o.marker <:+: came (k.upcoming s) n →
      (∀ m < n, ¬ o.marker <:+: came (k.upcoming s) m) →
        ∃ before after, came (k.upcoming s) n = before ++ o.marker ++ after ∧
          FirstAt o.marker (came (k.upcoming s) n) before.length ∧
          readPrompt k logger o s w =
            (.ok before, (k.advance n s w).1,
              if after.length > 0 then logger.log (discarded after.length) (k.advance n s w).2
              else (k.advance n s w).2)) ∧
    ((∀ n, ¬ o.marker <:+: came (k.upcoming s) n) →
      readPrompt k logger o s w =
        (.error (k.upcoming s).flatten, k.advance ((k.upcoming s).length + 1) s w)) ∧
    scan o.marker (k.upcoming s) = rescan o.marker (k.upcoming s) ∧
    (∀ {τ : Type} (k' : Console τ) (logger' : Logger) (s' : τ) (w' : World),
      (k'.upcoming s').flatten = (k.upcoming s).flatten →
        (readPrompt k' logger' o s' w').1 = (readPrompt k logger o s w).1) ∧
    (∀ n portion, (k.upcoming s)[n]? = some portion →
      let seen := came (k.upcoming s) n
      let start := searchFrom o.marker seen
      start ≤ seen.length ∧
        ∀ position, find? o.marker ((seen ++ portion).drop start) = some position →
          start + position + o.marker.length ≤ (seen ++ portion).length) := by
  have hne := Options.marker_ne_nil ho
  refine ⟨?_, ?_, scan_eq_rescan hne _, ?_, ?_⟩
  · intro n hn hleast
    obtain ⟨before, after, hcut, hfirst, hscan⟩ := scan_of_fewest hne hn hleast
    exact ⟨before, after, hcut, hfirst, readPrompt_found k logger o s w hscan⟩
  · intro hnever
    exact readPrompt_ended k logger o s w (scan_of_none hne hnever)
  · intro τ k' logger' s' w' hsame
    rw [readPrompt_fst, readPrompt_fst, scan_result hne, scan_result hne, hsame]
  · intro n portion _
    exact search_within hne (came (k.upcoming s) n) portion

/-- A terminal that plays portions back. -/
def playback : Console (List Bytes) where
  start _ _ _ _ _ := .ok []
  upcoming portions := portions
  advance n portions w := (portions.drop n, w)
  write data portions _ := (.ok data.length, portions)
  close portions _ := portions

/-- A shell with the prompt `aab`, which overlaps itself in `aaab`. -/
def stutterer : Options := ⟨"db", [], "aab", 80, 24⟩

/-- The stream `aaab!aab`, its first prompt spread over five portions. -/
def pieces : List Bytes := [[97], [97], [], [97], [98, 33], [97, 97, 98]]

def bareWorld : World := { files := ⟨[]⟩, cwd := [], env := [] }

/-- Five of the pieces are taken, and the `!` behind the prompt is passed over. -/
theorem readPrompt_of_pieces :
    stutterer.prompt ≠ "" ∧ stutterer.marker <:+: came pieces 5 ∧
      (∀ m < 5, ¬ stutterer.marker <:+: came pieces m) ∧
      ∃ before after, came pieces 5 = before ++ stutterer.marker ++ after ∧
        FirstAt stutterer.marker (came pieces 5) before.length ∧
        readPrompt playback ⟨"db", .debug⟩ stutterer pieces bareWorld =
          (.ok before, [[97, 97, 98]],
            if after.length > 0 then Logger.log ⟨"db", .debug⟩ (discarded after.length) bareWorld
            else bareWorld) :=
  ⟨by decide, by decide, by decide,
    (readPrompt_whatever_the_portions playback ⟨"db", .debug⟩ stutterer pieces bareWorld
      (by decide)).1 5 (by decide) (by decide)⟩

end CommandAgent.Interactive
