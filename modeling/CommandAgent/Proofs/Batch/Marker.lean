import CommandAgent.Batch.Bundle
import CommandAgent.Proofs.Host.Steps
import CommandAgent.Proofs.Json.Scan
import CommandAgent.Proofs.Text.Utf8

/-!
# Which file a bundle runs

The marker of a bundle names the file to run by a path from where the bundle was unpacked. Any
leading `./` are dropped and the first name is split off as the directory to run in; the rest is the
entry, which the interpreter looks up from that directory. Directory and entry together lead where
the marker says (`readEntry_leads`), with one exception. If the first name is followed by two
slashes, the second of them begins the entry: it is absolute and stands for itself, so what is run
is searched from the root and not in the bundle (`Strays`).
-/

namespace CommandAgent.Bundle

def here (n : Nat) : List Char := (List.replicate n ['.', '/']).flatten

/-- A path whose first name, possibly the `.` of a leading `./`, is followed by two slashes, with
`more` behind them. -/
def Strays (path more : List Char) : Prop :=
  ∃ n first, path = here n ++ first ++ '/' :: '/' :: more ∧ first ≠ [] ∧ '/' ∉ first

/-- A path with a name and a slash at its front and something behind them. -/
def Splits (path first rest : List Char) : Prop :=
  path = first ++ '/' :: rest ∧ first ≠ [] ∧ '/' ∉ first ∧ rest ≠ []

/-- The file that an entry leads to: an interpreter started in its directory looks it up from
there. -/
def target (e : ScriptEntry) : String :=
  match e.directory with
  | none => e.entry
  | some directory => Path.join directory e.entry

/-- The marker of a bundle unpacked into `base` can be read, and holds the text. -/
def Marks (base : String) (w : World) (text : String) : Prop :=
  ∃ data, w.contentOf (Path.join base marker) = .ok data ∧ Text.Utf8.decode? data = some text

variable {base text : String} {cs first rest more : List Char} {w : World}

/-! ### Leading `./` -/

theorem here_succ (n : Nat) : here (n + 1) = '.' :: '/' :: here n := rfl

theorem dropHere_here_append (n : Nat) (cs : List Char) :
    dropHere (here n ++ cs) = dropHere cs := by
  induction n with
  | zero => rfl
  | succ n ih => exact ih

/-- Every text is some `./` in a row and then a text that does not start with `./`. -/
theorem exists_here (cs : List Char) : ∃ n, cs = here n ++ dropHere cs := by
  induction cs using dropHere.induct with
  | case1 cs ih =>
    obtain ⟨n, hn⟩ := ih
    refine ⟨n + 1, ?_⟩
    rw [dropHere, here_succ, List.cons_append, List.cons_append, ← hn]
  | case2 cs hplain =>
    refine ⟨0, ?_⟩
    rw [dropHere.eq_2 cs hplain]
    rfl

/-- Leading `./` lead nowhere. -/
theorem steps_here_append (n : Nat) (cs : List Char) :
    Path.steps (String.ofList (here n ++ cs)) = Path.steps (String.ofList cs) := by
  induction n with
  | zero => rfl
  | succ n ih =>
    have hcut : String.ofList (here (n + 1) ++ cs) =
        "." ++ "/" ++ String.ofList (here n ++ cs) := by
      rw [← String.toList_inj]
      simp [here_succ]
    rw [hcut, Path.steps_slash, ih]
    rfl

/-- A name other than `.` is not dropped. -/
theorem dropHere_of_name (hfirst : '/' ∉ first) (hdot : first ≠ ['.']) :
    dropHere (first ++ '/' :: rest) = first ++ '/' :: rest := by
  apply dropHere.eq_2
  intro behind h
  cases first with
  | nil => cases h
  | cons c names =>
    cases names with
    | nil =>
      cases h
      exact hdot rfl
    | cons d names =>
      cases h
      exact hfirst (by simp)

/-! ### The first name -/

theorem name_before_slash (hfirst : '/' ∉ first) : ∀ c ∈ first, (c != '/') = true := by
  intro c hc
  exact bne_iff_ne.mpr (ne_of_mem_of_not_mem hc hfirst)

theorem takeWhile_name (hfirst : '/' ∉ first) :
    (first ++ '/' :: rest).takeWhile (· != '/') = first := by
  rw [List.takeWhile_append_of_pos (name_before_slash hfirst)]
  simp

theorem dropWhile_name (hfirst : '/' ∉ first) :
    (first ++ '/' :: rest).dropWhile (· != '/') = '/' :: rest := by
  rw [List.dropWhile_append_of_pos (name_before_slash hfirst)]
  simp

/-- There is one first name. -/
theorem Splits.unique {first' rest' : List Char} (h : Splits cs first rest)
    (h' : Splits cs first' rest') : first = first' ∧ rest = rest' := by
  obtain ⟨rfl, -, hfirst, -⟩ := h
  obtain ⟨heq, -, hfirst', -⟩ := h'
  have htake := congrArg (List.takeWhile (· != '/')) heq
  have hdrop := congrArg (List.dropWhile (· != '/')) heq
  rw [takeWhile_name hfirst, takeWhile_name hfirst'] at htake
  rw [dropWhile_name hfirst, dropWhile_name hfirst'] at hdrop
  exact ⟨htake, List.tail_eq_of_cons_eq hdrop⟩

theorem not_splits_slash : ¬ Splits ('/' :: more) first rest := by
  rintro ⟨heq, hne, hfirst, -⟩
  obtain ⟨c, behind, rfl⟩ := List.exists_cons_of_ne_nil hne
  cases heq
  exact hfirst List.mem_cons_self

/-! ### Where the second slash ends up -/

theorem here_succ_end (n : Nat) : here (n + 1) = here n ++ ['.'] ++ ['/'] := by
  simp [here, List.replicate_succ']

theorem Strays.doubled (h : Strays cs more) : ['/', '/'] <:+: cs := by
  obtain ⟨n, first, rfl, -⟩ := h
  exact ⟨here n ++ first, more, by simp⟩

/-- Two slashes behind the first name leave a path that starts at the root, or one that does so
behind its first name. -/
theorem Strays.dropHere_cases (h : Strays cs more) :
    dropHere cs = '/' :: more ∨ ∃ first, Splits (dropHere cs) first ('/' :: more) := by
  obtain ⟨n, first, rfl, hne, hfirst⟩ := h
  rw [List.append_assoc, dropHere_here_append]
  by_cases hdot : first = ['.']
  · left
    rw [hdot]
    rfl
  · right
    exact ⟨first, dropHere_of_name hfirst hdot, hne, hfirst, List.cons_ne_nil _ _⟩

/-- A relative path that is left with a slash at its front had it behind a leading `./`. -/
theorem strays_of_slash (hrelative : cs.head? ≠ some '/') (h : dropHere cs = '/' :: more) :
    Strays cs more := by
  obtain ⟨n, hn⟩ := exists_here cs
  rw [h] at hn
  cases n with
  | zero =>
    rw [hn] at hrelative
    exact absurd rfl hrelative
  | succ n =>
    refine ⟨n, ['.'], ?_, by simp, by simp⟩
    rw [hn, here_succ_end, List.append_assoc]
    rfl

theorem strays_of_splits (h : Splits (dropHere cs) first ('/' :: more)) : Strays cs more := by
  obtain ⟨heq, hne, hfirst, -⟩ := h
  obtain ⟨n, hn⟩ := exists_here cs
  refine ⟨n, first, ?_, hne, hfirst⟩
  rw [List.append_assoc, ← heq]
  exact hn

/-! ### The entry -/

/-- A name with something behind it becomes the directory to run in. -/
theorem entryOf_of_splits (h : Splits (dropHere (Text.trim text).toList) first rest) :
    entryOf base text =
      .ok ⟨some (Path.join base (String.ofList first)), String.ofList rest⟩ := by
  obtain ⟨heq, hne, hfirst, hrest⟩ := h
  rw [entryOf, heq, takeWhile_name hfirst, dropWhile_name hfirst, if_neg (by simp),
    if_neg (by simp [hne, hrest])]
  rfl

/-- A path without such a name is the entry as it stands. -/
theorem entryOf_of_whole (hentry : dropHere (Text.trim text).toList ≠ [])
    (hwhole : ∀ first rest, ¬ Splits (dropHere (Text.trim text).toList) first rest) :
    entryOf base text = .ok ⟨some base, String.ofList (dropHere (Text.trim text).toList)⟩ := by
  rw [entryOf]
  generalize dropHere (Text.trim text).toList = cs at hentry hwhole
  rw [if_neg (by simpa using hentry), if_pos]
  by_cases hslash : '/' ∈ cs
  · obtain ⟨first, rest, rfl, hfirst⟩ := List.eq_append_cons_of_mem hslash
    rw [takeWhile_name hfirst, dropWhile_name hfirst]
    by_cases hne : first = []
    · simp [hne]
    · by_cases hrest : rest = []
      · simp [hrest]
      · exact absurd ⟨rfl, hne, hfirst, hrest⟩ (hwhole first rest)
  · have hdrop : cs.dropWhile (· != '/') = [] := by
      rw [← List.append_nil cs, List.dropWhile_append_of_pos (name_before_slash hslash)]
      rfl
    simp [hdrop]

/-- A marker names nothing, or its first name is the directory to run in, or it is the entry as it
stands. -/
theorem entryOf_cases (base text : String) :
    (dropHere (Text.trim text).toList = [] ∧
      entryOf base text = .error (Failure.command (marker ++ " is empty"))) ∨
    (∃ first rest, Splits (dropHere (Text.trim text).toList) first rest ∧ entryOf base text =
      .ok ⟨some (Path.join base (String.ofList first)), String.ofList rest⟩) ∨
    (dropHere (Text.trim text).toList ≠ [] ∧
      (∀ first rest, ¬ Splits (dropHere (Text.trim text).toList) first rest) ∧
      entryOf base text =
        .ok ⟨some base, String.ofList (dropHere (Text.trim text).toList)⟩) := by
  by_cases hentry : dropHere (Text.trim text).toList = []
  · left
    refine ⟨hentry, ?_⟩
    rw [entryOf, hentry]
    rfl
  · right
    by_cases hsplits : ∃ first rest, Splits (dropHere (Text.trim text).toList) first rest
    · left
      obtain ⟨first, rest, hsplits⟩ := hsplits
      exact ⟨first, rest, hsplits, entryOf_of_splits hsplits⟩
    · right
      have hwhole := fun first rest h => hsplits ⟨first, rest, h⟩
      exact ⟨hentry, hwhole, entryOf_of_whole hentry hwhole⟩

/-- Only a marker that names nothing fails. -/
theorem entryOf_eq_error_iff {f : Failure} : entryOf base text = .error f ↔
    f = Failure.command (marker ++ " is empty") ∧ ∃ n, (Text.trim text).toList = here n := by
  have hnothing : dropHere (Text.trim text).toList = [] ↔
      ∃ n, (Text.trim text).toList = here n := by
    constructor
    · intro h
      obtain ⟨n, hn⟩ := exists_here (Text.trim text).toList
      rw [h, List.append_nil] at hn
      exact ⟨n, hn⟩
    · rintro ⟨n, hn⟩
      rw [hn, ← List.append_nil (here n), dropHere_here_append]
      rfl
  rw [← hnothing]
  rcases entryOf_cases base text with
    ⟨hentry, heq⟩ | ⟨first, rest, ⟨hcs, -⟩, heq⟩ | ⟨hentry, -, heq⟩
  · rw [heq]
    constructor
    · intro h
      cases h
      exact ⟨rfl, hentry⟩
    · rintro ⟨rfl, -⟩
      rfl
  · rw [heq]
    constructor
    · intro h
      cases h
    · rintro ⟨-, h⟩
      rw [hcs] at h
      exact absurd h (by simp)
  · rw [heq]
    constructor
    · intro h
      cases h
    · rintro ⟨-, h⟩
      exact absurd h hentry

/-! ### What the entry leads to -/

/-- Two slashes behind the first name lead to the root. -/
theorem target_of_strays {e : ScriptEntry} (h : entryOf base text = .ok e)
    (hstrays : Strays (Text.trim text).toList more) :
    target e = String.ofList ('/' :: more) := by
  have habsolute : Path.isAbsolute (String.ofList ('/' :: more)) := by
    rw [Path.isAbsolute_ofList]
    rfl
  rcases entryOf_cases base text with ⟨-, heq⟩ | ⟨first, rest, hsplits, heq⟩ | ⟨-, hwhole, heq⟩
  · rw [heq] at h
    cases h
  · rw [heq] at h
    cases h
    rcases hstrays.dropHere_cases with hslash | ⟨first', hsplits'⟩
    · rw [hslash] at hsplits
      exact absurd hsplits not_splits_slash
    · obtain ⟨-, rfl⟩ := hsplits.unique hsplits'
      exact Path.join_of_isAbsolute habsolute _
  · rw [heq] at h
    cases h
    rcases hstrays.dropHere_cases with hslash | ⟨first', hsplits'⟩
    · rw [hslash]
      exact Path.join_of_isAbsolute habsolute _
    · exact absurd hsplits' (hwhole _ _)

/-- Any other path is followed from where the bundle was unpacked. -/
theorem target_alike {e : ScriptEntry} (h : entryOf base text = .ok e)
    (hrelative : Path.isAbsolute (Text.trim text) = false)
    (hstays : ∀ more, ¬ Strays (Text.trim text).toList more) :
    Path.Alike (target e) (Path.join base (Text.trim text)) := by
  have hhead : (Text.trim text).toList.head? ≠ some '/' := by
    intro h
    rw [Path.isAbsolute_iff.mpr h] at hrelative
    cases hrelative
  obtain ⟨n, hn⟩ := exists_here (Text.trim text).toList
  have hsteps : Path.steps (Text.trim text) =
      Path.steps (String.ofList (dropHere (Text.trim text).toList)) := by
    rw [← steps_here_append n, ← hn, String.ofList_toList]
  rcases entryOf_cases base text with ⟨-, heq⟩ | ⟨first, rest, hsplits, heq⟩ | ⟨-, -, heq⟩
  · rw [heq] at h
    cases h
  · rw [heq] at h
    cases h
    have hrest : Path.isAbsolute (String.ofList rest) = false := by
      apply Path.isAbsolute_ofList_eq_false_iff.mpr
      rintro more rfl
      exact hstays more (strays_of_splits hsplits)
    obtain ⟨hcs, -, hfirst, -⟩ := hsplits
    have hdirectory : Path.isAbsolute (String.ofList first) = false := by
      apply Path.isAbsolute_ofList_eq_false_iff.mpr
      rintro more rfl
      exact hfirst List.mem_cons_self
    apply Path.alike_join _ hrest hrelative
    · rw [hsteps, hcs, Path.steps_join base hdirectory, Path.steps_ofList_slash, List.append_assoc]
    · rw [Path.isAbsolute_join_eq, hdirectory, Bool.false_or]
  · rw [heq] at h
    cases h
    have hentry : Path.isAbsolute
        (String.ofList (dropHere (Text.trim text).toList)) = false := by
      apply Path.isAbsolute_ofList_eq_false_iff.mpr
      intro more hmore
      exact hstays more (strays_of_slash hhead hmore)
    exact Path.alike_join rfl hentry hrelative (by rw [hsteps])

/-- The root has fewer steps than a path below a directory. -/
theorem not_alike_of_strays (hbase : Path.steps base ≠ [])
    (hrelative : Path.isAbsolute (Text.trim text) = false)
    (hstrays : Strays (Text.trim text).toList more) :
    ¬ Path.Alike (String.ofList ('/' :: more)) (Path.join base (Text.trim text)) := by
  rintro ⟨-, hsteps⟩
  obtain ⟨n, first, hpath, -⟩ := hstrays
  rw [List.append_assoc] at hpath
  have htrim : Text.trim text = String.ofList (here n ++ (first ++ '/' :: '/' :: more)) := by
    rw [← hpath, String.ofList_toList]
  rw [Path.steps_join base hrelative, htrim, steps_here_append, Path.steps_ofList_slash] at hsteps
  have hlength := congrArg List.length hsteps
  have hpos : 0 < (Path.steps base).length := List.length_pos_iff.mpr hbase
  simp only [List.length_append] at hlength
  omega

theorem readEntry_of_marks (h : Marks base w text) : readEntry base w = entryOf base text := by
  obtain ⟨data, hdata, htext⟩ := h
  rw [readEntry, hdata]
  dsimp only
  rw [htext]

/-- A bundle runs the file that its marker names, up to repeated slashes and segments `.`, unless
two slashes follow the first name: what stands behind them is then run from the root. Only a marker
of nothing but `./` fails. -/
theorem readEntry_leads (hmarks : Marks base w text)
    (hrelative : Path.isAbsolute (Text.trim text) = false) :
    (∀ f, readEntry base w = .error f ↔
      f = Failure.command (marker ++ " is empty") ∧ ∃ n, (Text.trim text).toList = here n) ∧
    ∀ e, readEntry base w = .ok e →
      ((∀ more, ¬ Strays (Text.trim text).toList more) →
        Path.Alike (target e) (Path.join base (Text.trim text))) ∧
      ∀ more, Strays (Text.trim text).toList more →
        target e = String.ofList ('/' :: more) ∧
        (Path.steps base ≠ [] → ¬ Path.Alike (target e) (Path.join base (Text.trim text))) := by
  rw [readEntry_of_marks hmarks]
  constructor
  · intro f
    exact entryOf_eq_error_iff
  · intro e he
    refine ⟨target_alike he hrelative, ?_⟩
    intro more hstrays
    have htarget := target_of_strays he hstrays
    refine ⟨htarget, ?_⟩
    intro hbase
    rw [htarget]
    exact not_alike_of_strays hbase hrelative hstrays

/-- A world with a bundle unpacked at `/b` whose marker holds the text. -/
def unpacked (text : String) : World where
  files := ⟨[(["b"], .directory), (["b", "entry.bs"], .file (Text.Utf8.encode text) false)]⟩
  cwd := []
  env := []

theorem marks_unpacked (text : String) : Marks "/b" (unpacked text) text :=
  ⟨Text.Utf8.encode text, rfl, Text.Utf8.decode?_encode text⟩

/-- A marker with `./` in front and inside. -/
theorem readEntry_leads_here :
    Marks "/b" (unpacked "././scripts/./main.sql\n") "././scripts/./main.sql\n" ∧
      readEntry "/b" (unpacked "././scripts/./main.sql\n") =
        .ok ⟨some "/b/scripts", "./main.sql"⟩ ∧
      Path.Alike "/b/scripts/./main.sql" "/b/././scripts/./main.sql" := by
  have hread : readEntry "/b" (unpacked "././scripts/./main.sql\n") =
      .ok ⟨some "/b/scripts", "./main.sql"⟩ :=
    Json.eq_ok_of_toOption (by decide +kernel)
  have hmarks := marks_unpacked "././scripts/./main.sql\n"
  have hleads := (readEntry_leads hmarks (by decide +kernel)).2 _ hread
  have hstays : ∀ more, ¬ Strays (Text.trim "././scripts/./main.sql\n").toList more := by
    intro more hstrays
    exact absurd hstrays.doubled (by decide +kernel)
  exact ⟨hmarks, hread, hleads.1 hstays⟩

/-- With two slashes behind the first name, the entry is not the file that the marker names. -/
theorem readEntry_leaves_bundle :
    Marks "/b" (unpacked "scripts//main.sql\n") "scripts//main.sql\n" ∧
      Path.isAbsolute (Text.trim "scripts//main.sql\n") = false ∧
      readEntry "/b" (unpacked "scripts//main.sql\n") = .ok ⟨some "/b/scripts", "/main.sql"⟩ ∧
      target ⟨some "/b/scripts", "/main.sql"⟩ = "/main.sql" ∧
      ¬ Path.Alike (target ⟨some "/b/scripts", "/main.sql"⟩)
        (Path.join "/b" (Text.trim "scripts//main.sql\n")) :=
  ⟨marks_unpacked _, by decide +kernel, Json.eq_ok_of_toOption (by decide +kernel),
    by decide +kernel, by decide +kernel⟩

end CommandAgent.Bundle
