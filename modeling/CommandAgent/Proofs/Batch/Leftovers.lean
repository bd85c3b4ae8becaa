import CommandAgent.Batch.Run
import CommandAgent.Proofs.Host.Removal
import CommandAgent.Proofs.Host.Steps

/-!
# What a run leaves behind

A run captures its output in a file of its own and may have been given a temporary file. Once the
file for the output has been made and there is a second handle on it, both files are gone when the
run is over, whatever the machine makes of the program. If one of these steps is refused, the run
ends then and there, and all is left as it is: the temporary file, and the file for the output if it
has been made (`run_leaves`, `scratch_left_behind`).
-/

namespace CommandAgent

/-! ### Identifiers -/

theorem slash_notMem_toDigits (n : Nat) : '/' ∉ Nat.toDigits 16 n := by
  have hdigit : ∀ k < 16, '/' ≠ Nat.digitChar k := by decide
  induction n using Nat.strongRecOn with
  | ind n ih =>
    rw [Nat.toDigits_eq_if (by decide)]
    split
    · next hlt =>
      rw [List.mem_singleton]
      exact hdigit n hlt
    · rw [List.mem_append, List.mem_singleton, not_or]
      exact ⟨ih (n / 16) (by omega), hdigit (n % 16) (Nat.mod_lt n (by decide))⟩

theorem slash_notMem_identifierText (n : Nat) : '/' ∉ (World.identifierText n).toList := by
  rw [World.identifierText, String.toList_ofList, List.mem_append, not_or]
  refine ⟨?_, slash_notMem_toDigits n⟩
  intro hmem
  exact absurd (List.eq_of_mem_replicate hmem) (by decide)

namespace Invocation

variable {m : Machine} {i : Invocation} {w opened : World} {path : String} {e : OsError}

/-! ### The file for the output -/

def captureName (w : World) : String := s!"output-{w.drawIdentifier.1}.log"

def capturePath (w : World) : String := Path.join (captureDirectory w) (captureName w)

theorem toList_captureName (w : World) : (captureName w).toList =
    "output-".toList ++ (World.identifierText w.drawn).toList ++ ".log".toList := by
  show ("output-" ++ World.identifierText w.drawn ++ ".log").toList = _
  rw [String.toList_append, String.toList_append]

theorem slash_notMem_captureName (w : World) : '/' ∉ (captureName w).toList := by
  rw [toList_captureName, List.mem_append, List.mem_append, not_or, not_or]
  exact ⟨⟨by decide, slash_notMem_identifierText w.drawn⟩, by decide⟩

/-- The name of the file begins like no other name that stands for a place. -/
theorem captureName_ne {s : String} (h : s.toList.head? ≠ some 'o') (w : World) :
    captureName w ≠ s := by
  rintro rfl
  rw [toList_captureName] at h
  exact h rfl

/-- The file for the output is made: its directory, and the file itself. -/
def open? (w : World) : Except OsError World :=
  (w.updateFiles (w.files.makeDirectories w.cwd (captureDirectory w))).bind fun made =>
    made.drawIdentifier.2.storeFile (capturePath w) []

/-- Either the directory cannot be made, or there is one that nothing is gone from, and all depends
on the file. -/
theorem open?_cases (w : World) :
    (∃ e, w.updateFiles (w.files.makeDirectories w.cwd (captureDirectory w)) = .error e ∧
      open? w = .error e) ∨
    ∃ made, w.updateFiles (w.files.makeDirectories w.cwd (captureDirectory w)) = .ok made ∧
      made.drawIdentifier.1 = w.drawIdentifier.1 ∧ w.Within made.drawIdentifier.2 ∧
      open? w = made.drawIdentifier.2.storeFile (capturePath w) [] := by
  unfold open?
  cases hmade : w.updateFiles (w.files.makeDirectories w.cwd (captureDirectory w)) with
  | error e => exact .inl ⟨e, rfl, rfl⟩
  | ok made =>
    have hwithin := (World.Within.of_makeDirectories hmade).trans (.drawIdentifier made)
    have hdrawn : made.drawIdentifier.1 = w.drawIdentifier.1 := by
      obtain ⟨fs, -, rfl⟩ := Json.map_eq_ok hmade
      rfl
    refine .inr ⟨made, rfl, hdrawn, hwithin, ?_⟩
    dsimp only [Except.bind]

/-- Once it has been made, the file is there, and nothing that was there is gone. -/
theorem of_open? (h : open? w = .ok opened) :
    opened.HasEntry (capturePath w) ∧ w.Within opened := by
  rcases open?_cases w with ⟨e, -, hopen⟩ | ⟨made, -, -, hwithin, hopen⟩
  · rw [hopen] at h
    cases h
  rw [hopen] at h
  have hslash := slash_notMem_captureName w
  have hempty : captureName w ≠ "" := captureName_ne (by decide) w
  have hrelative : Path.isAbsolute (captureName w) = false := by
    rw [Path.isAbsolute, toList_captureName]
    rfl
  have hnames : Path.names (capturePath w) =
      Path.names (captureDirectory w) ++ [captureName w] := by
    rw [capturePath, Path.names_join _ hrelative, Path.names_of_notMem hempty hslash]
  have hend : Path.endsInSlash (capturePath w) = false := by
    rw [capturePath, Path.endsInSlash_join _ hempty, Path.endsInSlash, beq_eq_false_iff_ne]
    exact fun hlast => hslash (List.mem_of_getLast? hlast)
  exact ⟨World.hasEntry_of_storeFile hnames hend (captureName_ne (by decide) w)
    (captureName_ne (by decide) w) h, hwithin.trans (.of_storeFile h)⟩

/-! ### The steps of a run -/

/-- The world after a run, without the files of the run. -/
def cleared (i : Invocation) (path : String) (w : World) : World :=
  match i.scratch with
  | some scratch => (w.discardFile path).discardFile scratch
  | none => w.discardFile path

/-- Where the file for the output cannot be made, the run ends, and nothing is gone. -/
theorem run_of_unopened (h : open? w = .error e) :
    (i.run m w).1 = .error (Failure.ofOsError e) ∧ w.Within (i.run m w).2 := by
  unfold run
  dsimp only
  rcases open?_cases w with ⟨e', hmade, hopen⟩ | ⟨made, hmade, hdrawn, hwithin, hopen⟩
  · obtain rfl : e' = e := Except.error.inj (hopen.symm.trans h)
    rw [hmade]
    exact ⟨rfl, .refl w⟩
  · rw [hopen] at h
    unfold capturePath captureName at h
    rw [hmade]
    dsimp only
    rw [hdrawn, h]
    exact ⟨rfl, hwithin⟩

/-- What a run does once the file for its output has been made. -/
def proceed (m : Machine) (i : Invocation) (path : String) (w : World) :
    Except Failure Captured × World :=
  match m.duplicate w with
  | .error e => (.error (Failure.ofOsError e), w)
  | .ok _ => ((i.capture m path w).1, i.cleared path (i.capture m path w).2)

/-- Once all files are open, a run goes on with them and nothing else decides how it ends. -/
theorem run_of_opened (h : open? w = .ok opened) :
    i.run m w = i.proceed m (capturePath w) opened := by
  unfold run
  dsimp only
  rcases open?_cases w with ⟨e', -, hopen⟩ | ⟨made, hmade, hdrawn, -, hopen⟩
  · rw [hopen] at h
    cases h
  · rw [hopen] at h
    unfold capturePath captureName at h ⊢
    rw [hmade]
    dsimp only
    rw [hdrawn, h, proceed, cleared]
    cases i.scratch <;> rfl

/-- Where there is no second handle on the file, the run ends, and the file stays. -/
theorem run_of_unduplicated (h : open? w = .ok opened)
    (hduplicate : m.duplicate opened = .error e) :
    i.run m w = (.error (Failure.ofOsError e), opened) := by
  rw [run_of_opened h, proceed, hduplicate]

/-- Once there is a second handle on the file, the run goes on to its end, and the files are
removed. -/
theorem run_of_duplicated (h : open? w = .ok opened) (hduplicate : m.duplicate opened = .ok ()) :
    i.run m w = ((i.capture m (capturePath w) opened).1,
      i.cleared (capturePath w) (i.capture m (capturePath w) opened).2) := by
  rw [run_of_opened h, proceed, hduplicate]

/-! ### What is left -/

/-- The file for the output can be made, and there is a second handle on it. -/
def Ready (m : Machine) (w : World) : Prop :=
  ∃ opened, open? w = .ok opened ∧ m.duplicate opened = .ok ()

/-- Neither file of the run is there once they have been removed. -/
theorem not_hasEntry_cleared (i : Invocation) (path : String) (w : World) :
    ¬ (i.cleared path w).HasEntry path ∧
      ∀ scratch, i.scratch = some scratch → ¬ (i.cleared path w).HasEntry scratch := by
  have hpath := World.not_hasEntry_discardFile w path
  unfold cleared
  cases i.scratch with
  | none =>
    refine ⟨hpath, ?_⟩
    intro scratch hscratch
    cases hscratch
  | some scratch =>
    constructor
    · -- what is removed second brings back nothing
      exact fun hentry => hpath (hentry.of_within (.discardFile _ scratch))
    · intro scratch' hscratch
      cases hscratch
      exact World.not_hasEntry_discardFile _ scratch

/-- A run that is not ready to start its program ends with the refusal and removes nothing. -/
theorem run_of_not_ready (h : ¬ Ready m w) :
    (∃ e, (i.run m w).1 = .error (Failure.ofOsError e)) ∧ w.Within (i.run m w).2 ∧
      ∀ opened, open? w = .ok opened → (i.run m w).2 = opened := by
  cases hopen : open? w with
  | error e =>
    obtain ⟨hresult, hwithin⟩ := run_of_unopened (m := m) (i := i) hopen
    refine ⟨⟨e, hresult⟩, hwithin, ?_⟩
    intro opened hopened
    cases hopened
  | ok opened =>
    cases hduplicate : m.duplicate opened with
    | ok => exact absurd ⟨opened, hopen, hduplicate⟩ h
    | error e =>
      rw [run_of_unduplicated hopen hduplicate]
      exact ⟨⟨e, rfl⟩, (of_open? hopen).2, fun _ h => Except.ok.inj h⟩

/-- A run that gets as far as starting its program leaves neither the file for the output nor the
temporary file, whatever the machine makes of the program. A run that ends before it has a second
handle on the file fails and leaves everything: what there was before, such as the temporary file,
and the file for the output if that has been made. -/
theorem run_leaves (m : Machine) (i : Invocation) (w : World) :
    (Ready m w →
      ¬ (i.run m w).2.HasEntry (capturePath w) ∧
      ∀ scratch, i.scratch = some scratch → ¬ (i.run m w).2.HasEntry scratch) ∧
    (¬ Ready m w →
      (∃ e, (i.run m w).1 = .error (Failure.ofOsError e)) ∧
      (∀ path, w.HasEntry path → (i.run m w).2.HasEntry path) ∧
      ∀ opened, open? w = .ok opened → (i.run m w).2.HasEntry (capturePath w)) := by
  constructor
  · rintro ⟨opened, hopen, hduplicate⟩
    rw [run_of_duplicated hopen hduplicate]
    exact not_hasEntry_cleared i (capturePath w) _
  · intro hready
    obtain ⟨hfails, hwithin, hopened⟩ := run_of_not_ready (i := i) hready
    refine ⟨hfails, fun path hentry => hentry.of_within hwithin, ?_⟩
    intro opened hopen
    rw [hopened opened hopen]
    exact (of_open? hopen).1

/-- A machine that starts no program. -/
def emptyMachine : Machine where
  duplicate _ := .ok ()
  run _ _ w := (.error (.spawn .noEntry), w)

/-- A run with the temporary file `/s`. -/
def withScratch : Invocation := { launch := { program := "sh" }, scratch := some "/s" }

def twoFiles (temporary : String) : World where
  files := ⟨[(["f"], .file [] false), (["s"], .file [] false)]⟩
  cwd := []
  env := [("TMPDIR", temporary)]

/-- A run whose directory can be made leaves no temporary file. -/
theorem run_leaves_nothing :
    Ready emptyMachine (twoFiles "/") ∧ (twoFiles "/").HasEntry "/s" ∧
      ¬ (withScratch.run emptyMachine (twoFiles "/")).2.HasEntry "/s" := by
  have hopen : (open? (twoFiles "/")).toOption.isSome = true := by decide
  obtain ⟨opened, hopened⟩ := Option.isSome_iff_exists.mp hopen
  have hready : Ready emptyMachine (twoFiles "/") := ⟨opened, Json.eq_ok_of_toOption hopened, rfl⟩
  refine ⟨hready, ⟨.file [] false, rfl, by simp⟩, ?_⟩
  exact ((run_leaves emptyMachine withScratch (twoFiles "/")).1 hready).2 "/s" rfl

/-- Where a file stands in the way of the directory for the output, the temporary file stays. -/
theorem scratch_left_behind :
    (withScratch.run emptyMachine (twoFiles "/f")).1 = .error (Failure.ofOsError .notDirectory) ∧
      (withScratch.run emptyMachine (twoFiles "/f")).2.HasEntry "/s" := by
  exact ⟨rfl, .file [] false, rfl, by simp⟩

end Invocation
end CommandAgent
