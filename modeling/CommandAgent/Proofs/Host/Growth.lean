import CommandAgent.Proofs.Host.Alike
import CommandAgent.Proofs.Json.Scan

/-!
# What is added to a file system

Making directories adds directories at places that were free, and changes nothing else
(`Grows.of_makeParents`). Editing a file changes the content of what is there, or puts a file where
nothing was (`edit_cases`).

What either comes to at a single place is told by the content there: it `Adds` some bytes if they
come to stand behind the content before, and if a file stays a file.
-/

namespace CommandAgent

/-- Files and directories, which are what they seem. -/
def Node.isPlain : Node → Bool
  | .file .. | .directory => true
  | _ => false

namespace FileSystem

variable {fs fs' fs'' : FileSystem} {cwd : Place} {path : String} {p : Place}

theorem node?_root (fs : FileSystem) : fs.node? [] = some .directory := by
  rw [node?, if_pos rfl]

theorem ne_root_of_node? (h : fs.node? p ≠ some .directory) : p ≠ [] := by
  rintro rfl
  exact h fs.node?_root

theorem node?_set_self {n : Node} (h : fs.node? p ≠ some .directory) :
    (fs.set p n).node? p = some n := by
  rw [node?_set, if_neg (ne_root_of_node? h), if_pos rfl]

theorem node?_set_of_ne {q : Place} (hne : q ≠ p) (n : Node) :
    (fs.set p n).node? q = fs.node? q := by
  rw [node?_set, if_neg hne]
  split
  · next hroot => rw [hroot, node?_root]
  · rfl

/-! ### Directories -/

/-- The second file system has what the first has, and directories besides. -/
def Grows (fs fs' : FileSystem) : Prop :=
  ∀ p, fs'.node? p = fs.node? p ∨ (fs.node? p = none ∧ fs'.node? p = some .directory)

namespace Grows

theorem refl (fs : FileSystem) : Grows fs fs := fun _ => .inl rfl

theorem trans (h : Grows fs fs') (h' : Grows fs' fs'') : Grows fs fs'' := by
  intro p
  rcases h p with hsame | ⟨hfree, hmade⟩
  · rcases h' p with hsame' | ⟨hfree', hmade'⟩
    · exact .inl (hsame'.trans hsame)
    · exact .inr ⟨hsame.symm.trans hfree', hmade'⟩
  · rcases h' p with hsame' | ⟨hfree', -⟩
    · exact .inr ⟨hfree, hsame'.trans hmade⟩
    · rw [hmade] at hfree'
      cases hfree'

/-- Making a directory only adds. -/
theorem of_makeDirectory (h : fs.makeDirectory cwd path = .ok fs') : Grows fs fs' := by
  obtain ⟨place, -, hmade⟩ := Json.bind_eq_ok h
  cases hnode : fs.node? place with
  | some n =>
    rw [hnode] at hmade
    cases hmade
  | none =>
    rw [hnode] at hmade
    cases hmade
    intro p
    by_cases hp : p = place
    · subst hp
      exact .inr ⟨hnode, node?_set_self (by simp [hnode])⟩
    · exact .inl (node?_set_of_ne hp _)

/-- Making a directory with those above it only adds. -/
theorem of_makeDirectoriesFrom {fuel : Nat} (h : makeDirectoriesFrom cwd fuel fs path = .ok fs') :
    Grows fs fs' := by
  -- on the fuel: what is above is made first, and the directory itself after it
  induction fuel generalizing fs fs' path with
  | zero => cases h
  | succ fuel ih =>
    have hkept {e : OsError} {fs : FileSystem}
        (hdirectory : (if fs.isDirectory cwd path then Except.ok fs else .error e) = .ok fs') :
        Grows fs fs' := by
      split at hdirectory
      · cases hdirectory
        exact .refl _
      · cases hdirectory
    unfold makeDirectoriesFrom at h
    split at h
    · cases h
      exact .refl fs
    split at h
    · next made hmade =>
      cases h
      exact of_makeDirectory hmade
    · split at h
      · cases h
      · obtain ⟨above, habove, hrest⟩ := Json.bind_eq_ok h
        refine (ih habove).trans ?_
        split at hrest
        · next made hmade =>
          cases hrest
          exact of_makeDirectory hmade
        · exact hkept hrest
    · exact hkept h

theorem of_makeParents (h : fs.makeParents cwd path = .ok fs') : Grows fs fs' := by
  unfold makeParents at h
  split at h
  · cases h
    exact .refl fs
  · exact of_makeDirectoriesFrom h

end Grows

/-! ### Files -/

/-- Editing changes the content of a file, or puts one where nothing was, or has no effect. -/
theorem edit_cases {f : Bytes → Bytes} (h : fs.edit cwd path f = .ok fs') :
    ∃ place, fs.resolveNew cwd path = .ok place ∧
      ((∃ data x, fs.node? place = some (.file data x) ∧ fs' = fs.set place (.file (f data) x)) ∨
        (fs.node? place = none ∧ fs' = fs.set place (.file (f []) false)) ∨
        (∃ n, fs.node? place = some n ∧ n.isPlain = false ∧ fs' = fs)) := by
  obtain ⟨place, hplace, hedited⟩ := Json.bind_eq_ok h
  refine ⟨place, hplace, ?_⟩
  cases hnode : fs.node? place with
  | none =>
    rw [hnode] at hedited
    cases hedited
    exact .inr (.inl ⟨rfl, rfl⟩)
  | some n =>
    rw [hnode] at hedited
    cases n with
    | file data x =>
      cases hedited
      exact .inl ⟨data, x, rfl, rfl⟩
    | directory => cases hedited
    | _ =>
      cases hedited
      exact .inr (.inr ⟨_, rfl, rfl, rfl⟩)

/-! ### At one place -/

/-- The content of the file at a place, if there is one. -/
def contentAt (fs : FileSystem) (p : Place) : Bytes :=
  match fs.node? p with
  | some (.file data _) => data
  | _ => []

/-- At the place is a file, a directory or nothing. -/
def Plain (fs : FileSystem) (p : Place) : Prop := ∀ n, fs.node? p = some n → n.isPlain = true

/-- At the place is a file. -/
def HasFile (fs : FileSystem) (p : Place) : Prop := ∃ data x, fs.node? p = some (.file data x)

/-- The bytes come to stand behind the content of a place. -/
structure Adds (p : Place) (more : Bytes) (fs fs' : FileSystem) : Prop where
  content : fs'.contentAt p = fs.contentAt p ++ more
  plain : fs.Plain p → fs'.Plain p
  file : fs.HasFile p → fs'.HasFile p

namespace Adds

variable {more more' : Bytes}

theorem of_eq (h : fs'.node? p = fs.node? p) : Adds p [] fs fs' where
  content := by rw [contentAt, contentAt, h, List.append_nil]
  plain hplain n hn := hplain n (h ▸ hn)
  file hfile := by
    obtain ⟨data, x, hn⟩ := hfile
    exact ⟨data, x, h.trans hn⟩

theorem trans (h : Adds p more fs fs') (h' : Adds p more' fs' fs'') :
    Adds p (more ++ more') fs fs'' where
  content := by rw [h'.content, h.content, List.append_assoc]
  plain := h'.plain ∘ h.plain
  file := h'.file ∘ h.file

/-- To grow adds nothing to the content of any place. -/
theorem of_grows (h : Grows fs fs') (p : Place) : Adds p [] fs fs' := by
  rcases h p with hsame | ⟨hfree, hmade⟩
  · exact of_eq hsame
  · refine ⟨?_, fun _ n hn => ?_, fun hfile => ?_⟩
    · rw [contentAt, contentAt, hfree, hmade]
      rfl
    · rw [hmade] at hn
      cases hn
      rfl
    · obtain ⟨data, x, hn⟩ := hfile
      rw [hfree] at hn
      cases hn

/-- A file that is put where one was, or where nothing was. -/
theorem of_set {data : Bytes} {x : Bool} (hbefore : fs.HasFile p ∨ fs.node? p = none)
    (hdata : data = fs.contentAt p ++ more) : Adds p more fs (fs.set p (.file data x)) := by
  have hset : (fs.set p (.file data x)).node? p = some (.file data x) := by
    apply node?_set_self
    rcases hbefore with ⟨before, y, hn⟩ | hn <;> rw [hn] <;> simp
  refine ⟨?_, fun _ n hn => ?_, fun _ => ⟨data, x, hset⟩⟩
  · rw [contentAt, hset, hdata]
  · rw [hset] at hn
    cases hn
    rfl

end Adds

theorem contentAt_of_file {data : Bytes} {x : Bool} (h : fs.node? p = some (.file data x)) :
    fs.contentAt p = data := by
  rw [contentAt, h]

/-- A file that is put somewhere with nothing new adds nothing anywhere. -/
theorem Adds.of_set_same {place : Place} {data : Bytes} {x : Bool}
    (hbefore : fs.HasFile place ∨ fs.node? place = none) (hdata : data = fs.contentAt place)
    (p : Place) : Adds p [] fs (fs.set place (.file data x)) := by
  by_cases hp : p = place
  · subst hp
    exact of_set hbefore (hdata.trans (List.append_nil _).symm)
  · exact of_eq (node?_set_of_ne hp _)

/-- Opening a file at its end adds nothing anywhere, and leaves a file where one can be. -/
theorem append_nil_adds (h : fs.append cwd path [] = .ok fs') :
    (∀ p, Adds p [] fs fs') ∧
      ∀ place, fs.resolveNew cwd path = .ok place → fs.Plain place → fs'.HasFile place := by
  obtain ⟨place, hplace, ⟨data, x, hnode, rfl⟩ | ⟨hnode, rfl⟩ | ⟨n, hnode, hn, rfl⟩⟩ := edit_cases h
  · have hdata : data ++ [] = fs.contentAt place := by
      rw [contentAt_of_file hnode, List.append_nil]
    refine ⟨Adds.of_set_same (.inl ⟨data, x, hnode⟩) hdata, fun place' hplace' _ => ?_⟩
    obtain rfl := Except.ok.inj (hplace.symm.trans hplace')
    exact ⟨_, _, node?_set_self (by simp [hnode])⟩
  · have hdata : [] ++ [] = fs.contentAt place := by
      rw [contentAt, hnode]
      rfl
    refine ⟨Adds.of_set_same (.inr hnode) hdata, fun place' hplace' _ => ?_⟩
    obtain rfl := Except.ok.inj (hplace.symm.trans hplace')
    exact ⟨_, _, node?_set_self (by simp [hnode])⟩
  · refine ⟨fun p => .of_eq rfl, fun place' hplace' hplain => ?_⟩
    obtain rfl := Except.ok.inj (hplace.symm.trans hplace')
    exact absurd (hplain n hnode) (by simp [hn])

end FileSystem
end CommandAgent
