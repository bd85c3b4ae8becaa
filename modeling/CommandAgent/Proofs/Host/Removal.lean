import CommandAgent.Host.World
import CommandAgent.Proofs.Host.Growth

/-!
# What is left of a file system

One file system stands `Within` another if whatever stands in it stands in the other as well, up to
the content of files. A file system stands within what comes of it by making directories and writing
files, and what comes of it by removing something stands within it. A path that leads somewhere in
the one leads to the same place in the other (`Within.resolveSelf`), so what is removed is gone for
every path that led to it (`not_hasEntry_discardFile`), and nothing comes back when something else
is removed after it.

A path whose directory can be walked to leads to what stands under its last name, whatever that is
(`resolveSelf_of_entryAt`); so what has just been written is there (`hasEntry_of_storeFile`).
-/

namespace CommandAgent

namespace FileSystem

variable {fs fs' fs'' : FileSystem} {cwd gone : Place} {path : String}

/-- What stands in the first file system stands in the second as well, up to the content of
files. -/
def Within (fs fs' : FileSystem) : Prop :=
  ∀ p n, fs.node? p = some n → ∃ n', fs'.node? p = some n' ∧ n'.emptied = n.emptied

theorem eq_directory_iff_of_emptied {n n' : Node} (h : n'.emptied = n.emptied) :
    n' = .directory ↔ n = .directory := by
  cases n <;> cases n' <;> simp_all [Node.emptied]

theorem eq_link_iff_of_emptied {n n' : Node} (h : n'.emptied = n.emptied) (target : String) :
    n' = .link target ↔ n = .link target := by
  cases n <;> cases n' <;> simp_all [Node.emptied]

/-- What stands at a place after another has been taken away. -/
theorem node?_drop (fs : FileSystem) (gone p : Place) :
    (fs.drop gone).node? p = if p = [] then some .directory
      else if p = gone then none else fs.node? p := by
  by_cases hroot : p = []
  · rw [node?, if_pos hroot, if_pos hroot]
  rw [node?, node?, if_neg hroot, if_neg hroot, if_neg hroot, drop, List.find?_filter]
  split
  · next hp =>
    rw [Option.map_eq_none_iff, List.find?_eq_none]
    intro e _
    simp [hp]
  · next hp =>
    congr 2
    funext e
    by_cases he : e.1 = p
    · simp [he, hp]
    · simp [he]

namespace Within

theorem refl (fs : FileSystem) : Within fs fs := fun _ n hn => ⟨n, hn, rfl⟩

theorem trans (h : Within fs fs') (h' : Within fs' fs'') : Within fs fs'' := by
  intro p n hn
  obtain ⟨n', hn', heq⟩ := h p n hn
  obtain ⟨n'', hn'', heq'⟩ := h' p n' hn'
  exact ⟨n'', hn'', heq'.trans heq⟩

theorem of_grows (h : Grows fs fs') : Within fs fs' := by
  intro p n hn
  rcases h p with hsame | ⟨hfree, -⟩
  · exact ⟨n, hsame.trans hn, rfl⟩
  · rw [hfree] at hn
    cases hn

theorem of_alike (h : Alike fs fs') : Within fs fs' := by
  intro p n hn
  have hp := h p
  rw [hn, Option.map_some, eq_comm, Option.map_eq_some_iff] at hp
  exact hp

/-- Editing a file takes nothing away. -/
theorem of_edit {f : Bytes → Bytes} (h : fs.edit cwd path f = .ok fs') : Within fs fs' := by
  obtain ⟨place, -, ⟨data, x, hnode, rfl⟩ | ⟨hnode, rfl⟩ | ⟨n, -, -, rfl⟩⟩ := edit_cases h
  · exact of_alike (Alike.of_set hnode (f data))
  · intro p n hn
    have hne : p ≠ place := by
      rintro rfl
      rw [hnode] at hn
      cases hn
    exact ⟨n, (node?_set_of_ne hne _).trans hn, rfl⟩
  · exact refl _

/-- Taking something away adds nothing. -/
theorem drop (fs : FileSystem) (gone : Place) : Within (fs.drop gone) fs := by
  intro p n hn
  rw [node?_drop] at hn
  split at hn
  · next hroot => exact ⟨n, by rw [hroot, node?_root]; exact hn, rfl⟩
  · split at hn
    · cases hn
    · exact ⟨n, hn, rfl⟩

theorem directory (h : Within fs fs') {p : Place} (hp : fs.node? p = some .directory) :
    fs'.node? p = some .directory := by
  obtain ⟨n, hn, heq⟩ := h p _ hp
  rw [hn, (eq_directory_iff_of_emptied heq).mpr rfl]

theorem link (h : Within fs fs') {p : Place} {target : String}
    (hp : fs.node? p = some (.link target)) : fs'.node? p = some (.link target) := by
  obtain ⟨n, hn, heq⟩ := h p _ hp
  rw [hn, (eq_link_iff_of_emptied heq target).mpr rfl]

end Within

/-! ### Walking -/

/-- A name that stands for an entry of its own. -/
def Proper (name : String) : Prop :=
  name ≠ "." ∧ name ≠ ".." ∧ ¬ Text.Utf8.size name > maxName

/-- Names lead from a place to a stage. -/
inductive Leads (fs : FileSystem) (follows : Bool) : Place → List String → Stage → Prop
  | arrived (at_ : Place) : Leads fs follows at_ [] (.arrived at_)
  | here {at_ : Place} {rest : List String} {st : Stage} : fs.node? at_ = some .directory →
      Leads fs follows at_ rest st → Leads fs follows at_ ("." :: rest) st
  | up {at_ : Place} {rest : List String} {st : Stage} : fs.node? at_ = some .directory →
      Leads fs follows at_.dropLast rest st → Leads fs follows at_ (".." :: rest) st
  | into {at_ : Place} {name : String} {rest : List String} {st : Stage} {n : Node} :
      fs.node? at_ = some .directory → Proper name → fs.node? (at_ ++ [name]) = some n →
      (∀ target, n ≠ .link target) → Leads fs follows (at_ ++ [name]) rest st →
      Leads fs follows at_ (name :: rest) st
  | last {at_ : Place} {name target : String} : fs.node? at_ = some .directory → Proper name →
      fs.node? (at_ ++ [name]) = some (.link target) → follows = false →
      Leads fs follows at_ [name] (.arrived (at_ ++ [name]))
  | turned {at_ : Place} {name target : String} {rest : List String} :
      fs.node? at_ = some .directory → Proper name →
      fs.node? (at_ ++ [name]) = some (.link target) → ¬ (rest.isEmpty && !follows) = true →
      Leads fs follows at_ (name :: rest) (.turned at_ target rest)

section
variable {follows : Bool} {at_ : Place} {name target : String} {names rest more : List String}
  {st : Stage}

/-- What is no link is passed through. -/
theorem stage_into {n : Node} (hhere : fs.node? at_ = some .directory) (hproper : Proper name)
    (hn : fs.node? (at_ ++ [name]) = some n) (hlink : ∀ target, n ≠ .link target) :
    fs.stage follows at_ (name :: rest) = fs.stage follows (at_ ++ [name]) rest := by
  obtain ⟨hdot, hup, hsize⟩ := hproper
  rw [stage, hhere]
  dsimp only
  rw [if_neg hdot, if_neg hup, if_neg hsize, hn]
  cases n with
  | link target => exact absurd rfl (hlink target)
  | _ => rfl

/-- At a link the way turns, or it arrives if the link is the last name and is not followed. -/
theorem stage_link (hhere : fs.node? at_ = some .directory) (hproper : Proper name)
    (hn : fs.node? (at_ ++ [name]) = some (.link target)) :
    fs.stage follows at_ (name :: rest) =
      if rest.isEmpty && !follows then .ok (.arrived (at_ ++ [name]))
      else .ok (.turned at_ target rest) := by
  obtain ⟨hdot, hup, hsize⟩ := hproper
  rw [stage, hhere]
  dsimp only
  rw [if_neg hdot, if_neg hup, if_neg hsize, hn]

/-- The stage that is computed for names is one they lead to. -/
theorem Leads.of_stage (h : fs.stage follows at_ names = .ok st) :
    Leads fs follows at_ names st := by
  induction names generalizing at_ with
  | nil =>
    cases h
    exact .arrived at_
  | cons name rest ih =>
    unfold stage at h
    split at h
    · next hhere =>
      split at h
      · next hdot => exact hdot ▸ .here hhere (ih h)
      next hdot =>
      split at h
      · next hup => exact hup ▸ .up hhere (ih h)
      next hup =>
      split at h
      · cases h
      next hsize =>
      split at h
      · next target hlink =>
        split at h
        · next hend =>
          rw [Bool.and_eq_true, List.isEmpty_iff, Bool.not_eq_true'] at hend
          obtain ⟨rfl, hfollows⟩ := hend
          cases h
          exact .last hhere ⟨hdot, hup, hsize⟩ hlink hfollows
        · next hgoes =>
          cases h
          exact .turned hhere ⟨hdot, hup, hsize⟩ hlink hgoes
      · next n hn hlink => exact .into hhere ⟨hdot, hup, hsize⟩ hlink (fun _ => hn _) (ih h)
      · cases h
    · cases h
    · cases h

/-- Names lead to one stage only, the one that is computed. -/
theorem Leads.stage (h : Leads fs follows at_ names st) : fs.stage follows at_ names = .ok st := by
  induction h with
  | arrived at_ => rfl
  | here hhere _ ih | up hhere _ ih =>
    unfold FileSystem.stage
    rw [hhere]
    exact ih
  | into hhere hproper hn hlink _ ih => exact (stage_into hhere hproper hn hlink).trans ih
  | last hhere hproper hn hfollows =>
    rw [stage_link hhere hproper hn, hfollows]
    rfl
  | turned hhere hproper hn hgoes => exact (stage_link hhere hproper hn).trans (if_neg hgoes)

/-- What leads somewhere in one file system leads there in every one that it stands within. -/
theorem Leads.within (hl : Leads fs follows at_ names st) (h : Within fs fs') :
    Leads fs' follows at_ names st := by
  induction hl with
  | arrived at_ => exact .arrived at_
  | here hhere _ ih => exact .here (h.directory hhere) ih
  | up hhere _ ih => exact .up (h.directory hhere) ih
  | into hhere hproper hn hlink _ ih =>
    obtain ⟨n', hn', heq⟩ := h _ _ hn
    have hlink' (target : String) : n' ≠ .link target := by
      rw [Ne, eq_link_iff_of_emptied heq]
      exact hlink target
    exact .into (h.directory hhere) hproper hn' hlink' ih
  | last hhere hproper hn hfollows => exact .last (h.directory hhere) hproper (h.link hn) hfollows
  | turned hhere hproper hn hgoes => exact .turned (h.directory hhere) hproper (h.link hn) hgoes

/-- How far names lead that come behind those of a stage. -/
def Stage.onward (fs : FileSystem) (follows : Bool) (more : List String) :
    Stage → Except OsError Stage
  | .arrived place => fs.stage follows place more
  | .turned directory target rest => .ok (.turned directory target (rest ++ more))

/-- With more names behind it, a link is turned at in any case. -/
theorem Leads.stage_append (h : Leads fs true at_ names st) (hmore : more ≠ []) :
    fs.stage follows at_ (names ++ more) = st.onward fs follows more := by
  induction h with
  | arrived at_ => rfl
  | here hhere _ ih | up hhere _ ih =>
    rw [List.cons_append, ← ih, FileSystem.stage, hhere]
    rfl
  | into hhere hproper hn hlink _ ih => exact (stage_into hhere hproper hn hlink).trans ih
  | last _ _ _ hfollows => cases hfollows
  | @turned at_ name target rest hhere hproper hn _ =>
    have hinner : (rest ++ more).isEmpty = false := by simp [hmore]
    rw [List.cons_append, stage_link hhere hproper hn, hinner]
    rfl

end

section
variable {follows : Bool} {links : Nat} {at_ p : Place} {names more : List String}

/-- A way through the first file system leads to the same place in the second. -/
theorem Within.walkFrom (h : Within fs fs') (hp : fs.walkFrom follows links at_ names = .ok p) :
    fs'.walkFrom follows links at_ names = .ok p := by
  induction links generalizing at_ names with
  | zero =>
    unfold FileSystem.walkFrom at hp ⊢
    cases hst : fs.stage follows at_ names with
    | error e => rw [hst] at hp; cases hp
    | ok st => rw [((Leads.of_stage hst).within h).stage]; rw [hst] at hp; exact hp
  | succ links ih =>
    unfold FileSystem.walkFrom at hp ⊢
    cases hst : fs.stage follows at_ names with
    | error e => rw [hst] at hp; cases hp
    | ok st =>
      rw [((Leads.of_stage hst).within h).stage]
      rw [hst] at hp
      cases st with
      | arrived place => exact hp
      | turned directory target rest => exact ih hp

/-- What a path names in the one file system it names in the other. -/
theorem Within.resolveSelf (h : Within fs fs') (hp : fs.resolveSelf cwd path = .ok p) :
    fs'.resolveSelf cwd path = .ok p := by
  obtain ⟨checked, hcheck, hwalk⟩ := Json.bind_eq_ok hp
  rw [FileSystem.resolveSelf, hcheck]
  exact h.walkFrom hwalk

/-- Names behind a place that can be walked to are followed from there. -/
theorem walkFrom_append (follows : Bool) (hmore : more ≠ [])
    (h : fs.walkFrom true links at_ names = .ok p) :
    ∃ left, fs.walkFrom follows links at_ (names ++ more) = fs.walkFrom follows left p more := by
  induction links generalizing at_ names with
  | zero =>
    refine ⟨0, ?_⟩
    unfold walkFrom at h ⊢
    cases hst : fs.stage true at_ names with
    | error e => rw [hst] at h; cases h
    | ok st =>
      rw [hst] at h
      rw [(Leads.of_stage hst).stage_append hmore]
      cases st with
      | arrived place => cases h; rfl
      | turned directory target rest => cases h
  | succ links ih =>
    cases hst : fs.stage true at_ names with
    | error e => unfold walkFrom at h; rw [hst] at h; cases h
    | ok st =>
      unfold walkFrom at h
      rw [hst] at h
      cases st with
      | arrived place =>
        cases h
        refine ⟨links + 1, ?_⟩
        unfold walkFrom
        rw [(Leads.of_stage hst).stage_append hmore]
        rfl
      | turned directory target rest =>
        obtain ⟨left, hleft⟩ := ih h
        refine ⟨left, ?_⟩
        rw [← hleft, List.append_assoc]
        conv => lhs; unfold walkFrom
        rw [(Leads.of_stage hst).stage_append hmore]
        rfl

/-- A name of its own stands for what is under it, be it a link. -/
theorem walkFrom_last {directory : Place} {last : String} {n : Node}
    (hdirectory : fs.node? directory = some .directory) (hproper : Proper last)
    (hn : fs.node? (directory ++ [last]) = some n) :
    fs.walkFrom false links directory [last] = .ok (directory ++ [last]) := by
  have hst : Leads fs false directory [last] (.arrived (directory ++ [last])) := by
    cases n with
    | link target => exact .last hdirectory hproper hn rfl
    | _ => exact .into hdirectory hproper hn (by simp) (.arrived _)
  unfold walkFrom
  rw [hst.stage]

end

/-! ### The last name of a path -/

/-- The entry of a name of its own is in the directory that the names before it lead to. -/
theorem entryAt_of_name {at_ place : Place} {before : List String} {last : String}
    (hdot : last ≠ ".") (hup : last ≠ "..") (h : fs.entryAt at_ (last :: before) = .ok place) :
    ∃ directory, fs.walk true at_ before.reverse = .ok directory ∧
      fs.node? directory = some .directory ∧ Proper last ∧ place = directory ++ [last] := by
  obtain ⟨directory, hwalk, hrest⟩ := Json.bind_eq_ok h
  dsimp only at hrest
  by_cases hdirectory : fs.node? directory = some .directory
  · rw [if_neg (Decidable.not_not.mpr hdirectory), if_neg hdot, if_neg hup] at hrest
    split at hrest
    · cases hrest
    · next hsize =>
      cases hrest
      exact ⟨directory, hwalk, hdirectory, ⟨hdot, hup, hsize⟩, rfl⟩
  · rw [if_pos hdirectory] at hrest
    cases hrest

/-- A path whose last name is a name of its own, and whose directory could be walked to, leads to
what has come to stand under that name. -/
theorem Within.resolveSelf_of_entryAt {before : List String} {last : String} {place : Place}
    {n : Node} (h : Within fs fs') (hcheck : checkPath path = .ok ())
    (hway : Path.way path = before ++ [last]) (hdot : last ≠ ".") (hup : last ≠ "..")
    (hplace : fs.entryAt (origin cwd path) (before ++ [last]).reverse = .ok place)
    (hn : fs'.node? place = some n) : fs'.resolveSelf cwd path = .ok place := by
  rw [List.reverse_append, List.reverse_singleton, List.singleton_append] at hplace
  obtain ⟨directory, hwalk, hdirectory, hproper, rfl⟩ := entryAt_of_name hdot hup hplace
  rw [List.reverse_reverse] at hwalk
  obtain ⟨left, hleft⟩ := walkFrom_append false (List.cons_ne_nil last []) (h.walkFrom hwalk)
  rw [FileSystem.resolveSelf, hcheck, hway]
  exact hleft.trans (walkFrom_last (h.directory hdirectory) hproper hn)

/-- A path would create a file at its entry, unless a link stands there. -/
theorem exists_entryAt_of_newFileFrom {links : Nat} {place : Place}
    (h : fs.newFileFrom links cwd path = .ok place) :
    ∃ first, fs.entryAt (origin cwd path) (Path.names path).reverse = .ok first ∧
      (place = first ∨ ∃ target, fs.node? first = some (.link target)) := by
  unfold newFileFrom at h
  split at h
  · cases h
  · next first hfirst =>
    refine ⟨first, hfirst, ?_⟩
    split at h
    · cases h
      exact .inl rfl
    · next target hlink => exact .inr ⟨target, hlink⟩
    · split at h
      · cases h
      · cases h
        exact .inl rfl

/-- What has been edited can be found, be it a link to what has been edited. -/
theorem exists_entry_of_edit {f : Bytes → Bytes} {before : List String} {last : String}
    (hnames : Path.names path = before ++ [last]) (hslash : Path.endsInSlash path = false)
    (hdot : last ≠ ".") (hup : last ≠ "..") (h : fs.edit cwd path f = .ok fs') :
    ∃ p n, fs'.resolveSelf cwd path = .ok p ∧ fs'.node? p = some n ∧ n ≠ .directory := by
  have hwithin := Within.of_edit h
  obtain ⟨place, hplace, hcases⟩ := edit_cases h
  obtain ⟨checked, hcheck, hnew⟩ := Json.bind_eq_ok hplace
  obtain ⟨first, hfirst, hlink⟩ := exists_entryAt_of_newFileFrom hnew
  have hway : Path.way path = before ++ [last] := by
    rw [Path.way, hslash, hnames]
    exact List.append_nil _
  rw [hnames] at hfirst
  -- whatever has come to stand at the entry is found there
  have hfound {n : Node} (hn : fs'.node? first = some n) (hne : n ≠ .directory) :
      ∃ p n, fs'.resolveSelf cwd path = .ok p ∧ fs'.node? p = some n ∧ n ≠ .directory :=
    ⟨first, n, hwithin.resolveSelf_of_entryAt hcheck hway hdot hup hfirst hn, hn, hne⟩
  rcases hlink with rfl | ⟨target, hlink⟩
  · rcases hcases with ⟨data, x, hn, rfl⟩ | ⟨hfree, rfl⟩ | ⟨n, hn, hplain, rfl⟩
    · exact hfound (node?_set_self (by simp [hn])) (by simp)
    · exact hfound (node?_set_self (by simp [hfree])) (by simp)
    · refine hfound hn ?_
      rintro rfl
      cases hplain
  · exact hfound (hwithin.link hlink) (by simp)

/-! ### Removing -/

theorem remove_of_resolveSelf {p : Place} (hp : fs.resolveSelf cwd path = .ok p)
    (hnot : fs.node? p ≠ some .directory) : fs.remove cwd path = .ok (fs.drop p) := by
  rw [remove, hp]
  dsimp only [Bind.bind, Except.bind]
  split
  · next hdirectory => exact absurd hdirectory hnot
  · rfl

/-- To remove is to drop one place, which is no directory. -/
theorem exists_of_remove (h : fs.remove cwd path = .ok fs') :
    ∃ p, fs.resolveSelf cwd path = .ok p ∧ fs.node? p ≠ some .directory ∧ fs' = fs.drop p := by
  obtain ⟨p, hp, hrest⟩ := Json.bind_eq_ok h
  refine ⟨p, hp, ?_⟩
  split at hrest
  · cases hrest
  · next hnot =>
    cases hrest
    exact ⟨hnot, rfl⟩

end FileSystem

/-! ### Entries of a world -/

namespace World

variable {w w' : World} {path : String}

/-- The path names something that can be removed, which is anything but a directory. -/
def HasEntry (w : World) (path : String) : Prop :=
  ∃ n, w.files.statSelf w.cwd path = .ok n ∧ n ≠ .directory

/-- An entry at a path is something other than a directory that the path leads to. -/
theorem hasEntry_iff : w.HasEntry path ↔
    ∃ p n, w.files.resolveSelf w.cwd path = .ok p ∧ w.files.node? p = some n ∧
      n ≠ .directory := by
  constructor
  · rintro ⟨n, hstat, hne⟩
    obtain ⟨p, hp, hrest⟩ := Json.bind_eq_ok hstat
    cases hn : w.files.node? p with
    | none =>
      rw [hn] at hrest
      cases hrest
    | some n' =>
      rw [hn] at hrest
      cases hrest
      exact ⟨p, n, hp, hn, hne⟩
  · rintro ⟨p, n, hp, hn, hne⟩
    refine ⟨n, ?_, hne⟩
    rw [FileSystem.statSelf, FileSystem.nodeAt, hp]
    dsimp only [Bind.bind, Except.bind]
    rw [hn]
    rfl

/-- Whatever stands in the first world stands in the second, and paths start from the same place. -/
structure Within (w w' : World) : Prop where
  files : w.files.Within w'.files
  cwd : w'.cwd = w.cwd

namespace Within

theorem refl (w : World) : Within w w := ⟨.refl w.files, rfl⟩

theorem trans {w'' : World} (h : Within w w') (h' : Within w' w'') : Within w w'' :=
  ⟨h.files.trans h'.files, h'.cwd.trans h.cwd⟩

theorem drawIdentifier (w : World) : Within w w.drawIdentifier.2 := ⟨.refl w.files, rfl⟩

theorem of_makeDirectories (h : w.updateFiles (w.files.makeDirectories w.cwd path) = .ok w') :
    Within w w' := by
  obtain ⟨fs, hfs, rfl⟩ := Json.map_eq_ok h
  exact ⟨.of_grows (FileSystem.Grows.of_makeDirectoriesFrom hfs), rfl⟩

theorem of_storeFile {data : Bytes} (h : w.storeFile path data = .ok w') : Within w w' := by
  obtain ⟨fs, hfs, rfl⟩ := Json.map_eq_ok h
  exact ⟨.of_edit hfs, rfl⟩

theorem discardFile (w : World) (path : String) : Within (w.discardFile path) w := by
  unfold World.discardFile
  split
  · next fs hremove =>
    obtain ⟨p, -, -, rfl⟩ := FileSystem.exists_of_remove hremove
    exact ⟨.drop w.files p, rfl⟩
  · exact .refl w

end Within

/-- What a path names is still there in a world that has all that stood in this one. -/
theorem HasEntry.of_within (h : w.HasEntry path) (hw : Within w w') : w'.HasEntry path := by
  obtain ⟨p, n, hp, hn, hne⟩ := hasEntry_iff.mp h
  obtain ⟨n', hn', heq⟩ := hw.files p n hn
  refine hasEntry_iff.mpr ⟨p, n', ?_, hn', ?_⟩
  · rw [hw.cwd]
    exact hw.files.resolveSelf hp
  · exact mt (FileSystem.eq_directory_iff_of_emptied heq).mp hne

/-- What has been removed is gone. -/
theorem not_hasEntry_discardFile (w : World) (path : String) :
    ¬ (w.discardFile path).HasEntry path := by
  intro h
  obtain ⟨p, n, hp, hn, hne⟩ := hasEntry_iff.mp (h.of_within (.discardFile w path))
  have hnot : w.files.node? p ≠ some .directory := by
    rw [hn]
    exact fun heq => hne (Option.some.inj heq)
  have hdiscard : w.discardFile path = { w with files := w.files.drop p } := by
    rw [discardFile, FileSystem.remove_of_resolveSelf hp hnot]
  obtain ⟨p', n', hp', hn', -⟩ := hasEntry_iff.mp h
  rw [hdiscard] at hp' hn'
  -- the path leads to the same place as before, and there is nothing left
  have hsame := (FileSystem.Within.drop w.files p).resolveSelf hp'
  obtain rfl : p = p' := Except.ok.inj (hp.symm.trans hsame)
  have hgone : (w.files.drop p).node? p = none := by
    rw [FileSystem.node?_drop, if_neg (FileSystem.ne_root_of_node? hnot), if_pos rfl]
  rw [hgone] at hn'
  cases hn'

/-- What has been written is there. -/
theorem hasEntry_of_storeFile {data : Bytes} {before : List String} {last : String}
    (hnames : Path.names path = before ++ [last]) (hslash : Path.endsInSlash path = false)
    (hdot : last ≠ ".") (hup : last ≠ "..") (h : w.storeFile path data = .ok w') :
    w'.HasEntry path := by
  obtain ⟨fs, hfs, rfl⟩ := Json.map_eq_ok h
  exact hasEntry_iff.mpr (FileSystem.exists_entry_of_edit hnames hslash hdot hup hfs)

end World
end CommandAgent
