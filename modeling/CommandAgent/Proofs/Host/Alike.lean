import CommandAgent.Host.FileSystem

/-!
# What a path leads to does not depend on the content of files

Two file systems are `Alike` if the same places hold the same nodes, up to the content of regular
files. Directories and links are then the same, so every walk ends at the same place or in the same
error, and what stands there is of the same kind (`Alike.resolve`, `Alike.stat`).

Writing into a file keeps a file system alike (`Alike.of_set`).
-/

namespace CommandAgent

/-- The node without its content. -/
def Node.emptied : Node → Node
  | .file _ x => .file [] x
  | n => n

@[simp] theorem Node.isFile_emptied (n : Node) : n.emptied.isFile = n.isFile := by
  cases n <;> rfl

namespace FileSystem

/-- File systems that differ in nothing but the content of regular files. -/
def Alike (fs fs' : FileSystem) : Prop :=
  ∀ p, (fs.node? p).map Node.emptied = (fs'.node? p).map Node.emptied

/-- What stands at a place after a node has been put somewhere. -/
theorem node?_set (fs : FileSystem) (p q : Place) (n : Node) :
    (fs.set p n).node? q =
      if q = [] then some .directory else if q = p then some n else fs.node? q := by
  by_cases hroot : q = []
  · rw [node?, if_pos hroot, if_pos hroot]
  rw [node?, node?, if_neg hroot, if_neg hroot, if_neg hroot, set]
  split
  · next hany =>
    have hkeys : (fun e : Place × Node => decide (e.1 = q)) ∘
        (fun e => if e.1 = p then (p, n) else e) = fun e => decide (e.1 = q) := by
      funext e
      simp only [Function.comp_apply]
      split
      · next he => rw [he]
      · rfl
    rw [List.find?_map, hkeys]
    cases hfound : fs.nodes.find? (fun e => decide (e.1 = q)) with
    | none =>
      rw [List.any_eq_true] at hany
      obtain ⟨e, he, hp⟩ := hany
      have hother := List.find?_eq_none.mp hfound e he
      rw [if_neg]
      · rfl
      · rintro rfl
        exact hother hp
    | some e =>
      have he : e.1 = q := by simpa using List.find?_some hfound
      by_cases hq : q = p
      · simp [he, hq]
      · simp [he, hq]
  · next hnone =>
    simp only [List.any_eq_true, decide_eq_true_eq, not_exists, not_and] at hnone
    rw [List.find?_append]
    by_cases hq : q = p
    · subst hq
      have hfree : fs.nodes.find? (fun e => decide (e.1 = q)) = none := by
        rw [List.find?_eq_none]
        intro e he
        simpa using hnone e he
      simp [hfree]
    · simp [hq, Ne.symm hq]

namespace Alike

variable {fs fs' : FileSystem}

theorem refl (fs : FileSystem) : Alike fs fs := fun _ => rfl

theorem symm (h : Alike fs fs') : Alike fs' fs := fun p => (h p).symm

theorem trans {fs'' : FileSystem} (h : Alike fs fs') (h' : Alike fs' fs'') : Alike fs fs'' :=
  fun p => (h p).trans (h' p)

/-- At each place stands the same node, or a file on both sides. -/
theorem node? (h : Alike fs fs') (p : Place) :
    fs.node? p = fs'.node? p ∨
      ∃ data data' x, fs.node? p = some (.file data x) ∧ fs'.node? p = some (.file data' x) := by
  have hp := h p
  cases hn : fs.node? p with
  | none =>
    rw [hn, Option.map_none, eq_comm, Option.map_eq_none_iff] at hp
    exact .inl hp.symm
  | some n =>
    rw [hn, Option.map_some, eq_comm, Option.map_eq_some_iff] at hp
    obtain ⟨n', hn', heq⟩ := hp
    rw [hn']
    cases n <;> cases n' <;> simp_all [Node.emptied]

/-- Writing into a file keeps everything else. -/
theorem of_set {p : Place} {data : Bytes} {x : Bool} (hfile : fs.node? p = some (.file data x))
    (data' : Bytes) : Alike fs (fs.set p (.file data' x)) := by
  intro q
  rw [node?_set]
  split
  · next hq => rw [hq]; rfl
  split
  · next hq => rw [hq, hfile]; rfl
  · rfl

/-! ### Walking -/

/-- File systems that are alike up to contents lead names to the same stage. -/
theorem stage (h : Alike fs fs') (follows : Bool) (at_ : Place) (names : List String) :
    fs.stage follows at_ names = fs'.stage follows at_ names := by
  induction names generalizing at_ with
  | nil => rfl
  | cons name rest ih =>
    simp only [FileSystem.stage]
    rcases h.node? at_ with hhere | ⟨data, data', x, hhere, hhere'⟩
    · rcases h.node? (at_ ++ [name]) with hnext | ⟨data, data', x, hnext, hnext'⟩
      · simp only [hhere, hnext, ih]
      · simp only [hhere, hnext, hnext', ih]
    · simp only [hhere, hhere']

theorem walkFrom (h : Alike fs fs') (follows : Bool) (links : Nat) (at_ : Place)
    (names : List String) :
    fs.walkFrom follows links at_ names = fs'.walkFrom follows links at_ names := by
  induction links generalizing at_ names with
  | zero => unfold FileSystem.walkFrom; rw [h.stage]
  | succ links ih => unfold FileSystem.walkFrom; simp only [h.stage, ih]

theorem resolve (h : Alike fs fs') (cwd : Place) (path : String) :
    fs.resolve cwd path = fs'.resolve cwd path := by
  simp only [FileSystem.resolve, walk, h.walkFrom]

/-- What a path leads to is the same, but for the content. -/
theorem stat (h : Alike fs fs') (cwd : Place) (path : String) :
    (fs.stat cwd path).map Node.emptied = (fs'.stat cwd path).map Node.emptied := by
  simp only [FileSystem.stat, nodeAt, h.resolve]
  cases hplace : fs'.resolve cwd path with
  | error e => rfl
  | ok place =>
    rcases h.node? place with heq | ⟨data, data', x, hn, hn'⟩
    · simp only [Bind.bind, Except.bind, heq]
    · simp only [Bind.bind, Except.bind, hn, hn']
      rfl

end Alike
end FileSystem
end CommandAgent
