import CommandAgent.Host.Path

/-!
# The steps of a path, joined and split

Up to repeated slashes and the segments `.`, a path is a root or none and a list of steps. Two paths
that agree in both are `Alike`. A slash separates the names on either side of it (`names_slash`), so
putting a relative path under another puts its steps behind (`steps_join`) and leaves the root as it
is (`isAbsolute_join_eq`).
-/

namespace CommandAgent.Path

variable {p q : String}

/-- Two paths that are the same up to repeated slashes and segments `.`. -/
def Alike (p q : String) : Prop := isAbsolute p = isAbsolute q ∧ steps p = steps q

instance : Decidable (Alike p q) := inferInstanceAs (Decidable (_ ∧ _))

/-! ### The root -/

theorem isAbsolute_iff : isAbsolute p ↔ p.toList.head? = some '/' := beq_iff_eq

theorem isAbsolute_ofList (cs : List Char) :
    isAbsolute (String.ofList cs) = (cs.head? == some '/') := by
  rw [isAbsolute, String.toList_ofList]

theorem isAbsolute_ofList_eq_false_iff {cs : List Char} :
    isAbsolute (String.ofList cs) = false ↔ ∀ more, cs ≠ '/' :: more := by
  rw [isAbsolute_ofList, beq_eq_false_iff_ne]
  constructor
  · rintro h more rfl
    exact h rfl
  · intro h hhead
    obtain ⟨more, hmore⟩ := List.head?_eq_some_iff.mp hhead
    exact h more hmore

/-- What is put behind a path that is not empty does not change its root. -/
theorem isAbsolute_append (hp : p ≠ "") (q : String) : isAbsolute (p ++ q) = isAbsolute p := by
  have hlist : p.toList ≠ [] := by
    intro h
    exact hp (String.toList_eq_nil_iff.mp h)
  obtain ⟨c, cs, hcs⟩ := List.exists_cons_of_ne_nil hlist
  rw [isAbsolute, isAbsolute, String.toList_append, hcs]
  rfl

/-- A joined path is absolute exactly if one of its two parts is. -/
theorem isAbsolute_join_eq (p q : String) :
    isAbsolute (join p q) = (isAbsolute q || isAbsolute p) := by
  cases hq : isAbsolute q with
  | true => rw [join, if_pos hq, hq, Bool.true_or]
  | false =>
    rw [Bool.false_or, join, if_neg (by simp [hq])]
    split
    · next hempty =>
      rw [hq, String.isEmpty_iff.mp hempty]
      rfl
    · next hempty =>
      have hp : p ≠ "" := by
        intro h
        exact hempty (String.isEmpty_iff.mpr h)
      split
      · exact isAbsolute_append hp q
      · rw [String.append_assoc]
        exact isAbsolute_append hp _

theorem isAbsolute_join (h : isAbsolute p) (q : String) : isAbsolute (join p q) := by
  rw [isAbsolute_join_eq, h, Bool.or_true]

/-- An absolute path stands for itself. -/
theorem join_of_isAbsolute (h : isAbsolute q) (p : String) : join p q = q := if_pos h

/-! ### The steps -/

theorem segments_slash (before behind : List Char) :
    segments (before ++ '/' :: behind) = segments before ++ segments behind :=
  List.splitOn_append_cons_self ..

/-- A slash separates the names before it from those behind it. -/
theorem names_slash (p q : String) : names (p ++ "/" ++ q) = names p ++ names q := by
  have hlist : (p ++ "/" ++ q).toList = p.toList ++ '/' :: q.toList := by
    simp
  rw [names, hlist, segments_slash, List.filter_append, List.map_append]
  rfl

theorem steps_slash (p q : String) : steps (p ++ "/" ++ q) = steps p ++ steps q := by
  rw [steps, names_slash, List.filter_append]
  rfl

theorem steps_ofList_slash (before behind : List Char) :
    steps (String.ofList (before ++ '/' :: behind)) =
      steps (String.ofList before) ++ steps (String.ofList behind) := by
  rw [← steps_slash]
  congr 1
  rw [← String.toList_inj]
  simp

/-- A slash at the end names nothing. -/
theorem names_trailing (p : String) : names (p ++ "/") = names p := by
  have h := names_slash p ""
  rw [String.append_empty] at h
  rw [h]
  exact List.append_nil _

/-- Putting a relative path under another puts its names behind. -/
theorem names_join (p : String) (hq : isAbsolute q = false) :
    names (join p q) = names p ++ names q := by
  rw [join, if_neg (by simp [hq])]
  split
  · next hempty =>
    rw [String.isEmpty_iff.mp hempty]
    rfl
  split
  · next hslash =>
    obtain ⟨front, hfront⟩ := List.getLast?_eq_some_iff.mp (beq_iff_eq.mp hslash)
    have hp : p = String.ofList front ++ "/" := by
      rw [← String.toList_inj, hfront]
      simp
    rw [hp, names_slash, names_trailing]
  · exact names_slash p q

theorem steps_join (p : String) (hq : isAbsolute q = false) :
    steps (join p q) = steps p ++ steps q := by
  rw [steps, names_join p hq, List.filter_append]
  rfl

/-- A text without a slash is a name. -/
theorem names_of_notMem (hne : p ≠ "") (hslash : '/' ∉ p.toList) : names p = [p] := by
  have hlist : p.toList ≠ [] := mt String.toList_eq_nil_iff.mp hne
  rw [names, segments, List.splitOn_eq_singleton hslash]
  simp [hlist]

/-- A path that is put under another ends as it did. -/
theorem endsInSlash_join (p : String) (hq : q ≠ "") : endsInSlash (join p q) = endsInSlash q := by
  have hlist : q.toList ≠ [] := mt String.toList_eq_nil_iff.mp hq
  have hend (r : String) : endsInSlash (r ++ q) = endsInSlash q := by
    rw [endsInSlash, endsInSlash, String.toList_append, List.getLast?_append,
      List.getLast?_eq_some_getLast hlist]
    rfl
  rw [join]
  split
  · rfl
  split
  · rfl
  split
  · exact hend p
  · exact hend (p ++ "/")

/-- Two relative paths under two others lead to the same place if their steps all in all do. -/
theorem alike_join {p' q' : String} (hroot : isAbsolute p = isAbsolute p')
    (hq : isAbsolute q = false) (hq' : isAbsolute q' = false)
    (hsteps : steps p ++ steps q = steps p' ++ steps q') : Alike (join p q) (join p' q') := by
  constructor
  · rw [isAbsolute_join_eq, isAbsolute_join_eq, hq, hq', hroot]
  · rw [steps_join p hq, steps_join p' hq', hsteps]

end CommandAgent.Path
