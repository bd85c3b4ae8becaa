import CommandAgent.Log.Logger
import CommandAgent.Proofs.Host.Alike

/-!
# What a log line changes

A line is counted and written out (`log_eq`). It leaves the surroundings of the run as they are, and
of the file system it changes at most the content of the file it is written to.
-/

namespace CommandAgent.Logger

def counted (level : Level) (w : World) : World :=
  { w with journal := { w.journal with counts := w.journal.counts.bump level } }

theorem log_eq (l : Logger) (e : Entry) (w : World) :
    l.log e w = if l.level.allows e.level then emit (counted e.level w) (l.line w.stamp e) else w :=
  rfl

/-! ### What stays -/

section
variable (w : World) (text : String)

@[simp] theorem cwd_emit : (emit w text).cwd = w.cwd := by
  unfold emit
  split <;> rfl

@[simp] theorem env_emit : (emit w text).env = w.env := by
  unfold emit
  split <;> rfl

end

section
variable (l : Logger) (e : Entry) (w : World)

@[simp] theorem cwd_log : (l.log e w).cwd = w.cwd := by
  rw [log_eq]
  split
  · exact cwd_emit _ _
  · rfl

@[simp] theorem env_log : (l.log e w).env = w.env := by
  rw [log_eq]
  split
  · exact env_emit _ _
  · rfl

end

/-! ### Files -/

/-- A line changes at most the content of a file. -/
theorem alike_emit (w : World) (text : String) : w.files.Alike (emit w text).files := by
  unfold emit
  split
  · exact .refl _
  · next place hsink =>
    cases hn : w.files.node? place with
    | none => exact .refl _
    | some n =>
      cases n with
      | file data x => exact .of_set hn _
      | _ => exact .refl _

theorem alike_log (l : Logger) (e : Entry) (w : World) : w.files.Alike (l.log e w).files := by
  rw [log_eq]
  split
  · exact alike_emit (counted e.level w) _
  · exact .refl _

/-- A line leaves every place alone but the one it is written to. -/
theorem node?_emit {w : World} {place : Place} (h : w.journal.sink ≠ some place) (text : String) :
    (emit w text).files.node? place = w.files.node? place := by
  unfold emit
  split
  · rfl
  · next sink hsink =>
    have hne : place ≠ sink := by
      rintro rfl
      exact h hsink
    cases hn : w.files.node? sink with
    | none => rfl
    | some n =>
      cases n with
      | file data x =>
        simp only [FileSystem.node?_set, if_neg hne]
        split
        · next hroot => rw [hroot, FileSystem.node?, if_pos rfl]
        · rfl
      | _ => rfl

theorem node?_log (l : Logger) (e : Entry) {w : World} {place : Place}
    (h : w.journal.sink ≠ some place) : (l.log e w).files.node? place = w.files.node? place := by
  rw [log_eq]
  split
  · exact node?_emit (w := counted e.level w) h _
  · rfl

end CommandAgent.Logger
