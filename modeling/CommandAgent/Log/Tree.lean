import CommandAgent.Log.Logger
import CommandAgent.Log.Stamp

/-!
# Trees of loggers

The loggers of a tree are numbered in the order in which they came to be; the root is the first. A
call goes to one of them, at some moment. What it changes of the loggers concerns that logger alone,
or adds a child of it; the journal, which is in the world, is the same for all.
-/

namespace CommandAgent

/-- A moment, as time since the beginning of 1970. -/
structure Moment where
  seconds : Nat
  nanoseconds : Nat
deriving DecidableEq, Repr

def World.atMoment (m : Moment) (w : World) : World :=
  { w with stamp := Stamp.text m.seconds m.nanoseconds, seconds := m.seconds }

section
variable (m : Moment) (w : World)

@[simp] theorem World.journal_atMoment : (w.atMoment m).journal = w.journal := by
  unfold atMoment
  rfl

@[simp] theorem World.files_atMoment : (w.atMoment m).files = w.files := by
  unfold atMoment
  rfl

@[simp] theorem World.stamp_atMoment :
    (w.atMoment m).stamp = Stamp.text m.seconds m.nanoseconds := by
  unfold atMoment
  rfl

end

structure LoggerTree where
  loggers : List Logger
  world : World

namespace LoggerTree

inductive Call where
  | child (suffix : String)
  | setLevel (level : Level)
  | attach (path : String) (echo : Bool)
  | log (e : Entry)

/-- What a call came to. -/
inductive Turn where
  | grown
  | levelled
  /-- The place of the file, or why it could not be attached. -/
  | attached (r : Except OsError Place)
  /-- The logger as it was, the time stamp, and what it was to log. -/
  | logged (l : Logger) (stamp : String) (e : Entry)
  /-- There is no logger of that number. -/
  | missed

def root (l : Logger) (w : World) : LoggerTree := ⟨[l], { w with journal := {} }⟩

def answer (t : LoggerTree) (i : Nat) (l : Logger) : Call → Turn × LoggerTree
  | .child suffix => (.grown, { t with loggers := t.loggers ++ [l.child suffix] })
  | .setLevel level => (.levelled, { t with loggers := t.loggers.set i (l.setLevel level) })
  | .attach path echo =>
    let (r, w) := Logger.redirect path echo t.world
    (.attached r, { t with world := w })
  | .log e => (.logged l t.world.stamp e, { t with world := l.log e t.world })

def atMoment (t : LoggerTree) (m : Moment) : LoggerTree :=
  { t with world := t.world.atMoment m }

@[simp] theorem world_atMoment (t : LoggerTree) (m : Moment) :
    (t.atMoment m).world = t.world.atMoment m := by
  unfold atMoment
  rfl

@[simp] theorem loggers_atMoment (t : LoggerTree) (m : Moment) :
    (t.atMoment m).loggers = t.loggers := by
  unfold atMoment
  rfl

def call (t : LoggerTree) (m : Moment) (i : Nat) (c : Call) : Turn × LoggerTree :=
  match t.loggers[i]? with
  | some l => (t.atMoment m).answer i l c
  | none => (.missed, t.atMoment m)

/-- Calls, each with its moment and the number of a logger. -/
abbrev Script := List (Moment × Nat × Call)

def run : Script → LoggerTree → List Turn × LoggerTree
  | [], t => ([], t)
  | (m, i, c) :: rest, t =>
    let (turn, t) := t.call m i c
    let (turns, t) := run rest t
    (turn :: turns, t)

end LoggerTree
end CommandAgent
