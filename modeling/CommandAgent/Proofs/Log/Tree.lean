import CommandAgent.Log.Tree
import CommandAgent.Proofs.Host.Growth
import CommandAgent.Proofs.Log.Journal
import CommandAgent.Proofs.Log.Lines

/-!
# One journal for a tree

Whatever is asked of the loggers of a tree, and of whichever of them, the journal counts the lines
that were allowed and the files hold them (`LoggerTree.journal_of_tree`): the loggers' own levels
and contexts only decide which lines those are and what they look like.

What one turn does to the world is told by the turn alone (`Turn.Leads`): whether it counts, where
lines go from then on, and what it writes. A run is followed from there. The turns in turn are told
by the calls: a line is logged exactly where a logger of the tree is asked to (`turn_logged_iff`).
-/

namespace CommandAgent

open FileSystem (Adds)

/-! ### Attaching and logging -/

namespace Logger

/-- If lines go to the place, there is a file; and nothing there swallows what is written. -/
structure Ready (place : Place) (w : World) : Prop where
  plain : w.files.Plain place
  file : w.journal.sink = some place → w.files.HasFile place

variable {place : Place} {w : World}

/-- Opening a log file adds nothing to any content, and makes the file if nothing stands in its
way. -/
theorem openSink_adds {fs fs' : FileSystem} {cwd : Place} {path : String} {sink : Place}
    (h : openSink fs cwd path = .ok (sink, fs')) :
    (∀ p, Adds p [] fs fs') ∧ (fs.Plain sink → fs'.HasFile sink) := by
  obtain ⟨place, hplace, hrest⟩ := Json.bind_eq_ok h
  obtain ⟨files, hfiles, hopened⟩ := Json.bind_eq_ok hrest
  cases hopened
  obtain ⟨hadds, hfile⟩ := FileSystem.append_nil_adds hfiles
  exact ⟨hadds, hfile sink hplace⟩

/-- Attaching fails, or it changes where lines go; it counts nothing and writes nothing. -/
theorem redirect_cases (path : String) (echo : Bool) (w : World) :
    (∃ e files, redirect path echo w = (.error e, { w with files := files }) ∧
        ∀ p, Adds p [] w.files files) ∨
      ∃ sink files, redirect path echo w = (.ok sink, { w with
          files := files, journal := { w.journal with sink := some sink, echo := echo } }) ∧
        (∀ p, Adds p [] w.files files) ∧ (w.files.Plain sink → files.HasFile sink) := by
  unfold redirect
  cases habove : w.files.makeParents w.cwd path with
  | error e => exact .inl ⟨e, w.files, rfl, fun p => .of_eq rfl⟩
  | ok above =>
    have hgrown := FileSystem.Grows.of_makeParents habove
    dsimp only
    cases hsink : openSink above w.cwd path with
    | error e => exact .inl ⟨e, above, rfl, Adds.of_grows hgrown⟩
    | ok opened =>
      obtain ⟨sink, files⟩ := opened
      obtain ⟨hadds, hopened⟩ := openSink_adds hsink
      refine .inr ⟨sink, files, rfl, fun p => (Adds.of_grows hgrown p).trans (hadds p), ?_⟩
      intro hplain
      exact hopened ((Adds.of_grows hgrown sink).plain hplain)

/-- A file that cannot be attached leaves the journal as it was. -/
theorem journal_redirect {path : String} {echo : Bool} {e : OsError}
    (h : (redirect path echo w).1 = .error e) :
    (redirect path echo w).2.journal = w.journal := by
  rcases redirect_cases path echo w with ⟨e', files, hredirect, -⟩ | ⟨sink, files, hredirect, -⟩
  · rw [hredirect]
  · rw [hredirect] at h
    cases h

@[simp] theorem journal_emit (w : World) (text : String) : (emit w text).journal = w.journal := by
  unfold emit
  split <;> rfl

/-- A line is written to the file that lines go to. -/
theorem emit_adds (text : String) (h : Ready place w) :
    Adds place (if w.journal.sink = some place then record text else []) w.files
      (emit w text).files := by
  by_cases hsink : w.journal.sink = some place
  · obtain ⟨data, x, hnode⟩ := h.file hsink
    rw [if_pos hsink]
    simp only [emit, hsink, hnode]
    refine .of_set (.inl ⟨data, x, hnode⟩) ?_
    rw [FileSystem.contentAt_of_file hnode]
  · rw [if_neg hsink]
    exact .of_eq (node?_emit hsink text)

end Logger

namespace LoggerTree

/-! ### Turns -/

namespace Turn

/-- Whether a line of a level was allowed. -/
def counts (level : Level) : Turn → Bool
  | logged l _ e => l.level.allows e.level && decide (e.level = level)
  | _ => false

/-- Where lines go behind the turn. -/
def sink (before : Option Place) : Turn → Option Place
  | attached (.ok place) => some place
  | _ => before

def line? (place : Place) (sink : Option Place) : Turn → Option String
  | logged l stamp e =>
    if sink = some place ∧ l.level.allows e.level = true then some (l.line stamp e) else none
  | _ => none

/-- What a turn does to the world. -/
structure Leads (turn : Turn) (w w' : World) : Prop where
  counts : ∀ level, w'.journal.counts.get level =
    w.journal.counts.get level + if turn.counts level then 1 else 0
  sink : w'.journal.sink = turn.sink w.journal.sink
  file : ∀ place, Logger.Ready place w → Logger.Ready place w' ∧
    w'.files.contentAt place = w.files.contentAt place ++
      (turn.line? place w.journal.sink).toList.flatMap Logger.record

variable {w : World}

/-- The moment is in neither the journal nor the files. -/
theorem Leads.of_moment {turn : Turn} {m : Moment} {w' : World}
    (h : Leads turn (w.atMoment m) w') : Leads turn w w' where
  counts := by simpa only [World.journal_atMoment] using h.counts
  sink := by simpa only [World.journal_atMoment] using h.sink
  file place hready := by
    have hmoment : Logger.Ready place (w.atMoment m) := by
      constructor
      · rw [World.files_atMoment]
        exact hready.plain
      · rw [World.journal_atMoment, World.files_atMoment]
        exact hready.file
    simpa only [World.journal_atMoment, World.files_atMoment] using h.file place hmoment

/-- The turns that leave journal and files alone. -/
theorem Leads.of_quiet {turn : Turn} {w' : World} (hjournal : w'.journal = w.journal)
    (hfiles : w'.files = w.files) (hcounts : ∀ level, turn.counts level = false)
    (hsink : turn.sink w.journal.sink = w.journal.sink)
    (hline : ∀ place, turn.line? place w.journal.sink = none) : Leads turn w w' where
  counts level := by
    rw [hjournal, hcounts]
    rfl
  sink := by rw [hjournal, hsink]
  file place h := by
    rw [hline, hfiles]
    exact ⟨⟨hfiles ▸ h.plain, fun hplace => hfiles ▸ h.file (hjournal ▸ hplace)⟩, by simp⟩

/-- An attempt to attach a file does to the world what its turn says. -/
theorem leads_attached (path : String) (echo : Bool) (w : World) :
    Leads (.attached (Logger.redirect path echo w).1) w (Logger.redirect path echo w).2 := by
  rcases Logger.redirect_cases path echo w with
    ⟨e, files, hfailed, hadds⟩ | ⟨sink, files, hattached, hadds, hopened⟩
  · rw [hfailed]
    refine ⟨fun _ => rfl, rfl, fun place h => ⟨⟨(hadds place).plain h.plain, ?_⟩, ?_⟩⟩
    · intro hsink
      exact (hadds place).file (h.file hsink)
    · exact (hadds place).content
  · rw [hattached]
    refine ⟨fun _ => rfl, rfl, fun place h => ⟨⟨(hadds place).plain h.plain, ?_⟩, ?_⟩⟩
    · intro hsink
      obtain rfl := Option.some.inj hsink
      exact hopened h.plain
    · exact (hadds place).content

/-- Logging an entry does to the world what its turn says. -/
theorem leads_logged (l : Logger) (e : Entry) (w : World) :
    Leads (.logged l w.stamp e) w (l.log e w) := by
  rw [Logger.log_eq]
  cases hallowed : l.level.allows e.level with
  | false =>
    refine .of_quiet rfl rfl (fun level => ?_) rfl (fun place => ?_)
    · simp [counts, hallowed]
    · simp [line?, hallowed]
  | true =>
    rw [if_pos rfl]
    refine ⟨fun level => ?_, ?_, fun place h => ?_⟩
    · rw [Logger.journal_emit]
      simp [Logger.counted, Counts.get_bump, counts, hallowed]
    · rw [Logger.journal_emit]
      rfl
    · have hcounted : Logger.Ready place (Logger.counted e.level w) := ⟨h.plain, h.file⟩
      have hadds := Logger.emit_adds (l.line w.stamp e) hcounted
      refine ⟨⟨hadds.plain h.plain, fun hsink => ?_⟩, ?_⟩
      · rw [Logger.journal_emit] at hsink
        exact hadds.file (h.file hsink)
      · rw [hadds.content]
        by_cases hsink : w.journal.sink = some place
        · simp [Logger.counted, line?, hallowed, hsink]
        · simp [Logger.counted, line?, hsink]

end Turn

/-! ### Calls -/

section
variable (t : LoggerTree) (m : Moment) (i : Nat) (l : Logger) (c : Call)

theorem leads_answer : (t.answer i l c).1.Leads t.world (t.answer i l c).2.world := by
  cases c with
  | child | setLevel =>
    exact .of_quiet rfl rfl (fun _ => rfl) rfl (fun _ => rfl)
  | attach path echo => exact Turn.leads_attached path echo t.world
  | log e => exact Turn.leads_logged l e t.world

variable {t i l} in
theorem call_of_some (h : t.loggers[i]? = some l) : t.call m i c = (t.atMoment m).answer i l c := by
  unfold call
  rw [h]

variable {t i} in
theorem call_of_none (h : t.loggers[i]? = none) : t.call m i c = (.missed, t.atMoment m) := by
  unfold call
  rw [h]

/-- Each call does to the world what its turn says. -/
theorem leads_call : (t.call m i c).1.Leads t.world (t.call m i c).2.world := by
  cases hlogger : t.loggers[i]? with
  | none =>
    rw [call_of_none m c hlogger]
    exact .of_quiet (World.journal_atMoment m t.world) (World.files_atMoment m t.world)
      (fun _ => rfl) rfl (fun _ => rfl)
  | some l =>
    rw [call_of_some m c hlogger]
    exact (leads_answer (t.atMoment m) i l c).of_moment

variable {t m i c} in
/-- A call comes to a line being logged exactly if it asks a logger of the tree to log it; the line
has the stamp of its moment. -/
theorem call_logged_iff {k : Logger} {stamp : String} {e : Entry} :
    (t.call m i c).1 = .logged k stamp e ↔
      c = .log e ∧ t.loggers[i]? = some k ∧ stamp = Stamp.text m.seconds m.nanoseconds := by
  cases hlogger : t.loggers[i]? with
  | none =>
    rw [call_of_none m c hlogger]
    simp
  | some l =>
    rw [call_of_some m c hlogger]
    cases c with
    | log e' =>
      simp only [answer, Turn.logged.injEq, Call.log.injEq, Option.some.injEq, world_atMoment,
        World.stamp_atMoment]
      constructor
      · rintro ⟨rfl, rfl, rfl⟩
        exact ⟨rfl, rfl, rfl⟩
      · rintro ⟨rfl, rfl, rfl⟩
        exact ⟨rfl, rfl, rfl⟩
    | child | setLevel | attach => simp [answer]

variable {t i l}

/-- A child has the level of its parent, and the context of its parent with a suffix to it. -/
theorem loggers_child (h : t.loggers[i]? = some l) (suffix : String) :
    (t.call m i (.child suffix)).2.loggers =
      t.loggers ++ [⟨if suffix = "" then l.context else l.context ++ ":" ++ suffix, l.level⟩] := by
  simp only [call_of_some m _ h, answer, loggers_atMoment, Logger.child, String.isEmpty_iff]
  split <;> rfl

/-- A level is set for one logger, and for no other. -/
theorem loggers_setLevel (h : t.loggers[i]? = some l) (level : Level) :
    (t.call m i (.setLevel level)).2.loggers = t.loggers.set i ⟨l.context, level⟩ := by
  simp only [call_of_some m _ h, answer, loggers_atMoment, Logger.setLevel]

/-- A file that cannot be attached changes nothing but the time and the directories above it. -/
theorem attach_failed (h : t.loggers[i]? = some l) {path : String} {echo : Bool} {e : OsError}
    (hfailed : (t.call m i (.attach path echo)).1 = .attached (.error e)) :
    (t.call m i (.attach path echo)).2.loggers = t.loggers ∧
      (t.call m i (.attach path echo)).2.world.journal = t.world.journal := by
  rw [call_of_some m _ h] at hfailed ⊢
  simp only [answer, Turn.attached.injEq, loggers_atMoment, world_atMoment] at hfailed ⊢
  exact ⟨trivial, (Logger.journal_redirect hfailed).trans (World.journal_atMoment m t.world)⟩

end

/-! ### Runs -/

/-- The lines that turns write to a place, in their order. -/
def lines (place : Place) : Option Place → List Turn → List String
  | _, [] => []
  | sink, turn :: rest => (turn.line? place sink).toList ++ lines place (turn.sink sink) rest

/-- A counter goes up by the turns of a run that count for its level. -/
theorem counts_run (level : Level) (script : Script) (t : LoggerTree) :
    (run script t).2.world.journal.counts.get level =
      t.world.journal.counts.get level + (run script t).1.countP (·.counts level) := by
  induction script generalizing t with
  | nil => rfl
  | cons entry rest ih =>
    obtain ⟨m, i, c⟩ := entry
    have hturn := (leads_call t m i c).counts level
    simp only [run, List.countP_cons]
    rw [ih, hturn, Nat.add_assoc, Nat.add_comm (List.countP _ _)]

/-- A run writes its lines to the end of a log file, in their order. -/
theorem contentAt_run {place : Place} (script : Script) {t : LoggerTree}
    (h : Logger.Ready place t.world) :
    (run script t).2.world.files.contentAt place =
      t.world.files.contentAt place ++
        (lines place t.world.journal.sink (run script t).1).flatMap Logger.record := by
  -- on the script; the place stays ready for what comes
  induction script generalizing t with
  | nil => simp [run, lines]
  | cons entry rest ih =>
    obtain ⟨m, i, c⟩ := entry
    have hturn := leads_call t m i c
    obtain ⟨hready, hcontent⟩ := hturn.file place h
    simp only [run, lines, List.flatMap_append]
    rw [ih hready, hcontent, hturn.sink, List.append_assoc]

/-- Each turn is what its call comes to, behind the calls before it. -/
theorem turn_run (script : Script) (t : LoggerTree) (j : Nat) :
    (run script t).1[j]? = script[j]?.map fun entry =>
      ((run (script.take j) t).2.call entry.1 entry.2.1 entry.2.2).1 := by
  induction script generalizing t j with
  | nil => rfl
  | cons entry rest ih =>
    obtain ⟨m, i, c⟩ := entry
    cases j with
    | zero => rfl
    | succ j =>
      simp only [run, List.getElem?_cons_succ, List.take_succ_cons]
      exact ih (t.call m i c).2 j

/-- The lines of a run are those that its loggers were asked to log. -/
theorem turn_logged_iff {script : Script} {t : LoggerTree} {j : Nat} {k : Logger} {stamp : String}
    {e : Entry} :
    (run script t).1[j]? = some (.logged k stamp e) ↔
      ∃ m i, script[j]? = some (m, i, .log e) ∧
        (run (script.take j) t).2.loggers[i]? = some k ∧
        stamp = Stamp.text m.seconds m.nanoseconds := by
  rw [turn_run, Option.map_eq_some_iff]
  constructor
  · rintro ⟨⟨m, i, c⟩, hentry, hturn⟩
    obtain ⟨rfl, hlogger, hstamp⟩ := call_logged_iff.mp hturn
    exact ⟨m, i, hentry, hlogger, hstamp⟩
  · rintro ⟨m, i, hentry, hlogger, hstamp⟩
    exact ⟨_, hentry, call_logged_iff.mpr ⟨rfl, hlogger, hstamp⟩⟩

theorem printable_stamp {script : Script} {t : LoggerTree} {l : Logger} {stamp : String} {e : Entry}
    (h : .logged l stamp e ∈ (run script t).1) : Printable stamp.toList := by
  obtain ⟨j, hj⟩ := List.getElem?_of_mem h
  obtain ⟨m, i, -, -, rfl⟩ := turn_logged_iff.mp hj
  exact Stamp.printable_text m.seconds m.nanoseconds

/-! ### The whole tree -/

/-- From its root on, whatever is asked of the loggers of a tree. A turn is a line to be logged
exactly if that is what the call was for, with the logger as it was then. The journal counts, for
each level, the lines that the loggers they were asked of allowed, and every logger of the tree
reports that. The lines of a file are those that were allowed while it was attached last, in their
order, each as one line if context and message hold no line break, whatever is in the metadata.
Behind any run, a child takes the level and the context of its parent, setting a level is for that
logger alone, and a file that cannot be attached changes neither the loggers nor the journal. -/
theorem journal_of_tree (l : Logger) (w : World) (script : Script) :
    let turns := (run script (root l w)).1
    let t := (run script (root l w)).2
    (∀ j k stamp e, turns[j]? = some (.logged k stamp e) ↔
      ∃ m i, script[j]? = some (m, i, .log e) ∧
        (run (script.take j) (root l w)).2.loggers[i]? = some k ∧
        stamp = Stamp.text m.seconds m.nanoseconds) ∧
    (∀ level, t.world.journal.counts.get level = turns.countP (·.counts level)) ∧
    (∀ k ∈ t.loggers, k.stats t.world = .ofMembers
      [("level", .string k.level.name), ("context", .string k.context),
        ("error", .nat (turns.countP (·.counts .error))),
        ("warn", .nat (turns.countP (·.counts .warn))),
        ("info", .nat (turns.countP (·.counts .info))),
        ("debug", .nat (turns.countP (·.counts .debug)))]) ∧
    (∀ place, w.files.Plain place → t.world.files.contentAt place =
      w.files.contentAt place ++ (lines place none turns).flatMap Logger.record) ∧
    (∀ k stamp e, .logged k stamp e ∈ turns →
      '\n' ∉ k.context.toList → '\n' ∉ e.message.toList →
        ∃ bytes, Logger.record (k.line stamp e) = bytes ++ [10] ∧ 10 ∉ bytes) ∧
    ∀ m i k, t.loggers[i]? = some k →
      (∀ suffix, (t.call m i (.child suffix)).2.loggers = t.loggers ++
        [⟨if suffix = "" then k.context else k.context ++ ":" ++ suffix, k.level⟩]) ∧
      (∀ level, (t.call m i (.setLevel level)).2.loggers[i]? = some ⟨k.context, level⟩ ∧
        ∀ j, j ≠ i → (t.call m i (.setLevel level)).2.loggers[j]? = t.loggers[j]?) ∧
      ∀ path echo e, (t.call m i (.attach path echo)).1 = .attached (.error e) →
        (t.call m i (.attach path echo)).2.loggers = t.loggers ∧
          (t.call m i (.attach path echo)).2.world.journal = t.world.journal := by
  intro turns t
  have hcounts (level : Level) :
      t.world.journal.counts.get level = turns.countP (·.counts level) := by
    have hrun := counts_run level script (root l w)
    rwa [show (root l w).world.journal.counts.get level = 0 by cases level <;> rfl,
      Nat.zero_add] at hrun
  refine ⟨fun j k stamp e => turn_logged_iff, hcounts, ?_, ?_, ?_, ?_⟩
  · intro k _
    simp only [← hcounts]
    rfl
  · intro place hplain
    have hready : Logger.Ready place (root l w).world := ⟨hplain, fun hsink => by cases hsink⟩
    exact contentAt_run script hready
  · intro k stamp e hlogged hcontext hmessage
    exact Logger.record_one_line (printable_stamp hlogged) hcontext hmessage
  · intro m i k hk
    refine ⟨loggers_child m hk, fun level => ?_, fun path echo e => attach_failed m hk⟩
    rw [loggers_setLevel m hk]
    obtain ⟨hlt, -⟩ := List.getElem?_eq_some_iff.mp hk
    exact ⟨List.getElem?_set_self hlt, fun j hj => List.getElem?_set_ne hj.symm⟩

/-- Backend text in the metadata of a child that logs more than its root. -/
example :
    let script : Script :=
      [(⟨0, 0⟩, 0, .attach "/log" false), (⟨0, 0⟩, 0, .child "db"), (⟨1, 0⟩, 1, .setLevel .debug),
        (⟨2, 0⟩, 0, .log ⟨.debug, "hidden", .null⟩),
        (⟨3, 0⟩, 1, .log ⟨.debug, "row", .string "a\n[forged] INFO"⟩)]
    let t := (run script (root ⟨"agent", .info⟩ { files := ⟨[]⟩, cwd := [], env := [] })).2
    t.world.files.contentAt ["log"] = Text.Utf8.encode
        "[1970-01-01T00:00:03+00:00] DEBUG [agent:db] row \"a\\n[forged] INFO\"\n" ∧
      t.world.journal.counts = ⟨0, 0, 0, 1⟩ := by
  decide

end LoggerTree
end CommandAgent
