import CommandAgent.Proofs.Interactive.Prompt

/-!
# Which command the output belongs to

A session hands out one stream of portions, in order and each once (`InOrder`). A command that is
typed divides the stream in two: the portions that have been produced before and wait to be taken,
and those that come after (`Turn`). What the command returns is the stream up to the prompt, so old
portions come first in it.

The bytes behind a prompt are gone if they came in the portion in which the prompt was completed,
because whole portions are taken (`Turn.left`). If they came in a later portion they wait, and are
returned for the next command: a conversation is attributed to its commands exactly as far as
nothing waits when a command is typed (`conversation_attribution`).
-/

namespace CommandAgent.Interactive

open Terminal (Console Fault)
open Text (FirstAt find?)

/-! ### Terminals that keep their order -/

/-- The portions arrive in order and each once: those that have been produced come first, taking
takes them from the front, and typing changes only what comes behind them. -/
structure InOrder {σ : Type} (k : Console σ) where
  /-- The portions that have been produced by now and wait to be taken. -/
  waiting : σ → World → List Bytes
  upcoming_advance : ∀ n s w, k.upcoming (k.advance n s w).1 = (k.upcoming s).drop n
  waiting_upcoming : ∀ s w, waiting s w <+: k.upcoming s
  waiting_write : ∀ data s w, waiting s w <+: k.upcoming (k.write data s w).2

/-! ### Turns -/

/-- What a typed command finds and what comes of it. -/
structure Turn where
  /-- The portions that waited when the command was typed. -/
  old : List Bytes
  /-- The portions that came after that. -/
  new : List Bytes
  /-- Why the command could not be typed. -/
  fault : Option Fault

/-- How many portions waiting for a prompt takes; one more than there are if it does not come. -/
def taken (prompt : Bytes) (portions : List Bytes) : Nat :=
  match scan prompt portions with
  | .found _ _ n => n
  | .ended _ => portions.length + 1

namespace Turn

/-- All portions of a turn. -/
def stream (t : Turn) : List Bytes := t.old ++ t.new

def returned (o : Options) (t : Turn) : Bytes :=
  match upToPrompt o.marker t.stream.flatten with
  | .ok output => output
  | .error output => output

def outcome (o : Options) (t : Turn) : Outcome :=
  match t.fault with
  | some f => .ofFailure f.toFailure
  | none =>
    match upToPrompt o.marker t.stream.flatten with
    | .ok output => .ok (Text.Utf8.decodeLossy output)
    | .error output => o.cutShort output

/-- The portions that are left after a turn. -/
def left (o : Options) (t : Turn) : List Bytes :=
  match t.fault with
  | some _ => t.stream
  | none => t.stream.drop (taken o.marker t.stream)

end Turn

/-- Turns that take one stream portion by portion: each finds at most what the one before has left,
and nothing of what that one took. -/
def Follows (o : Options) : (left : List Bytes) → List Turn → Prop
  | _, [] => True
  | left, t :: ts => t.old <+: left ∧ Follows o (t.left o) ts

variable {σ : Type} (k : Console σ) (law : InOrder k) (logger : Logger) (o : Options)

/-- The turn of a command that is typed in a session. -/
def turnOf (c : Command) (t : σ) (w : World) : Turn :=
  let (written, t') := k.write (Text.Utf8.encode (c.input ++ "\n")) t w
  { old := law.waiting t w
    new := (k.upcoming t').drop (law.waiting t w).length
    fault := match written with
      | .error f => some f
      | .ok _ => none }

/-- A conversation after the connection: before each command the world may change as it likes. -/
def converse : List ((World → World) × Command) → Sessions σ → World → List Outcome
  | [], _, _ => []
  | (pause, c) :: rest, s, w =>
    let (outcome, s, w) := submit k logger o c s (pause w)
    outcome :: converse rest s w

/-- The turns of a conversation. -/
def turns : List ((World → World) × Command) → Sessions σ → World → List Turn
  | [], _, _ => []
  | (pause, c) :: rest, s, w =>
    match s.current with
    | none => []
    | some t =>
      let (_, s, w') := submit k logger o c s (pause w)
      turnOf k law c t (pause w) :: turns rest s w'

/-! ### One turn -/

variable {k}

theorem stream_turnOf (c : Command) (t : σ) (w : World) :
    (turnOf k law c t w).stream =
      k.upcoming (k.write (Text.Utf8.encode (c.input ++ "\n")) t w).2 := by
  obtain ⟨answer, h⟩ := law.waiting_write (Text.Utf8.encode (c.input ++ "\n")) t w
  simp only [turnOf, Turn.stream]
  rw [← h, List.drop_left]

include law in
/-- After waiting for the prompt the portions behind those that were taken are left. -/
theorem upcoming_readPrompt (t : σ) (w : World) :
    k.upcoming (readPrompt k logger o t w).2.1 =
      (k.upcoming t).drop (taken o.marker (k.upcoming t)) := by
  unfold taken
  cases h : scan o.marker (k.upcoming t) with
  | found before trailing n =>
    rw [readPrompt_found k logger o t w h, law.upcoming_advance]
  | ended whole =>
    rw [readPrompt_ended k logger o t w h, law.upcoming_advance]

/-- A command that is submitted in a session makes its turn, and the session goes on with what the
turn has left. -/
theorem submit_turn (ho : o.prompt ≠ "") (c : Command) {s : Sessions σ} {t : σ}
    (hs : s.current = some t) (w : World) :
    (submit k logger o c s w).1 = (turnOf k law c t w).outcome o ∧
      ∃ t', (submit k logger o c s w).2.1.current = some t' ∧
        k.upcoming t' = (turnOf k law c t w).left o := by
  have hstream := stream_turnOf law c t w
  have hfault : (turnOf k law c t w).fault =
      match (k.write (Text.Utf8.encode (c.input ++ "\n")) t w).1 with
      | .error f => some f
      | .ok _ => none := rfl
  simp only [submit, hs]
  cases hwritten : (k.write (Text.Utf8.encode (c.input ++ "\n")) t w).1 with
  | error f =>
    rw [hwritten] at hfault
    simp only [Turn.outcome, Turn.left, hfault]
    exact ⟨trivial, _, rfl, hstream.symm⟩
  | ok count =>
    rw [hwritten] at hfault
    generalize (k.write (Text.Utf8.encode (c.input ++ "\n")) t w).2 = t' at hstream ⊢
    have hread := readPrompt_fst k logger o t' w
    rw [scan_result (Options.marker_ne_nil ho), ← hstream] at hread
    have hleft := upcoming_readPrompt law logger o t' w
    rw [← hstream] at hleft
    simp only [Turn.outcome, Turn.left, hfault]
    rw [← hread]
    cases (readPrompt k logger o t' w).1 <;> exact ⟨rfl, _, rfl, hleft⟩

/-! ### What a turn returns -/

/-- A stream begins with a prompt exactly if the first prompt stands at its beginning. -/
theorem prefix_iff_of_firstAt {prompt stream : Bytes} {stop : Nat}
    (h : FirstAt prompt stream stop) : prompt <+: stream ↔ stop = 0 := by
  constructor
  · intro hprefix
    rcases Nat.eq_zero_or_pos stop with hzero | hpos
    · exact hzero
    · exact absurd hprefix (h.2 0 hpos)
  · rintro rfl
    exact h.1

/-- What is returned is the beginning of the turn's stream: old bytes first, then new ones. There is
no old byte in it exactly if none waited, or if the stream begins with a prompt. -/
theorem Turn.returned_split (ho : o.prompt ≠ "") (t : Turn) :
    ∃ old new, t.returned o = old ++ new ∧ old <+: t.old.flatten ∧ new <+: t.new.flatten ∧
      (old = [] ↔ t.old.flatten = [] ∨ o.marker <+: t.stream.flatten) := by
  have hne := Options.marker_ne_nil ho
  have hflatten : t.stream.flatten = t.old.flatten ++ t.new.flatten := List.flatten_append
  unfold Turn.returned upToPrompt
  cases hfind : find? o.marker t.stream.flatten with
  | some stop =>
    have hfirst := (Text.find?_eq_some_iff hne).mp hfind
    refine ⟨t.old.flatten.take stop, t.new.flatten.take (stop - t.old.flatten.length), ?_,
      List.take_prefix _ _, List.take_prefix _ _, ?_⟩
    · rw [← List.take_append, ← hflatten]
    · rw [List.take_eq_nil_iff, prefix_iff_of_firstAt hfirst, or_comm]
  | none =>
    have hnever : ¬ o.marker <+: t.stream.flatten :=
      fun hprefix => (Text.find?_eq_none_iff hne).mp hfind 0 hprefix
    refine ⟨t.old.flatten, t.new.flatten, hflatten, List.prefix_refl _, List.prefix_refl _, ?_⟩
    rw [or_iff_left hnever]

/-! ### Conversations -/

/-- A conversation is made of turns that take one stream portion by portion. -/
theorem converse_turns (ho : o.prompt ≠ "") (script : List ((World → World) × Command))
    {s : Sessions σ} {t : σ} (hs : s.current = some t) (w : World) :
    converse k logger o script s w = (turns k law logger o script s w).map (Turn.outcome o) ∧
      Follows o (k.upcoming t) (turns k law logger o script s w) := by
  induction script generalizing s t w with
  | nil => exact ⟨rfl, trivial⟩
  | cons step rest ih =>
    obtain ⟨pause, c⟩ := step
    obtain ⟨houtcome, t', ht', hleft⟩ := submit_turn law logger o ho c hs (pause w)
    obtain ⟨hmap, hfollows⟩ := ih ht' (submit k logger o c s (pause w)).2.2
    simp only [converse, turns, hs]
    refine ⟨?_, ?_, ?_⟩
    · rw [List.map_cons, houtcome, hmap]
    · exact law.waiting_upcoming t (pause w)
    · rw [← hleft]
      exact hfollows

include law in
/-- Opening a session takes the portions of its greeting up to the prompt, and a session that is
open goes on with the portions behind those. -/
theorem connect_left {s : Sessions σ} {w : World} (h : (connect k logger o s w).1 = .ok ()) :
    ∃ t t', k.start o.program o.arguments o.columns o.rows w = .ok t ∧
      (connect k logger o s w).2.1.current = some t' ∧
      k.upcoming t' = (k.upcoming t).drop (taken o.marker (k.upcoming t)) := by
  unfold connect at h ⊢
  cases hstart : k.start o.program o.arguments o.columns o.rows w with
  | error f =>
    rw [hstart] at h
    cases h
  | ok t =>
    rw [hstart] at h
    simp only at h ⊢
    have hleft := upcoming_readPrompt law logger o t (logger.log (opened o) w)
    cases hread : (readPrompt k logger o t (logger.log (opened o) w)).1 with
    | error output =>
      rw [hread] at h
      cases h
    | ok banner => exact ⟨t, _, rfl, rfl, hleft⟩

/-- The output of a conversation, attributed. In a session whose portions arrive in order, each
once, whatever the timing and the cutting, every outcome is that of its turn, and the turns take the
stream portion by portion: a turn finds at most what the one before has left, and what came behind a
prompt in the portion that completed it is not left. A turn returns old bytes first, a beginning of
what waited when its command was typed, and then new ones. So its output has no byte from before the
command exactly if nothing waited, or if what waited begins with another prompt. -/
theorem conversation_attribution (ho : o.prompt ≠ "") (s : Sessions σ) (w : World)
    (script : List ((World → World) × Command))
    (h : (connect k logger o s w).1 = .ok ()) :
    ∃ t, k.start o.program o.arguments o.columns o.rows w = .ok t ∧
      let ts := turns k law logger o script
        (connect k logger o s w).2.1 (connect k logger o s w).2.2
      converse k logger o script (connect k logger o s w).2.1 (connect k logger o s w).2.2
        = ts.map (Turn.outcome o) ∧
      Follows o ((k.upcoming t).drop (taken o.marker (k.upcoming t))) ts ∧
      ∀ turn ∈ ts, ∃ old new, turn.returned o = old ++ new ∧
        old <+: turn.old.flatten ∧ new <+: turn.new.flatten ∧
        (old = [] ↔ turn.old.flatten = [] ∨ o.marker <+: turn.stream.flatten) := by
  obtain ⟨t, t', hstart, ht', hleft⟩ := connect_left law logger o h
  obtain ⟨hmap, hfollows⟩ :=
    converse_turns law logger o ho script ht' (connect k logger o s w).2.2
  refine ⟨t, hstart, hmap, ?_, fun turn _ => turn.returned_split o ho⟩
  rw [← hleft]
  exact hfollows

/-! ### A late portion -/

/-- A program that greets with its prompt, says something more in a portion of its own, and answers
each line with that line and a prompt. -/
def chatty : Console (List Bytes) where
  start _ _ _ _ _ := .ok [Text.Utf8.encode "db> ", Text.Utf8.encode "late\n"]
  upcoming portions := portions
  advance n portions w := (portions.drop n, w)
  write data portions _ := (.ok data.length, portions ++ [data ++ Text.Utf8.encode "db> "])
  close portions _ := portions

/-- All that it will say without being typed to is there from the start. -/
def chattyInOrder : InOrder chatty where
  waiting portions _ := portions
  upcoming_advance _ _ _ := rfl
  waiting_upcoming portions _ := List.prefix_refl portions
  waiting_write _ portions _ := List.prefix_append portions _

def chattyOptions : Options := ⟨"db", [], "db> ", 80, 24⟩

def oneCommand : List ((World → World) × Command) := [(id, { id := "c1", input := "SELECT 1" })]

/-- The session after its greeting, with the world. -/
def greeted : Sessions (List Bytes) × World :=
  (connect chatty ⟨"db", .info⟩ chattyOptions {} bareWorld).2

/-- A terminal that talks before it is typed to, and one command on it. -/
theorem conversation_attribution_chatty :
    chattyOptions.prompt ≠ "" ∧
    (connect chatty ⟨"db", .info⟩ chattyOptions {} bareWorld).1 = .ok () ∧
    ∃ t, chatty.start "db" [] 80 24 bareWorld = .ok t ∧
      Follows chattyOptions
        ((chatty.upcoming t).drop (taken chattyOptions.marker (chatty.upcoming t)))
        (turns chatty chattyInOrder ⟨"db", .info⟩ chattyOptions oneCommand greeted.1
          greeted.2) := by
  obtain ⟨t, ht, -, hfollows, -⟩ := conversation_attribution chattyInOrder ⟨"db", .info⟩
    chattyOptions (by decide) {} bareWorld oneCommand rfl
  exact ⟨by decide, rfl, t, ht, hfollows⟩

/-- The late portion waits when the command is typed, and is returned for it. -/
theorem late_portion_returned :
    (turns chatty chattyInOrder ⟨"db", .info⟩ chattyOptions oneCommand greeted.1 greeted.2).map
        Turn.old = [[Text.Utf8.encode "late\n"]] ∧
      converse chatty ⟨"db", .info⟩ chattyOptions oneCommand greeted.1 greeted.2
        = [.ok "late\nSELECT 1\n"] := by
  decide

end CommandAgent.Interactive
