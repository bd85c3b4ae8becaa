import CommandAgent.Handler.Basic

/-!
# The life of a handler

A handler is driven from outside: calls come in any order, and before each of them the world may
change as it likes. `live` gives what the calls came to, one turn for each, with the state and the
world at the end. What every call keeps of the past, a whole life keeps (`live_keeps`).

Two things are asked of a past: whether the handler is connected by it, and which command was
submitted first.
-/

namespace CommandAgent.Handler

variable {σ : Type}

inductive Step where
  | connect
  | submit (c : Command)
  | close

/-- A call with what it came to. -/
inductive Turn where
  | connected (r : Except Failure Unit)
  | submitted (c : Command) (o : Outcome)
  | closed

def answer (h : Handler σ) : Step → σ → World → Turn × σ × World
  | .connect, s, w =>
    let (r, s, w) := h.connect s w
    (.connected r, s, w)
  | .submit c, s, w =>
    let (o, s, w) := h.submit c s w
    (.submitted c o, s, w)
  | .close, s, w =>
    let (s, w) := h.close s w
    (.closed, s, w)

section
variable (h : Handler σ) (c : Command) (s : σ) (w : World)

@[simp] theorem answer_connect :
    h.answer .connect s w = (.connected (h.connect s w).1, (h.connect s w).2) := rfl

@[simp] theorem answer_submit :
    h.answer (.submit c) s w = (.submitted c (h.submit c s w).1, (h.submit c s w).2) := rfl

@[simp] theorem answer_close : h.answer .close s w = (.closed, h.close s w) := rfl

end

/-- A sequence of calls; before each one stands what happens to the world in the meantime. -/
abbrev Script := List ((World → World) × Step)

/-- The turns of a script, and the state and the world behind them. -/
def live (h : Handler σ) : Script → σ → World → List Turn × σ × World
  | [], s, w => ([], s, w)
  | (pause, call) :: rest, s, w =>
    let (turn, s, w) := h.answer call s (pause w)
    let (turns, s, w) := live h rest s w
    (turn :: turns, s, w)

theorem live_cons (h : Handler σ) (pause : World → World) (call : Step) (rest : Script) (s : σ)
    (w : World) :
    h.live ((pause, call) :: rest) s w =
      let t := h.answer call s (pause w)
      let r := h.live rest t.2.1 t.2.2
      (t.1 :: r.1, r.2) := rfl

/-- A relation between the past and the state that every call keeps holds after every script. -/
theorem live_keeps (h : Handler σ) {Keeps : List Turn → σ → Prop}
    (step : ∀ past call s w, Keeps past s →
      Keeps (past ++ [(h.answer call s w).1]) (h.answer call s w).2.1)
    (script : Script) {past : List Turn} {s : σ} (hpast : Keeps past s) (w : World) :
    Keeps (past ++ (h.live script s w).1) (h.live script s w).2.1 := by
  -- on the script, with any past: a turn goes over to the past of the rest
  induction script generalizing past s w with
  | nil =>
    rw [live, List.append_nil]
    exact hpast
  | cons entry rest ih =>
    obtain ⟨pause, call⟩ := entry
    have hturn := step past call s (pause w) hpast
    have hrest := ih hturn (h.answer call s (pause w)).2.2
    rw [List.append_assoc, List.singleton_append] at hrest
    exact hrest

/-! ### The past -/

/-- A connect has succeeded, and no close has come since. -/
def Connected (past : List Turn) : Prop :=
  ∃ before after, past = before ++ .connected (.ok ()) :: after ∧ .closed ∉ after

theorem not_connected_nil : ¬ Connected [] := by
  rintro ⟨before, after, h, -⟩
  cases before <;> cases h

/-- The last turn connects, or it leaves the handler connected. -/
theorem connected_concat (past : List Turn) (turn : Turn) :
    Connected (past ++ [turn]) ↔
      turn = .connected (.ok ()) ∨ (turn ≠ .closed ∧ Connected past) := by
  constructor
  · rintro ⟨before, after, h, hopen⟩
    rcases List.eq_nil_or_concat after with rfl | ⟨after, last, rfl⟩
    · obtain ⟨-, hturn⟩ := List.append_inj' h rfl
      exact .inl (List.singleton_inj.mp hturn)
    · rw [List.concat_eq_append, ← List.cons_append, ← List.append_assoc] at h
      obtain ⟨hpast, hturn⟩ := List.append_inj' h rfl
      obtain rfl := List.singleton_inj.mp hturn
      rw [List.concat_eq_append, List.mem_append, not_or, List.mem_singleton] at hopen
      exact .inr ⟨Ne.symm hopen.2, before, after, hpast, hopen.1⟩
  · rintro (rfl | ⟨hturn, before, after, rfl, hopen⟩)
    · exact ⟨past, [], rfl, List.not_mem_nil⟩
    · refine ⟨before, after ++ [turn], by simp, ?_⟩
      rw [List.mem_append, not_or, List.mem_singleton]
      exact ⟨hopen, Ne.symm hturn⟩

/-- The command that was submitted first, with its outcome. -/
def firstSubmitted? (past : List Turn) : Option (Command × Outcome) :=
  past.findSome? fun
    | .submitted c o => some (c, o)
    | _ => none

theorem firstSubmitted?_concat (past : List Turn) (turn : Turn) :
    firstSubmitted? (past ++ [turn]) = (firstSubmitted? past).or (firstSubmitted? [turn]) :=
  List.findSome?_append

end CommandAgent.Handler
