import CommandAgent.Terminal.Basic
import CommandAgent.Terminal.Parties
import Mathlib.Logic.Relation
import Mathlib.Order.Basic

/-!
# Handles are released once

However the watcher, the closes and the uses of a session come in between each other, its handles
are taken once and for all, and what the session tells of its child is never taken back
(`handles_released_once`).

The flag, the code, the handles and the notice are not changed together, so no one of them tells the
others. What ties them together is how far the watcher has come (`Sound`): the code is there from
its first step on, the flag exactly from the second on, the handles are gone from the third on, and
notice is given by the fourth. A close that has finished has found the flag unset, so it has seen to
it that the handles are taken.

A terminal goes through the steps of each party at once. That is one of the ways in which they can
come, so what holds of every course holds of its session (`Used.shared`, `refuses_after_close`).
-/

namespace CommandAgent.Terminal

variable {π : Type} {pty : Pty π} {p q : Parties π}

namespace Parties

section
variable (p) (u : Use)

@[simp] theorem session_use : (p.use pty u).2.session = p.session := by
  unfold use
  cases p.session.use <;> rfl

@[simp] theorem child_use : (p.use pty u).2.child = p.child := by
  unfold use
  cases p.session.use <;> rfl

@[simp] theorem watcher_use : (p.use pty u).2.watcher = p.watcher := by
  unfold use
  cases p.session.use <;> rfl

@[simp] theorem closers_use : (p.use pty u).2.closers = p.closers := by
  unfold use
  cases p.session.use <;> rfl

/-- Without handles a use fails and changes nothing. -/
theorem use_of_released (h : p.session.holds = false) : p.use pty u = (.error .closed, p) := by
  simp [use, Session.use, h]

end

theorem finished_mem_closing {i : Nat} {closer : Closer} (hne : closer ≠ .finished)
    (h : .finished ∈ (p.closing i closer).closers) : .finished ∈ p.closers :=
  (List.mem_or_eq_of_mem_set h).resolve_right hne.symm

end Parties

/-! ### What ties a session together -/

/-- How many steps the watcher has taken. -/
def Watcher.steps : Watcher → Nat
  | waiting => 0
  | stored => 1
  | marked => 2
  | released => 3
  | notified => 4

/-- What a session tells, by the steps that the watcher has taken. -/
structure Sound (p : Parties π) : Prop where
  code : 1 ≤ p.watcher.steps → p.child = .ended p.session.exitCode
  flag : p.session.exited = true ↔ 2 ≤ p.watcher.steps
  handles : 3 ≤ p.watcher.steps → p.session.holds = false
  notice : p.session.notified = true ↔ 4 ≤ p.watcher.steps
  finished : .finished ∈ p.closers → p.session.holds = false

namespace Sound

theorem fresh (device : π) : Sound { device := device } := by
  constructor <;> simp [Watcher.steps]

/-- Every step keeps it. -/
theorem step (hp : Sound p) (h : Step pty p q) : Sound q := by
  cases h with
  | ends code hrunning =>
    refine ⟨fun hcode => ?_, hp.flag, hp.handles, hp.notice, hp.finished⟩
    exact absurd (hp.code hcode) (hrunning _)
  | store hwatcher hchild =>
    have hflag := hp.flag
    have hnotice := hp.notice
    rw [hwatcher] at hflag hnotice
    refine ⟨fun _ => hchild, ?_, ?_, ?_, hp.finished⟩
    · simpa [Parties.watched, Session.storeCode, Watcher.steps] using hflag
    · simp [Parties.watched, Watcher.steps]
    · simpa [Parties.watched, Session.storeCode, Watcher.steps] using hnotice
  | mark hwatcher =>
    have hcode := hp.code
    have hnotice := hp.notice
    rw [hwatcher] at hcode hnotice
    refine ⟨fun _ => hcode (Nat.le_refl 1), ?_, ?_, ?_, hp.finished⟩
    · simp [Parties.watched, Session.markExited, Watcher.steps]
    · simp [Parties.watched, Watcher.steps]
    · simpa [Parties.watched, Session.markExited, Watcher.steps] using hnotice
  | release hwatcher =>
    have hcode := hp.code
    have hflag := hp.flag
    have hnotice := hp.notice
    rw [hwatcher] at hcode hflag hnotice
    refine ⟨fun _ => hcode (by decide), ?_, fun _ => rfl, ?_, fun _ => rfl⟩
    · simpa [Parties.watched, Session.release, Watcher.steps] using hflag
    · simpa [Parties.watched, Session.release, Watcher.steps] using hnotice
  | notify hwatcher =>
    have hcode := hp.code
    have hflag := hp.flag
    have hhandles := hp.handles
    rw [hwatcher] at hcode hflag hhandles
    refine ⟨fun _ => hcode (by decide), ?_, fun _ => hhandles (by decide), ?_, hp.finished⟩
    · simpa [Parties.watched, Session.notify, Watcher.steps] using hflag
    · simp [Parties.watched, Session.notify, Watcher.steps]
  | call =>
    refine ⟨hp.code, hp.flag, hp.handles, hp.notice, fun hmem => hp.finished ?_⟩
    simpa using hmem
  | spare =>
    refine ⟨hp.code, hp.flag, hp.handles, hp.notice, fun hmem => hp.finished ?_⟩
    exact Parties.finished_mem_closing (by decide) hmem
  | resolve =>
    refine ⟨hp.code, hp.flag, hp.handles, hp.notice, fun hmem => hp.finished ?_⟩
    exact Parties.finished_mem_closing (by decide) hmem
  | kill =>
    refine ⟨fun hcode => ?_, hp.flag, hp.handles, hp.notice, fun hmem => hp.finished ?_⟩
    · have hchild := hp.code hcode
      simp only [hchild, Child.kill]
      rfl
    · exact Parties.finished_mem_closing (by decide) hmem
  | take => exact ⟨hp.code, hp.flag, fun _ => rfl, hp.notice, fun _ => rfl⟩
  | use u =>
    constructor <;> simp only [Parties.session_use, Parties.child_use, Parties.watcher_use,
      Parties.closers_use]
    exacts [hp.code, hp.flag, hp.handles, hp.notice, hp.finished]

end Sound

/-! ### What a step never takes back -/

namespace Step

/-- Handles that are gone stay gone. -/
theorem released (h : Step pty p q) (hp : p.session.holds = false) : q.session.holds = false := by
  cases h with
  | release | take => rfl
  | use u => rwa [Parties.session_use]
  | _ => exact hp

/-- An exit that has been marked stays marked, with the same code. -/
theorem exited (h : Step pty p q) (hsound : Sound p) (hp : p.session.exited = true) :
    q.session.exited = true ∧ q.session.exitCode = p.session.exitCode := by
  cases h with
  | store hwatcher hchild =>
    have hsteps := hsound.flag.mp hp
    rw [hwatcher] at hsteps
    exact absurd hsteps (by decide)
  | mark => exact ⟨rfl, rfl⟩
  | use u =>
    rw [Parties.session_use]
    exact ⟨hp, rfl⟩
  | _ => exact ⟨hp, rfl⟩

end Step

/-! ### Courses -/

/-- A course of events at a session: at each moment some party takes a step, or nothing happens. -/
structure Course (pty : Pty π) where
  state : Nat → Parties π
  fresh : ∃ device, state 0 = { device := device }
  next : ∀ n, state (n + 1) = state n ∨ Step pty (state n) (state (n + 1))

namespace Course

variable (c : Course pty)

/-- Each state on the way is sound. -/
theorem sound (n : Nat) : Sound (c.state n) := by
  induction n with
  | zero =>
    obtain ⟨device, hfresh⟩ := c.fresh
    rw [hfresh]
    exact .fresh device
  | succ n ih =>
    rcases c.next n with hidle | hstep
    · rwa [hidle]
    · exact ih.step hstep

/-- What no step takes back is never taken back. -/
theorem stays {P : Parties π → Prop}
    (hP : ∀ {p q}, Sound p → Step pty p q → P p → P q) {m n : Nat} (hmn : m ≤ n)
    (hm : P (c.state m)) : P (c.state n) := by
  induction hmn with
  | refl => exact hm
  | @step n _ ih =>
    rcases c.next n with hidle | hstep
    · rwa [hidle]
    · exact hP (c.sound n) hstep ih

theorem released {m n : Nat} (hmn : m ≤ n) (hm : (c.state m).session.holds = false) :
    (c.state n).session.holds = false :=
  c.stays (P := fun p => p.session.holds = false) (fun _ hstep hp => hstep.released hp) hmn hm

/-- A session that has exited stays so, with its code. -/
theorem exited {m n : Nat} (hmn : m ≤ n) (hm : (c.state m).session.exited = true) :
    (c.state n).session.exited = true ∧
      (c.state n).session.exitCode = (c.state m).session.exitCode := by
  refine c.stays (P := fun p => p.session.exited = true ∧
    p.session.exitCode = (c.state m).session.exitCode) ?_ hmn ⟨hm, rfl⟩
  rintro p q hsound hstep ⟨hp, hcode⟩
  obtain ⟨hq, hsame⟩ := hstep.exited hsound hp
  exact ⟨hq, hsame.trans hcode⟩

/-- The handles are taken at a moment. -/
def Takes (n : Nat) : Prop :=
  (c.state n).session.holds = true ∧ (c.state (n + 1)).session.holds = false

/-- Handles that are gone have been taken. -/
theorem exists_takes {n : Nat} (hn : (c.state n).session.holds = false) : ∃ m < n, c.Takes m := by
  induction n with
  | zero =>
    obtain ⟨device, hfresh⟩ := c.fresh
    rw [hfresh] at hn
    cases hn
  | succ n ih =>
    cases hheld : (c.state n).session.holds with
    | true => exact ⟨n, Nat.lt_succ_self n, hheld, hn⟩
    | false =>
      obtain ⟨m, hm, htakes⟩ := ih hheld
      exact ⟨m, Nat.lt_succ_of_lt hm, htakes⟩

end Course

/-- Whatever steps lead to is part of a course. -/
theorem exists_course {device : π} (h : Relation.ReflTransGen (Step pty) { device := device } p) :
    ∃ (c : Course pty) (n : Nat), c.state n = p := by
  induction h with
  | refl => exact ⟨⟨fun _ => { device := device }, ⟨device, rfl⟩, fun _ => .inl rfl⟩, 0, rfl⟩
  | @tail p q _ hstep ih =>
    obtain ⟨c, n, rfl⟩ := ih
    -- the course up to the last moment, and then the step for good
    refine ⟨⟨fun k => if k ≤ n then c.state k else q, ?_, fun k => ?_⟩, n + 1, ?_⟩
    · simpa using c.fresh
    · rcases Nat.lt_trichotomy k n with hlt | rfl | hgt
      · rw [if_pos (by omega), if_pos (by omega)]
        exact c.next k
      · rw [if_pos (Nat.le_refl k), if_neg (by omega)]
        exact .inr hstep
      · rw [if_neg (by omega), if_neg (by omega)]
        exact .inl rfl
    · exact if_neg (by omega)

/-- The handles of a session are released once. In every course of events they are taken at one
moment at most and never come back; from then on every write and every resize fails because the
session is closed, and changes nothing. Once the session is marked as exited the code with which its
child ended is stored, and neither is changed any more. When notice has been given the session has
exited and the handles are gone. They are gone, too, because they have been taken, once the watcher
is over, and once any close is over that saw that the session had not exited. -/
theorem handles_released_once (c : Course pty) :
    (∀ m n, c.Takes m → c.Takes n → m = n) ∧
    (∀ m n, c.Takes m → m < n → (c.state n).session.holds = false ∧
      ∀ u, (c.state n).use pty u = (.error .closed, c.state n)) ∧
    (∀ m n, m ≤ n → (c.state m).session.exited = true →
      (c.state n).session.exited = true ∧
        (c.state m).child = .ended (c.state m).session.exitCode ∧
        (c.state n).session.exitCode = (c.state m).session.exitCode) ∧
    (∀ n, (c.state n).session.notified = true →
      (c.state n).session.exited = true ∧ (c.state n).session.holds = false) ∧
    (∀ n, (c.state n).watcher = .notified ∨ .finished ∈ (c.state n).closers →
      (c.state n).session.holds = false ∧ ∃ m < n, c.Takes m) := by
  have hgone {m n : Nat} (hm : c.Takes m) (hmn : m < n) : (c.state n).session.holds = false :=
    c.released hmn hm.2
  have hbefore {m n : Nat} (hm : c.Takes m) (hn : c.Takes n) : ¬ m < n := by
    intro hmn
    have hheld := hn.1
    rw [hgone hm hmn] at hheld
    cases hheld
  refine ⟨?_, ?_, ?_, ?_, ?_⟩
  · intro m n hm hn
    exact Nat.le_antisymm (Nat.not_lt.mp (hbefore hn hm)) (Nat.not_lt.mp (hbefore hm hn))
  · intro m n hm hmn
    exact ⟨hgone hm hmn, fun u => Parties.use_of_released _ u (hgone hm hmn)⟩
  · intro m n hmn hm
    obtain ⟨hn, hcode⟩ := c.exited hmn hm
    have hsteps := (c.sound m).flag.mp hm
    exact ⟨hn, (c.sound m).code (Nat.le_of_succ_le hsteps), hcode⟩
  · intro n hn
    have hsteps := (c.sound n).notice.mp hn
    exact ⟨(c.sound n).flag.mpr (by omega), (c.sound n).handles (by omega)⟩
  · intro n hover
    have hreleased : (c.state n).session.holds = false := by
      rcases hover with hover | hover
      · exact (c.sound n).handles (by rw [hover]; decide)
      · exact (c.sound n).finished hover
    exact ⟨hreleased, c.exists_takes hreleased⟩

/-- Handles that lead nowhere. -/
def deaf : Pty Unit := fun _ _ => (.ok 0, ())

/-- A session after a close that came in between the steps of the watcher. -/
def raced : Parties Unit :=
  ⟨⟨some 3, true, false, true⟩, .ended (some 3), .notified, [.finished], ()⟩

/-- A close comes in between the steps of the watcher: it sees that the session has not exited while
the exit code is stored already, and both go on to take the handles. They are taken once. -/
theorem handles_released_once_race :
    ∃ (c : Course deaf) (n : Nat), c.state n = raced ∧
      ∃ m < n, c.Takes m ∧ ∀ k, c.Takes k → k = m := by
  have hraced : Relation.ReflTransGen (Step deaf) { device := () } raced := by
    refine .head (.call _) (.head (.ends (some 3) ?_) (.head (.store rfl rfl) ?_))
    · intro code hended
      cases hended
    refine .head (.resolve (i := 0) rfl rfl) (.head (.mark rfl) (.head (.kill (i := 0) rfl) ?_))
    exact .head (.take (i := 0) rfl) (.head (.release rfl) (.single (.notify rfl)))
  obtain ⟨c, n, hn⟩ := exists_course hraced
  obtain ⟨honce, -, -, -, hover⟩ := handles_released_once c
  have hwatcher : (c.state n).watcher = .notified := congrArg Parties.watcher hn
  obtain ⟨-, m, hm, htakes⟩ := hover n (.inl hwatcher)
  exact ⟨c, n, hn, m, hm, htakes, fun k hk => honce k m hk htakes⟩

/-! ### Terminals -/

/-- Some steps of the parties make of a session what it is, and the watcher has either not begun or
given notice. -/
def Session.Shared (s : Session) : Prop :=
  ∃ p : Parties Unit, Relation.ReflTransGen (Step deaf) { device := () } p ∧ p.session = s ∧
    ((p.watcher = .waiting ∧ ∀ code, p.child ≠ .ended code) ∨ p.watcher = .notified)

/-- Closing leaves no handles, if an exited session has none. -/
theorem Session.holds_close {s : Session} (h : s.exited = true → s.holds = false) :
    s.close.holds = false := by
  unfold Session.close
  split
  · exact h ‹_›
  · rfl

theorem sound_of_reachable {device : π}
    (h : Relation.ReflTransGen (Step pty) { device := device } p) : Sound p := by
  obtain ⟨c, n, rfl⟩ := exists_course h
  exact c.sound n

namespace Session.Shared

variable {s : Session}

theorem fresh : Shared {} := by
  refine ⟨_, .refl, rfl, .inl ⟨rfl, fun code hended => ?_⟩⟩
  cases hended

theorem released (h : s.Shared) (hexited : s.exited = true) : s.holds = false := by
  obtain ⟨p, hp, rfl, ⟨hwaiting, -⟩ | hnotified⟩ := h
  · have hsteps := (sound_of_reachable hp).flag.mp hexited
    rw [hwaiting] at hsteps
    exact absurd hsteps (by decide)
  · exact (sound_of_reachable hp).handles (by rw [hnotified]; decide)

/-- A session stays shared when the watcher sees the end of its child. -/
theorem watch (h : s.Shared) (hexited : s.exited = false) (code : Option Nat) :
    (s.watch code).Shared := by
  obtain ⟨p, hp, rfl, ⟨hwaiting, hrunning⟩ | hnotified⟩ := h
  · have hended := hp.tail (.ends code hrunning)
    have hstored := hended.tail (.store hwaiting rfl)
    have hmarked := hstored.tail (.mark rfl)
    have hreleased := hmarked.tail (.release rfl)
    exact ⟨_, hreleased.tail (.notify rfl), rfl, .inr rfl⟩
  · have hflag := (sound_of_reachable hp).flag.mpr (by rw [hnotified]; decide)
    rw [hexited] at hflag
    cases hflag

/-- A session stays shared when it is closed. -/
theorem close (h : s.Shared) : s.close.Shared := by
  unfold Session.close
  split
  · exact h
  · rename_i hexited
    obtain ⟨p, hp, rfl, hwatcher⟩ := h
    have hcalled := hp.tail (.call p)
    have hresolved := hcalled.tail
      (.resolve (i := p.closers.length) (by simp) (Bool.eq_false_iff.mpr hexited))
    have hkilled := hresolved.tail (.kill (i := p.closers.length) (by simp [Parties.closing]))
    have htaken := hkilled.tail (.take (i := p.closers.length) (by simp [Parties.closing]))
    refine ⟨_, htaken, rfl, hwatcher.imp_left fun ⟨hwaiting, hrunning⟩ => ⟨hwaiting, ?_⟩⟩
    intro code
    cases hchild : p.child with
    | ended c => exact absurd hchild (hrunning c)
    | running | doomed => simp [Parties.closing, Child.kill]

end Session.Shared

/-- What one use makes of a terminal. -/
inductive Turn : Terminal → Terminal → Prop
  | advance (n : Nat) (t : Terminal) (w : World) : Turn t (t.advance n w).1
  | write (data : Bytes) (t : Terminal) (w : World) : Turn t (t.write data w).2
  | resize (columns rows : UInt16) (t : Terminal) (w : World) : Turn t (t.resize columns rows w).2
  | close (t : Terminal) (w : World) : Turn t (t.close w)
  | waitExit (t : Terminal) (w : World) : Turn t (t.waitExit w).1

section
variable (t : Terminal) (w : World)

/-- To settle leaves the session alone or lets the watcher run through. -/
theorem session_settle (now : Nat) :
    (t.settle now).session = t.session ∨
      t.session.exited = false ∧ ∃ code, (t.settle now).session = t.session.watch code := by
  unfold settle
  cases t.ended? with
  | none => exact .inl rfl
  | some e =>
    by_cases hnow : (e.1 ≤ now && !t.session.exited) = true
    · refine .inr ⟨by simpa using (Bool.and_eq_true_iff.mp hnow).2, some e.2, ?_⟩
      exact if_pos hnow
    · exact .inl (if_neg hnow)

theorem session_write (data : Bytes) :
    (t.write data w).2.session = (t.settle w.clock).session := by
  simp only [write]
  split <;> rfl

theorem session_resize (columns rows : UInt16) :
    (t.resize columns rows w).2.session = (t.settle w.clock).session := by
  simp only [resize]
  split <;> rfl

theorem session_close : (t.close w).session = (t.settle w.clock).session.close := by
  simp only [close]
  split
  · rename_i hexited
    simp [Session.close, hexited]
  · rfl

end

variable {t t' : Terminal} {P : Session → Prop}

/-- What the watcher keeps stays as it is when what is due is settled. -/
theorem settle_keeps (hwatch : ∀ s code, P s → s.exited = false → P (s.watch code))
    (ht : P t.session) (now : Nat) : P (t.settle now).session := by
  rcases session_settle t now with hsame | ⟨hexited, code, hwatched⟩
  · rwa [hsame]
  · rw [hwatched]
    exact hwatch _ code ht hexited

/-- What the watcher and a close keep, a use keeps. -/
theorem Turn.keeps (hwatch : ∀ s code, P s → s.exited = false → P (s.watch code))
    (hclose : ∀ s, P s → P s.close) (h : Turn t t') (ht : P t.session) : P t'.session := by
  cases h with
  | advance | waitExit => exact settle_keeps hwatch ht _
  | write data t w =>
    rw [session_write]
    exact settle_keeps hwatch ht _
  | resize columns rows t w =>
    rw [session_resize]
    exact settle_keeps hwatch ht _
  | close t w =>
    rw [session_close]
    exact hclose _ (settle_keeps hwatch ht _)

/-- A terminal that has been used since its program was started. -/
def Used (t : Terminal) : Prop :=
  ∃ fresh : Terminal, fresh.session = {} ∧ Relation.ReflTransGen Turn fresh t

/-- However a terminal has been used, its session is a shared one. -/
theorem Used.shared (h : Used t) : t.session.Shared := by
  obtain ⟨fresh, hfresh, hturns⟩ := h
  induction hturns with
  | refl =>
    rw [hfresh]
    exact .fresh
  | tail _ hturn ih =>
    exact hturn.keeps (fun _ code hs hexited => hs.watch hexited code) (fun _ hs => hs.close) ih

/-- A terminal that has been closed refuses every write and every resize, whatever else is done with
it in the meantime. -/
theorem refuses_after_close (h : Used t) (w : World)
    (hturns : Relation.ReflTransGen Turn (t.close w) t') (w' : World) :
    (∀ data, t'.write data w' = (.error .closed, t'.settle w'.clock)) ∧
      ∀ columns rows, t'.resize columns rows w' = (.error .closed, t'.settle w'.clock) := by
  have hwatch (s : Session) (code : Option Nat) (_ : s.holds = false) (_ : s.exited = false) :
      (s.watch code).holds = false := rfl
  have hclosed : (t.close w).session.holds = false := by
    have hshared : (t.settle w.clock).session.Shared :=
      settle_keeps (fun _ code hs hexited => hs.watch hexited code) h.shared w.clock
    rw [session_close]
    exact Session.holds_close hshared.released
  have hheld : t'.session.holds = false := by
    induction hturns with
    | refl => exact hclosed
    | tail _ hturn ih =>
      exact hturn.keeps (P := fun s => s.holds = false) hwatch
        (fun s hs => Session.holds_close fun _ => hs) ih
  have hrefused : (t'.settle w'.clock).session.use = .error .closed := by
    have hsettled := settle_keeps (P := fun s => s.holds = false) hwatch hheld w'.clock
    simp [Session.use, hsettled]
  constructor
  · intro data
    simp only [write, hrefused]
  · intro columns rows
    simp only [resize, hrefused]

end CommandAgent.Terminal
