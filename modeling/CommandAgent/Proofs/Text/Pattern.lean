import CommandAgent.Proofs.Text.Search
import Mathlib.Data.List.Infix

/-!
# Patterns with preferences

A pattern may match a text in several ways. `ways` lists them in the order in which they are
preferred: a run of any characters is taken as short as possible or as long as possible, characters
that may be there rather are, and what stands first in the pattern decides first. `match?` finds the
preferred way at the leftmost place that has one.

A pattern that begins with a run `Spreads`: where it matches a text, it matches every longer one
that ends in that text. So the first occurrence of what stands before such a pattern is as good as
any later one, and looking for the preferred way is a plain search (`match?_these`, `lead_short`).
-/

namespace CommandAgent.Text

inductive Pattern where
  /-- These characters. -/
  | these (cs : List Char)
  /-- Any characters, as many as possible or as few as possible. -/
  | run (greedy : Bool)
  /-- These characters or none; rather these. -/
  | maybe (cs : List Char)
  /-- One pattern behind another. -/
  | andThen (p q : Pattern)
  /-- A pattern whose characters are kept. -/
  | group (p : Pattern)
  /-- The end of the text. -/
  | finish

/-- A way to match: the groups that are kept, and what is left of the text. -/
structure Way where
  groups : List (List Char)
  rest : List Char

namespace Pattern

/-- The ways to match the beginning of a text, the preferred first. -/
def ways : Pattern → List Char → List Way
  | these cs, text => if cs.isPrefixOf text then [⟨[], text.drop cs.length⟩] else []
  | run greedy, text =>
    (if greedy then text.tails.reverse else text.tails).map fun rest => ⟨[], rest⟩
  | maybe cs, text =>
    (if cs.isPrefixOf text then [⟨[], text.drop cs.length⟩] else []) ++ [⟨[], text⟩]
  | andThen p q, text =>
    (ways p text).flatMap fun a => (ways q a.rest).map fun b => ⟨a.groups ++ b.groups, b.rest⟩
  | group p, text =>
    (ways p text).map fun a => ⟨text.take (text.length - a.rest.length) :: a.groups, a.rest⟩
  | finish, text => if text.isEmpty then [⟨[], []⟩] else []

/-- The preferred way to match the beginning of a text. -/
def lead (p : Pattern) (text : List Char) : Option Way := (ways p text).head?

/-- The preferred way at the leftmost place that has one. -/
def match? (p : Pattern) (text : List Char) : Option Way :=
  (text.tails.flatMap (ways p)).head?

variable {p q : Pattern} {cs text : List Char}

/-! ### One pattern behind another -/

theorem match?_eq : match? p text = text.tails.findSome? fun rest => lead p rest :=
  List.head?_flatMap

theorem lead_andThen : lead (p.andThen q) text =
    (ways p text).findSome? fun a =>
      (lead q a.rest).map fun b => ⟨a.groups ++ b.groups, b.rest⟩ := by
  rw [lead, ways, List.head?_flatMap]
  simp only [List.head?_map]
  rfl

theorem lead_these : lead ((these cs).andThen q) text =
    if cs.isPrefixOf text then lead q (text.drop cs.length) else none := by
  rw [lead_andThen, ways]
  split
  · rw [List.findSome?_singleton]
    cases lead q (text.drop cs.length) <;> rfl
  · rfl

theorem lead_maybe : lead ((maybe cs).andThen q) text =
    (lead ((these cs).andThen q) text).or (lead q text) := by
  have hways : ways (maybe cs) text = ways (these cs) text ++ [⟨[], text⟩] := rfl
  rw [lead_andThen, hways, List.findSome?_append, ← lead_andThen, List.findSome?_singleton]
  cases lead q text <;> rfl

theorem lead_finish : lead finish text = if text.isEmpty then some ⟨[], []⟩ else none := by
  rw [lead, ways]
  split <;> rfl

/-- The way of a run that has left `rest`, before another. -/
def Way.behind (text rest : List Char) (b : Way) : Way :=
  ⟨text.take (text.length - rest.length) :: b.groups, b.rest⟩

theorem lead_run (greedy : Bool) : lead ((group (run greedy)).andThen q) text =
    (if greedy then text.tails.reverse else text.tails).findSome? fun rest =>
      (lead q rest).map (Way.behind text rest) := by
  rw [lead_andThen, ways, ways, List.findSome?_map, List.findSome?_map]
  rfl

/-! ### Searching -/

/-- A pattern that matches with a text every longer one that ends in it. -/
def Spreads (p : Pattern) : Prop :=
  ∀ ⦃short long : List Char⦄, short <:+ long → (lead p short).isSome → (lead p long).isSome

theorem spreads_run (greedy : Bool) (q : Pattern) : Spreads ((group (run greedy)).andThen q) := by
  intro short long hsuffix hshort
  rw [lead_run, List.findSome?_isSome_iff] at hshort ⊢
  obtain ⟨rest, hrest, hmatch⟩ := hshort
  refine ⟨rest, ?_, by simpa using hmatch⟩
  cases greedy <;> simp only [Bool.false_eq_true, if_true, if_false, List.mem_reverse,
    List.mem_tails] at hrest ⊢ <;> exact hrest.trans hsuffix

/-- Of the places where the needle stands the first is preferred, if what is wanted behind a later
one is there behind an earlier one. -/
theorem findSome?_tails {β : Type} {needle : List Char} (hne : needle ≠ [])
    {f : List Char → Option β}
    (hf : ∀ short long, short <:+ long → (f short).isSome → (f long).isSome) (text : List Char) :
    (text.tails.findSome? fun rest => if needle.isPrefixOf rest then f rest else none) =
      (find? needle text).bind fun i => f (text.drop i) := by
  induction text with
  | nil =>
    cases needle with
    | nil => exact absurd rfl hne
    | cons c cs => rfl
  | cons c cs ih =>
    have hempty : needle.isEmpty = false := by simpa using hne
    rw [List.tails_cons, List.findSome?_cons, ih, find?, hempty, if_neg Bool.false_ne_true]
    by_cases hprefix : needle.isPrefixOf (c :: cs)
    · rw [if_pos hprefix, if_pos hprefix]
      cases hfirst : f (c :: cs) with
      | some b => simp [hfirst]
      | none =>
        -- what is not there behind the first place is there behind no other
        have hnone : ∀ i, f (cs.drop i) = none := by
          intro i
          have hsuffix : cs.drop i <:+ c :: cs := (cs.drop_suffix i).trans (List.suffix_cons c cs)
          simpa [hfirst] using hf _ _ hsuffix
        simp [hfirst, hnone]
    · rw [if_neg hprefix, if_neg hprefix]
      cases find? needle cs <;> rfl

theorem drop_suffix_drop {short long : List Char} (h : short <:+ long) (n : Nat) :
    short.drop n <:+ long.drop n := by
  rw [List.suffix_iff_eq_drop.mp h, List.drop_drop, Nat.add_comm, ← List.drop_drop]
  exact List.drop_suffix _ _

/-- Looking for characters with a pattern behind them that begins with a run. -/
theorem match?_these (hne : cs ≠ []) (hq : Spreads q) :
    match? ((these cs).andThen q) text =
      (find? cs text).bind fun i => lead q (text.drop (i + cs.length)) := by
  rw [match?_eq]
  simp only [lead_these]
  rw [findSome?_tails hne]
  · simp only [List.drop_drop]
  · intro short long hsuffix hshort
    exact hq (drop_suffix_drop hsuffix cs.length) hshort

/-- A run that is as short as possible ends before the first occurrence of what follows it. -/
theorem lead_short (hne : cs ≠ []) (hq : Spreads q) :
    lead ((group (run false)).andThen ((these cs).andThen q)) text =
      (find? cs text).bind fun i =>
        (lead q (text.drop (i + cs.length))).map fun b => ⟨text.take i :: b.groups, b.rest⟩ := by
  have hbehind : ∀ rest, (lead ((these cs).andThen q) rest).map (Way.behind text rest) =
      if cs.isPrefixOf rest then
        (lead q (rest.drop cs.length)).map (Way.behind text rest) else none := by
    intro rest
    rw [lead_these]
    split <;> rfl
  rw [lead_run]
  simp only [Bool.false_eq_true, if_false, hbehind]
  rw [findSome?_tails hne]
  · cases hfind : find? cs text with
    | none => rfl
    | some i =>
      have hle := ((find?_eq_some_iff hne).mp hfind).1.end_le hne
      have htake : text.length - (text.length - i) = i := by omega
      simp only [Option.bind_some, List.drop_drop]
      congr 1
      funext b
      rw [Way.behind, List.length_drop, htake]
  · intro short long hsuffix hshort
    rw [Option.isSome_map] at hshort ⊢
    exact hq (drop_suffix_drop hsuffix cs.length) hshort

/-- Of the members of a list, only one gives something. -/
theorem findSome?_of_one {α β : Type} {l : List α} {f : α → Option β} {a : α} (ha : a ∈ l)
    (hone : ∀ b ∈ l, b ≠ a → f b = none) : l.findSome? f = f a := by
  cases hfa : f a with
  | none =>
    rw [List.findSome?_eq_none_iff]
    intro b hb
    by_cases hba : b = a
    · rw [hba, hfa]
    · exact hone b hb hba
  | some c =>
    obtain ⟨before, after, rfl, hbefore⟩ := List.eq_append_cons_of_mem ha
    rw [List.findSome?_eq_some_iff]
    refine ⟨before, a, after, rfl, hfa, ?_⟩
    intro b hb
    apply hone b (List.mem_append_left _ hb)
    rintro rfl
    exact hbefore hb

/-- A run that is as long as possible, if what follows it can stand in one place only. -/
theorem lead_long {rest : List Char} (hrest : rest <:+ text)
    (hone : ∀ other, other <:+ text → other ≠ rest → lead q other = none) :
    lead ((group (run true)).andThen q) text = (lead q rest).map (Way.behind text rest) := by
  rw [lead_run, if_pos rfl]
  apply findSome?_of_one
  · rwa [List.mem_reverse, List.mem_tails]
  · intro other hother hne
    rw [List.mem_reverse, List.mem_tails] at hother
    rw [hone other hother hne, Option.map_none]

/-- A run before what follows nowhere. -/
theorem lead_long_of_none (hnone : ∀ rest, rest <:+ text → lead q rest = none) :
    lead ((group (run true)).andThen q) text = none := by
  rw [lead_run, if_pos rfl, List.findSome?_eq_none_iff]
  intro rest hrest
  rw [List.mem_reverse, List.mem_tails] at hrest
  rw [hnone rest hrest, Option.map_none]

end Pattern

end CommandAgent.Text
