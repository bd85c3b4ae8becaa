import CommandAgent.Batch.Output
import CommandAgent.Proofs.Text.Pattern

/-!
# The banner of an output

An output of the mysql client has a banner if it repeats a statement between two rules and ends in a
farewell. `stripBanner` looks for the rules and the farewell one after another. What it takes away
is said by positions (`stripBanner_exactly`), and it is what one pattern with preferences says
(`match?_banner`): rule, as little as possible, line break and rule, as much as possible, farewell.
The farewell cannot reach into a rule, because a rule ends with a line break.
-/

namespace CommandAgent.Output

open Text (FirstAt StandsAt find?)
open Text.Pattern (lead match? lead_these lead_maybe lead_finish lead_short lead_long
  lead_long_of_none match?_these spreads_run)

/-! ### Farewells -/

/-- The words in which an output ends. -/
def farewells : List (List Char) := [['B', 'y', 'e'], ['B', 'y']]

section
variable {text kept farewell other : List Char}

/-- What stands before a farewell is a text that the farewell follows at once. -/
theorem beforeFarewell?_eq_some_iff :
    beforeFarewell? text = some kept ↔ ∃ farewell ∈ farewells, text = kept ++ farewell := by
  constructor
  · intro h
    unfold beforeFarewell? at h
    split at h
    · next back hback =>
      cases h
      refine ⟨['B', 'y', 'e'], by decide, ?_⟩
      rw [← List.reverse_reverse text, hback]
      simp
    · next back hback =>
      cases h
      refine ⟨['B', 'y'], by decide, ?_⟩
      rw [← List.reverse_reverse text, hback]
      simp
    · cases h
  · rintro ⟨farewell, hmem, rfl⟩
    rcases List.mem_pair.mp hmem with rfl | rfl <;> simp [beforeFarewell?]

/-- The pattern of a farewell matches the farewells and nothing else, and leaves nothing. -/
theorem lead_farewell :
    lead (.andThen (.these ['B', 'y']) (.andThen (.maybe ['e']) .finish)) text =
      if text ∈ farewells then some ⟨[], []⟩ else none := by
  rw [lead_these]
  split
  · next hprefix =>
    obtain ⟨rest, rfl⟩ := List.isPrefixOf_iff_prefix.mp hprefix
    show lead (.andThen (.maybe ['e']) .finish) rest = _
    rw [lead_maybe, lead_these, lead_finish, lead_finish]
    cases rest with
    | nil => rfl
    | cons c rest =>
      cases rest with
      | nil =>
        by_cases hc : c = 'e'
        · subst hc
          rfl
        · simp [farewells, List.isPrefixOf, Ne.symm hc, hc]
      | cons d rest => simp [farewells, List.isPrefixOf]
  · next hprefix =>
    rw [if_neg]
    intro hmem
    apply hprefix
    rcases List.mem_pair.mp hmem with rfl | rfl <;> rfl

/-- A text ends in one farewell at most. -/
theorem eq_of_farewells (hfarewell : farewell ∈ farewells) (hother : other ∈ farewells)
    (h : farewell <:+ text) (h' : other <:+ text) : farewell = other := by
  have hall : ∀ a ∈ farewells, ∀ b ∈ farewells, a <:+ b → a = b := by decide
  rcases List.suffix_or_suffix_of_suffix h h' with hsuffix | hsuffix
  · exact hall farewell hfarewell other hother hsuffix
  · exact (hall other hother farewell hfarewell hsuffix).symm

/-- As much as possible before the farewell: all that stands before it. -/
theorem lead_kept :
    lead (.andThen (.group (.run true))
        (.andThen (.these ['B', 'y']) (.andThen (.maybe ['e']) .finish))) text =
      (beforeFarewell? text).map fun kept => ⟨[kept], []⟩ := by
  cases hkept : beforeFarewell? text with
  | none =>
    apply lead_long_of_none
    rintro rest ⟨before, rfl⟩
    rw [lead_farewell, if_neg]
    intro hrest
    have hsome : beforeFarewell? (before ++ rest) = some before :=
      beforeFarewell?_eq_some_iff.mpr ⟨rest, hrest, rfl⟩
    rw [hkept] at hsome
    cases hsome
  | some kept =>
    obtain ⟨farewell, hfarewell, rfl⟩ := beforeFarewell?_eq_some_iff.mp hkept
    rw [lead_long (List.suffix_append kept farewell), lead_farewell, if_pos hfarewell]
    · simp [Text.Pattern.Way.behind]
    · intro rest hrest hne
      rw [lead_farewell, if_neg]
      intro hmem
      exact hne (eq_of_farewells hmem hfarewell hrest (List.suffix_append kept farewell))

end

/-! ### The pattern -/

/-- The pattern of a banner: two rules with a statement between them, and a farewell at the end. Its
second group is the output. -/
def bannerPattern : Text.Pattern :=
  .andThen (.these rule) <| .andThen (.group (.run false)) <| .andThen (.these ('\n' :: rule)) <|
    .andThen (.group (.run true)) <| .andThen (.these ['B', 'y']) <| .andThen (.maybe ['e']) .finish

theorem rule_ne_nil : rule ≠ [] := by decide

/-- Looking for the rules and the farewell one after another finds what the pattern prefers. -/
theorem match?_banner (text : List Char) :
    ((match? bannerPattern text).map fun way => way.groups[1]?.getD []) = withoutBanner? text := by
  rw [bannerPattern, match?_these rule_ne_nil (spreads_run _ _)]
  simp only [lead_short (List.cons_ne_nil _ _) (spreads_run _ _), lead_kept]
  unfold withoutBanner? behind?
  cases find? rule text with
  | none => rfl
  | some i =>
    simp only [Option.bind_some, Option.map_some, Option.bind_eq_bind]
    cases find? ('\n' :: rule) (text.drop (i + rule.length)) with
    | none => rfl
    | some j =>
      simp only [Option.bind_some, Option.map_some]
      cases beforeFarewell? _ <;> rfl

/-! ### What is taken away -/

/-- The first rule of a text, and behind it the first that begins a line, end at `stop`. -/
def Repeats (text : List Char) (stop : Nat) : Prop :=
  ∃ i j, FirstAt rule text i ∧ FirstAt ('\n' :: rule) (text.drop (i + rule.length)) j ∧
    stop = i + rule.length + (j + ('\n' :: rule).length)

section
variable {text kept farewell : List Char} {stop : Nat}

theorem behind?_eq_some_iff {needle cs rest : List Char} (hne : needle ≠ []) :
    behind? needle cs = some rest ↔
      ∃ i, FirstAt needle cs i ∧ rest = cs.drop (i + needle.length) := by
  rw [behind?, Option.map_eq_some_iff]
  simp only [Text.find?_eq_some_iff hne, eq_comm]

/-- What is kept stands between the second rule and a farewell at the end. -/
theorem withoutBanner?_eq_some_iff :
    withoutBanner? text = some kept ↔
      ∃ stop farewell, Repeats text stop ∧ farewell ∈ farewells ∧
        text.drop stop = kept ++ farewell := by
  unfold withoutBanner?
  simp only [Option.bind_eq_bind, Option.bind_eq_some_iff, behind?_eq_some_iff rule_ne_nil,
    behind?_eq_some_iff (List.cons_ne_nil '\n' rule), beforeFarewell?_eq_some_iff]
  constructor
  · rintro ⟨_, ⟨i, hi, rfl⟩, _, ⟨j, hj, rfl⟩, farewell, hfarewell, hrest⟩
    rw [List.drop_drop] at hrest
    exact ⟨_, farewell, ⟨i, j, hi, hj, rfl⟩, hfarewell, hrest⟩
  · rintro ⟨_, farewell, ⟨i, j, hi, hj, rfl⟩, hfarewell, hrest⟩
    refine ⟨_, ⟨i, hi, rfl⟩, _, ⟨j, hj, rfl⟩, farewell, hfarewell, ?_⟩
    rw [List.drop_drop]
    exact hrest

/-- The second rule ends with its line. -/
theorem Repeats.exists_take (h : Repeats text stop) :
    ∃ before, text.take stop = before ++ ['\n'] := by
  obtain ⟨i, j, -, hj, rfl⟩ := h
  generalize i + rule.length = start at hj ⊢
  have hrule : ('\n' :: rule) = ('\n' :: rule.dropLast) ++ ['\n'] := by decide
  have hstands : ((text.drop start).drop j).take ('\n' :: rule).length = '\n' :: rule :=
    (List.prefix_iff_eq_take.mp hj.1).symm
  rw [List.take_add, List.take_add, hstands, hrule, ← List.append_assoc, ← List.append_assoc]
  exact ⟨_, rfl⟩

/-- A farewell at the end of the text stands behind the rules. -/
theorem Repeats.farewell_suffix (h : Repeats text stop) (hfarewell : farewell ∈ farewells)
    (hend : farewell <:+ text) : farewell <:+ text.drop stop := by
  rcases List.suffix_or_suffix_of_suffix hend (List.drop_suffix stop text) with hsuffix | hsuffix
  · exact hsuffix
  · -- a farewell that began before the end of the rules would hold the line break there
    obtain ⟨before, hbefore⟩ := h.exists_take
    obtain ⟨more, rfl⟩ := hsuffix
    obtain ⟨front, hfront⟩ := hend
    have hcut : front ++ more = before ++ ['\n'] := by
      have hsame : (front ++ more) ++ text.drop stop = text.take stop ++ text.drop stop := by
        rw [List.append_assoc, hfront, List.take_append_drop]
      rw [← hbefore]
      exact List.append_cancel_right hsame
    cases hmore : more.getLast? with
    | none =>
      rw [List.getLast?_eq_none_iff.mp hmore]
      exact List.suffix_refl _
    | some c =>
      have hlast := congrArg List.getLast? hcut
      rw [List.getLast?_append, hmore, List.getLast?_concat] at hlast
      obtain rfl : c = '\n' := Option.some.inj hlast
      have hall : ∀ a ∈ farewells, '\n' ∉ a := by decide
      exact absurd (List.mem_append_left _ (List.mem_of_getLast? hmore)) (hall _ hfarewell)

end

/-- The output without what the pattern of a banner matches around its second group. -/
def stripMatched (output : String) : String :=
  match match? bannerPattern (Text.dropTrailingBlanks output.toList) with
  | some way => String.ofList (way.groups[1]?.getD [])
  | none => output

/-- What is taken away of an output, trailing blanks aside: if it ends in a farewell and has a rule,
and behind that another that begins a line, then all up to the end of that second rule, and the
farewell. Of any other output nothing is taken away. That is what the pattern of a banner says. -/
theorem stripBanner_exactly (output : String) :
    (∀ stop farewell, Repeats (Text.dropTrailingBlanks output.toList) stop →
      farewell ∈ farewells → farewell <:+ Text.dropTrailingBlanks output.toList →
      ∃ kept, Text.dropTrailingBlanks output.toList =
          (Text.dropTrailingBlanks output.toList).take stop ++ kept ++ farewell ∧
        stripBanner output = String.ofList kept) ∧
    ((∀ stop farewell, Repeats (Text.dropTrailingBlanks output.toList) stop →
        farewell ∈ farewells → ¬ farewell <:+ Text.dropTrailingBlanks output.toList) →
      stripBanner output = output) ∧
    stripBanner output = stripMatched output := by
  unfold stripBanner stripMatched
  generalize Text.dropTrailingBlanks output.toList = text
  refine ⟨?_, ?_, ?_⟩
  · intro stop farewell hstop hfarewell hend
    obtain ⟨kept, hkept⟩ := hstop.farewell_suffix hfarewell hend
    refine ⟨kept, ?_, ?_⟩
    · rw [List.append_assoc, hkept, List.take_append_drop]
    · rw [withoutBanner?_eq_some_iff.mpr ⟨stop, farewell, hstop, hfarewell, hkept.symm⟩]
  · intro hnot
    cases hkept : withoutBanner? text with
    | none => rfl
    | some kept =>
      obtain ⟨stop, farewell, hstop, hfarewell, hrest⟩ := withoutBanner?_eq_some_iff.mp hkept
      refine absurd ?_ (hnot stop farewell hstop hfarewell)
      exact (hrest ▸ List.suffix_append kept farewell).trans (List.drop_suffix stop text)
  · rw [← match?_banner]
    cases match? bannerPattern text <;> rfl

/-- An output that begins before its banner, with a first rule that is longer than it need be, and
shows a farewell and a rule among its lines. -/
def repeated : String :=
  "$\n----------------\nselect 1\n--------------\nBye\n--------------\n| By |\nBye\n"

/-- The later rules and farewells of `repeated` stay. -/
theorem stripBanner_exactly_repeated :
    Repeats (Text.dropTrailingBlanks repeated.toList) 43 ∧
      ['B', 'y', 'e'] <:+ Text.dropTrailingBlanks repeated.toList ∧
      ∃ kept, Text.dropTrailingBlanks repeated.toList =
          (Text.dropTrailingBlanks repeated.toList).take 43 ++ kept ++ ['B', 'y', 'e'] ∧
        stripBanner repeated = String.ofList kept := by
  have hfirst : FirstAt rule (Text.dropTrailingBlanks repeated.toList) 4 :=
    (Text.find?_eq_some_iff rule_ne_nil).mp (by decide)
  have hsecond : FirstAt ('\n' :: rule)
      ((Text.dropTrailingBlanks repeated.toList).drop (4 + rule.length)) 8 :=
    (Text.find?_eq_some_iff (List.cons_ne_nil _ _)).mp (by decide)
  have hrules : Repeats (Text.dropTrailingBlanks repeated.toList) 43 :=
    ⟨4, 8, hfirst, hsecond, by decide⟩
  have hend : ['B', 'y', 'e'] <:+ Text.dropTrailingBlanks repeated.toList := by decide
  exact ⟨hrules, hend,
    (stripBanner_exactly repeated).1 43 ['B', 'y', 'e'] hrules (by decide) hend⟩

/-- Two rules with no line between them are no banner. -/
example : stripBanner "--------------\n--------------\n1\nBye" =
    "--------------\n--------------\n1\nBye" := by decide

end CommandAgent.Output
