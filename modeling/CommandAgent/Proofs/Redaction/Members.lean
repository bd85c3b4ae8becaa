import CommandAgent.Proofs.Text.Bounds

/-!
# What redacting shows of a document

Two documents are shown alike, whatever the limit, exactly if they differ in nothing but what stands
under secret keys; and of a document everything else is shown in its place (`redact_hides_exactly`).

Both are said by one relation between documents of the same shape (`Parallel`), which leaves open
how their texts are related and what may stand under secret keys.
-/

namespace CommandAgent.Redaction

open Text (Bounded)

/-! ### Documents of one shape -/

section
variable (text : String → String → Prop) (secret : Json → Json → Prop)

mutual

/-- Two values with the same keys, the same numbers of items in the same order, and the same
numbers, truth values and nulls, where texts are related by `text` and what stands under a secret
key is related by `secret`. -/
inductive Parallel : Json → Json → Prop where
  | null : Parallel .null .null
  | bool (b : Bool) : Parallel (.bool b) (.bool b)
  | number (n : Number) : Parallel (.number n) (.number n)
  | string {s s' : String} : text s s' → Parallel (.string s) (.string s')
  | array {items items' : List Json} : ParallelItems items items' →
    Parallel (.array items) (.array items')
  | object {ms ms' : Members} : ParallelMembers ms ms' → Parallel (.object ms) (.object ms')

/-- Item by item. -/
inductive ParallelItems : List Json → List Json → Prop where
  | nil : ParallelItems [] []
  | cons {j j' : Json} {items items' : List Json} : Parallel j j' → ParallelItems items items' →
    ParallelItems (j :: items) (j' :: items')

/-- Member by member, each with its own key. -/
inductive ParallelMembers : List (String × Json) → List (String × Json) → Prop where
  | nil : ParallelMembers [] []
  | hidden {k : String} {j j' : Json} {ms ms' : Members} : isSecretKey k = true → secret j j' →
    ParallelMembers ms ms' → ParallelMembers ((k, j) :: ms) ((k, j') :: ms')
  | plain {k : String} {j j' : Json} {ms ms' : Members} : isSecretKey k = false → Parallel j j' →
    ParallelMembers ms ms' → ParallelMembers ((k, j) :: ms) ((k, j') :: ms')

end
end

/-- Two documents that differ in nothing but what stands under secret keys. -/
abbrev Alike : Json → Json → Prop := Parallel (· = ·) fun _ _ => True

/-- What is shown of a document within a limit: the mask under each secret key, what the limit
leaves of each other text, and everything else as it is. -/
abbrev Shows (limit : Nat) : Json → Json → Prop :=
  Parallel (Bounded limit) fun _ shown => shown = .string memberMask

/-! ### Redacted documents -/

section
variable (limit : Nat)

mutual

theorem shows_redact : ∀ j : Json, Shows limit j (redact limit j)
  | .null => .null
  | .bool b => .bool b
  | .number n => .number n
  | .string s => .string (bounded_bound limit s)
  | .array items => .array (showsItems_redactItems items)
  | .object ms => .object (showsMembers_redactMembers ms)

theorem showsItems_redactItems : ∀ items : List Json,
    ParallelItems (Bounded limit) (fun _ shown => shown = .string memberMask) items
      (redactItems limit items)
  | [] => .nil
  | j :: items => .cons (shows_redact j) (showsItems_redactItems items)

/-- Redaction keeps the keys and the order; a secret member shows the mask and every other one its
bounded value. -/
theorem showsMembers_redactMembers : ∀ ms : List (String × Json),
    ParallelMembers (Bounded limit) (fun _ shown => shown = .string memberMask) ms
      (redactMembers limit ms)
  | [] => .nil
  | (k, j) :: ms => by
    rw [redactMembers]
    cases hk : isSecretKey k with
    | true =>
      rw [if_pos rfl]
      exact .hidden hk rfl (showsMembers_redactMembers ms)
    | false =>
      rw [if_neg Bool.false_ne_true]
      exact .plain hk (shows_redact j) (showsMembers_redactMembers ms)

end

mutual

/-- What stands under secret keys makes no difference. -/
theorem redact_eq_of_alike : ∀ {j j' : Json}, Alike j j' → redact limit j = redact limit j'
  | _, _, .null => rfl
  | _, _, .bool _ => rfl
  | _, _, .number _ => rfl
  | _, _, .string hs => by rw [hs]
  | _, _, .array h => congrArg Json.array (redactItems_eq_of_alike h)
  | _, _, .object h => congrArg Json.object (redactMembers_eq_of_alike h)

theorem redactItems_eq_of_alike : ∀ {items items' : List Json},
    ParallelItems (· = ·) (fun _ _ => True) items items' →
      redactItems limit items = redactItems limit items'
  | _, _, .nil => rfl
  | _, _, .cons hj hitems => by
    rw [redactItems, redactItems, redact_eq_of_alike hj, redactItems_eq_of_alike hitems]

/-- Members that differ only below secret keys are shown alike. -/
theorem redactMembers_eq_of_alike : ∀ {ms ms' : List (String × Json)},
    ParallelMembers (· = ·) (fun _ _ => True) ms ms' →
      redactMembers limit ms = redactMembers limit ms'
  | _, _, .nil => rfl
  | _, _, .hidden hk _ hms => by
    rw [redactMembers, redactMembers, if_pos hk, if_pos hk, redactMembers_eq_of_alike hms]
  | _, _, .plain _ hj hms => by
    rw [redactMembers, redactMembers, redact_eq_of_alike hj, redactMembers_eq_of_alike hms]

end
end

/-- Texts that are shown alike within every limit are the same. -/
theorem eq_of_bound_eq {s s' : String} (h : ∀ limit, bound limit s = bound limit s') : s = s' := by
  have hboth := h (Text.Utf8.size s + Text.Utf8.size s')
  rwa [bound_of_le (Nat.le_add_right _ _), bound_of_le (Nat.le_add_left _ _)] at hboth

mutual

/-- Nothing else is hidden: what is shown alike within every limit is alike. -/
theorem alike_of_redact_eq : ∀ {j j' : Json}, (∀ limit, redact limit j = redact limit j') →
    Alike j j'
  | .null, j', h => by
    cases j' <;> first | exact .null | cases h 0
  | .bool b, j', h => by
    cases j' <;> first | (cases h 0; exact .bool b) | cases h 0
  | .number n, j', h => by
    cases j' <;> first | (cases h 0; exact .number n) | cases h 0
  | .string s, j', h => by
    cases j' with
    | string s' => exact .string (eq_of_bound_eq fun limit => Json.string.inj (h limit))
    | _ => cases h 0
  | .array items, j', h => by
    cases j' with
    | array items' =>
      exact .array (alikeItems_of_redactItems_eq fun limit => Json.array.inj (h limit))
    | _ => cases h 0
  | .object ms, j', h => by
    cases j' with
    | object ms' =>
      exact .object (alikeMembers_of_redactMembers_eq fun limit => Json.object.inj (h limit))
    | _ => cases h 0

/-- Items that are shown alike for every bound differ only below secret keys. -/
theorem alikeItems_of_redactItems_eq : ∀ {items items' : List Json},
    (∀ limit, redactItems limit items = redactItems limit items') →
      ParallelItems (· = ·) (fun _ _ => True) items items'
  | [], [], _ => .nil
  | [], _ :: _, h => by cases h 0
  | _ :: _, [], h => by cases h 0
  | _ :: _, _ :: _, h =>
    .cons (alike_of_redact_eq fun limit => (List.cons.inj (h limit)).1)
      (alikeItems_of_redactItems_eq fun limit => (List.cons.inj (h limit)).2)

/-- Members that are shown alike for every bound differ only below secret keys. -/
theorem alikeMembers_of_redactMembers_eq : ∀ {ms ms' : List (String × Json)},
    (∀ limit, redactMembers limit ms = redactMembers limit ms') →
      ParallelMembers (· = ·) (fun _ _ => True) ms ms'
  | [], [], _ => .nil
  | [], (_, _) :: _, h => by cases h 0
  | (_, _) :: _, [], h => by cases h 0
  | (k, j) :: ms, (k', j') :: ms', h => by
    have hms := alikeMembers_of_redactMembers_eq fun limit => (List.cons.inj (h limit)).2
    obtain rfl : k = k' := congrArg Prod.fst (List.cons.inj (h 0)).1
    cases hk : isSecretKey k with
    | true => exact .hidden hk trivial hms
    | false =>
      refine .plain hk (alike_of_redact_eq fun limit => ?_) hms
      have hj := congrArg Prod.snd (List.cons.inj (h limit)).1
      simpa only [hk, Bool.false_eq_true, if_false] using hj

end

/-- Two documents are shown alike within every limit exactly if they differ in nothing but what
stands under secret keys, and what is shown of a document is all the rest of it, in its place. -/
theorem redact_hides_exactly (j j' : Json) :
    (Alike j j' ↔ ∀ limit, redact limit j = redact limit j') ∧
      ∀ limit, Shows limit j (redact limit j) :=
  ⟨⟨fun h limit => redact_eq_of_alike limit h, alike_of_redact_eq⟩,
    fun limit => shows_redact limit j⟩

end CommandAgent.Redaction
