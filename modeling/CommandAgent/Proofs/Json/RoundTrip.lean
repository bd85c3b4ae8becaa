import CommandAgent.Proofs.Json.Entries
import CommandAgent.Proofs.Json.Nulls
import CommandAgent.Proofs.Json.Spelling

/-!
# Documents are read as they were written

The compact text of a canonical value reads as the value (`parse_render`), if its numbers are
integers of 64 bits and it is not nested too deep (`Writable`). The reader is followed along the
text: it finds an item or a member behind what stands before it, reads it, and goes on with the
others (`items_complete`, `members_complete`).
-/

namespace CommandAgent.Json

open Grammar Text.Utf8

/-! ### Values that can be written -/

mutual

/-- The numbers are integers of 64 bits, and the value may stand in arrays and objects that leave
so much room. -/
def Writable : (room : Nat) → Json → Prop
  | _, .number (.integer n) => -(Nat.pow 2 63 : Int) ≤ n ∧ n ≤ maxWord
  | _, .number (.double _) => False
  | room, .array items => 1 < room ∧ WritableItems (room - 1) items
  | room, .object ms => 1 < room ∧ WritableMembers (room - 1) ms
  | _, _ => True

def WritableItems : (room : Nat) → List Json → Prop
  | _, [] => True
  | room, j :: rest => Writable room j ∧ WritableItems room rest

def WritableMembers : (room : Nat) → List (String × Json) → Prop
  | _, [] => True
  | room, (_, j) :: rest => Writable room j ∧ WritableMembers room rest

end

theorem writableItems_iff {room : Nat} {items : List Json} :
    WritableItems room items ↔ ∀ j ∈ items, Writable room j := by
  induction items with
  | nil => simp [WritableItems]
  | cons j items ih => simp [WritableItems, ih]

theorem writableMembers_iff {room : Nat} {ms : Members} :
    WritableMembers room ms ↔ ∀ m ∈ ms, Writable room m.2 := by
  induction ms with
  | nil => simp [WritableMembers]
  | cons m ms ih =>
    obtain ⟨k, j⟩ := m
    simp [WritableMembers, ih]

/-! ### Members in order -/

/-- A member whose key is above all others is put at the end. -/
theorem insertMember_of_gt {key : String} {v : Json} {ms : Members} (h : ∀ m ∈ ms, m.1 < key) :
    insertMember key v ms = ms ++ [(key, v)] := by
  induction ms with
  | nil => rfl
  | cons m ms ih =>
    obtain ⟨k, w⟩ := m
    obtain ⟨hk, hms⟩ := List.forall_mem_cons.mp h
    have hlt : ¬ key < k := fun hlt => String.lt_irrefl key (String.lt_trans hlt hk)
    have hne : ¬ key = k := (String.ne_of_lt hk).symm
    rw [insertMember, if_neg hlt, if_neg hne, ih hms, List.cons_append]

/-- Members that are given in the order of their keys stay as they are. -/
theorem ofMembers_of_sorted {ms : Members} (h : KeysSorted ms) : ofMembers ms = .object ms := by
  have hfold : ∀ (todo done : Members), KeysSorted (done ++ todo) →
      todo.foldl (fun acc m => insertMember m.1 m.2 acc) done = done ++ todo := by
    intro todo
    induction todo with
    | nil =>
      intro done _
      exact (List.append_nil done).symm
    | cons m todo ih =>
      intro done hsorted
      have hdone : ∀ m' ∈ done, m'.1 < m.1 := by
        intro m' hm'
        exact (List.pairwise_append.mp hsorted).2.2 m' hm' m List.mem_cons_self
      rw [List.foldl_cons, insertMember_of_gt hdone, ih, List.append_assoc, List.singleton_append]
      rw [List.append_assoc, List.singleton_append]
      exact hsorted
  rw [ofMembers, hfold ms [] h, List.nil_append]

/-! ### Texts -/

/-- The bytes of a value's compact text. -/
def text (j : Json) : Bytes := bytesOf j.renderChars

theorem encode_render (j : Json) : encode j.render = j.text := by
  rw [encode, render, String.toList_ofList]
  rfl

/-- The text of an integer. -/
theorem text_int (n : Int) :
    text (.number (.integer n)) =
      if 0 ≤ n then decimal n.toNat else code '-' :: decimal (-n).toNat := by
  show bytesOf (toString n).toList = _
  split
  · next hn =>
    obtain ⟨m, rfl⟩ := Int.eq_ofNat_of_zero_le hn
    exact bytesOf_toString_nat m
  · next hn =>
    obtain ⟨m, rfl⟩ := Int.eq_negSucc_of_lt_zero (Int.not_le.mp hn)
    have htext : (toString (Int.negSucc m)).toList = '-' :: (toString (m + 1)).toList := by
      have happend : toString (Int.negSucc m) = "-" ++ toString (m + 1) := rfl
      rw [happend, String.toList_append]
      rfl
    rw [htext, bytesOf_cons_ascii (by decide), bytesOf_toString_nat]
    rfl

theorem text_string (s : String) : text (.string s) = code '"' :: (inside s ++ [code '"']) :=
  bytesOf_renderString s

/-- The bytes of the items of an array. -/
def itemsText (first : Bool) (items : List Json) : Bytes := bytesOf (renderItems first items)

def membersText (first : Bool) (ms : Members) : Bytes := bytesOf (renderMembers first ms)

theorem text_array (items : List Json) :
    text (.array items) = code '[' :: (itemsText true items ++ [code ']']) := by
  rw [text, renderChars, List.cons_append, bytesOf_cons_ascii (by decide), bytesOf_append]
  rfl

theorem text_object (ms : Members) :
    text (.object ms) = code '\x7b' :: (membersText true ms ++ [code '\x7d']) := by
  rw [text, renderChars, List.cons_append, bytesOf_cons_ascii (by decide), bytesOf_append]
  rfl

/-- The comma before an entry that is not the first. -/
def comma (first : Bool) : Bytes := if first then [] else [code ',']

theorem before_comma (first : Bool) : Before first (comma first) := by
  cases first with
  | true => exact .first
  | false => exact .comma blanks_nil

theorem bytesOf_comma (first : Bool) : bytesOf (if first then [] else [',']) = comma first := by
  cases first <;> rfl

theorem itemsText_cons (first : Bool) (j : Json) (items : List Json) :
    itemsText first (j :: items) = comma first ++ (text j ++ itemsText false items) := by
  rw [itemsText, renderItems, bytesOf_append, bytesOf_append, bytesOf_comma, List.append_assoc]
  rfl

theorem membersText_cons (first : Bool) (k : String) (j : Json) (ms : Members) :
    membersText first ((k, j) :: ms) =
      comma first ++ (code '"' :: (inside k ++ code '"' :: (code ':' ::
        (text j ++ membersText false ms)))) := by
  rw [membersText, renderMembers, bytesOf_append, bytesOf_append, bytesOf_append, bytesOf_comma,
    bytesOf_renderString, bytesOf_cons_ascii (by decide)]
  simp [text, membersText]

/-- A text begins with a byte that is no blank and closes no frame. -/
theorem begins_text {room : Nat} {j : Json} (h : Writable room j) : Begins (text j) := by
  cases j with
  | null => exact begins_cons (by decide) (by decide) (by decide) _
  | bool b => cases b <;> exact begins_cons (by decide) (by decide) (by decide) _
  | number n =>
    cases n with
    | integer n =>
      rw [text_int]
      split
      · cases hd : decimal n.toNat with
        | nil => exact absurd hd (decimal_ne_nil _)
        | cons b t =>
          apply begins_digit
          apply isDigit_of_mem_decimal (n := n.toNat)
          rw [hd]
          exact List.mem_cons_self
      · exact begins_cons (by decide) (by decide) (by decide) _
    | double x => exact absurd h not_false
  | string s =>
    rw [text_string]
    exact begins_cons (by decide) (by decide) (by decide) _
  | array items =>
    rw [text_array]
    exact begins_cons (by decide) (by decide) (by decide) _
  | object ms =>
    rw [text_object]
    exact begins_cons (by decide) (by decide) (by decide) _

/-! ### Reading the entries -/

theorem unnumbered_itemsText (items : List Json) (r : Bytes) :
    Unnumbered (itemsText false items ++ code ']' :: r) := by
  cases items with
  | nil => exact headless_cons (by decide) r
  | cons j items =>
    rw [itemsText_cons]
    exact headless_cons (by decide) _

theorem unnumbered_membersText (ms : Members) (r : Bytes) :
    Unnumbered (membersText false ms ++ code '\x7d' :: r) := by
  cases ms with
  | nil => exact headless_cons (by decide) r
  | cons m ms =>
    rw [membersText_cons]
    exact headless_cons (by decide) _

/-- A reader takes the text of a value, wherever a value may end. -/
def Takes (item : Cursor → Except Fault (Json × Cursor)) (j : Json) : Prop :=
  ∀ r, Unnumbered r → ∀ i, ∃ k, item ⟨i, text j ++ r⟩ = .ok (j, ⟨k, r⟩)

section
variable {item : Cursor → Except Fault (Json × Cursor)}

/-- Items that are each taken are read one after another. -/
theorem items_complete {xs : List Json} (hitem : ∀ j ∈ xs, Takes item j)
    (hbegins : ∀ j ∈ xs, Begins (text j)) {fuel : Nat} (hfuel : xs.length < fuel) (first : Bool)
    (r : Bytes) (i : Nat) :
    ∃ k, items item fuel first ⟨i, itemsText first xs ++ code ']' :: r⟩ =
      .ok (xs, ⟨k, code ']' :: r⟩) := by
  -- on the items: each uses one unit of fuel, and only the first has no comma
  induction xs generalizing fuel first i with
  | nil =>
    cases fuel with
    | zero => omega
    | succ fuel =>
      obtain ⟨k, hk⟩ := hasItem_end blanks_nil first r i
      have hk : hasItem first ⟨i, itemsText first [] ++ code ']' :: r⟩ = _ := hk
      refine ⟨k, ?_⟩
      rw [items, hk]
      rfl
  | cons j xs ih =>
    cases fuel with
    | zero => omega
    | succ fuel =>
      obtain ⟨hj, hxs⟩ := List.forall_mem_cons.mp hitem
      obtain ⟨hfirst, hothers⟩ := List.forall_mem_cons.mp hbegins
      obtain ⟨k, hk⟩ := hasItem_more (before_comma first) blanks_nil
        (hfirst.append (itemsText false xs ++ code ']' :: r)) i
      obtain ⟨l, hl⟩ := hj _ (unnumbered_itemsText xs r) k
      obtain ⟨m, hm⟩ := ih hxs hothers (Nat.lt_of_succ_lt_succ hfuel) false l
      refine ⟨m, ?_⟩
      rw [List.nil_append] at hk
      rw [itemsText_cons, List.append_assoc, List.append_assoc, items, hk]
      simp only [bind, Except.bind, if_true, hl, hm]
      rfl

/-- Members whose values are each taken are read one after another. -/
theorem members_complete {ms : Members} (hitem : ∀ m ∈ ms, Takes item m.2) {fuel : Nat}
    (hfuel : ms.length < fuel) (first : Bool) (r : Bytes) (i : Nat) :
    ∃ k, members item fuel first ⟨i, membersText first ms ++ code '\x7d' :: r⟩ =
      .ok (ms, ⟨k, code '\x7d' :: r⟩) := by
  -- on the members, as for the items of an array
  induction ms generalizing fuel first i with
  | nil =>
    cases fuel with
    | zero => omega
    | succ fuel =>
      obtain ⟨k, hk⟩ := hasKey_end blanks_nil first r i
      have hk : hasKey first ⟨i, membersText first [] ++ code '\x7d' :: r⟩ = _ := hk
      refine ⟨k, ?_⟩
      rw [members, hk]
      rfl
  | cons m ms ih =>
    obtain ⟨key, j⟩ := m
    cases fuel with
    | zero => omega
    | succ fuel =>
      obtain ⟨hj, hms⟩ := List.forall_mem_cons.mp hitem
      have hj : Takes item j := hj
      -- the text behind the value, behind the colon and behind the key
      let behind := membersText false ms ++ code '\x7d' :: r
      obtain ⟨a, ha⟩ := hasKey_more (before_comma first) blanks_nil
        (inside key ++ code '"' :: (code ':' :: (text j ++ behind))) i
      obtain ⟨b, hb⟩ := stringTail_complete (reads_inside key) (code ':' :: (text j ++ behind))
        (a + 1)
      obtain ⟨c, hc⟩ := colon_complete blanks_nil (text j ++ behind) b
      obtain ⟨d, hd⟩ := hj _ (unnumbered_membersText ms r) c
      obtain ⟨e, he⟩ := ih hms (Nat.lt_of_succ_lt_succ hfuel) false d
      have hsplit : membersText first ((key, j) :: ms) ++ code '\x7d' :: r =
          comma first ++ ([] ++ code '"' :: (inside key ++ code '"' ::
            (code ':' :: (text j ++ behind)))) := by
        rw [membersText_cons]
        simp [behind]
      rw [List.nil_append] at hc
      refine ⟨e, ?_⟩
      rw [hsplit, members, ha]
      simp only [bind, Except.bind, if_true, Cursor.advance_cons, hb, hc]
      rw [hd]
      simp only [he]
      rfl

end

/-! ### Reading values -/

theorem skipBlanks_of_not_blank {b : UInt8} (hb : isJsonBlank b = false) (t : Bytes) (i : Nat) :
    skipBlanks ⟨i, b :: t⟩ = ⟨i, b :: t⟩ := by
  have hnot : ¬ isJsonBlank b = true := by rw [hb]; exact Bool.false_ne_true
  rw [skipBlanks, skipBlanks.go, if_neg hnot]

section
variable {fuel room : Nat} (r : Bytes) (i : Nat)

theorem value_null : ∃ k, value (fuel + 1) room ⟨i, text .null ++ r⟩ = .ok (.null, ⟨k, r⟩) := by
  have htext : text .null ++ r = code 'n' :: (letters ['u', 'l', 'l'] ++ r) := rfl
  have hskip := skipBlanks_of_not_blank (by decide : isJsonBlank (code 'n') = false)
    (letters ['u', 'l', 'l'] ++ r) i
  obtain ⟨k, hk⟩ := word_complete ['u', 'l', 'l'] (i + 1) r
  refine ⟨k, ?_⟩
  rw [htext, value]
  simp only [hskip, if_true, Cursor.advance_cons, hk]
  rfl

/-- The word for a truth value is read back. -/
theorem value_bool (b : Bool) :
    ∃ k, value (fuel + 1) room ⟨i, text (.bool b) ++ r⟩ = .ok (.bool b, ⟨k, r⟩) := by
  cases b with
  | true =>
    have htext : text (.bool true) ++ r = code 't' :: (letters ['r', 'u', 'e'] ++ r) := rfl
    have hskip := skipBlanks_of_not_blank (by decide : isJsonBlank (code 't') = false)
      (letters ['r', 'u', 'e'] ++ r) i
    have hn : ¬ code 't' = code 'n' := by decide
    obtain ⟨k, hk⟩ := word_complete ['r', 'u', 'e'] (i + 1) r
    refine ⟨k, ?_⟩
    rw [htext, value]
    simp only [hskip, hn, if_false, if_true, Cursor.advance_cons, hk]
    rfl
  | false =>
    have htext : text (.bool false) ++ r = code 'f' :: (letters ['a', 'l', 's', 'e'] ++ r) := rfl
    have hskip := skipBlanks_of_not_blank (by decide : isJsonBlank (code 'f') = false)
      (letters ['a', 'l', 's', 'e'] ++ r) i
    have hn : ¬ code 'f' = code 'n' := by decide
    have ht : ¬ code 'f' = code 't' := by decide
    obtain ⟨k, hk⟩ := word_complete ['a', 'l', 's', 'e'] (i + 1) r
    refine ⟨k, ?_⟩
    rw [htext, value]
    simp only [hskip, hn, ht, if_false, if_true, Cursor.advance_cons, hk]
    rfl

/-- The text of a string is read back. -/
theorem value_string (s : String) :
    ∃ k, value (fuel + 1) room ⟨i, text (.string s) ++ r⟩ = .ok (.string s, ⟨k, r⟩) := by
  have htext : text (.string s) ++ r = code '"' :: (inside s ++ code '"' :: r) := by
    rw [text_string, List.cons_append, List.append_assoc, List.singleton_append]
  have hskip := skipBlanks_of_not_blank (by decide : isJsonBlank (code '"') = false)
    (inside s ++ code '"' :: r) i
  have hn : ¬ code '"' = code 'n' := by decide
  have ht : ¬ code '"' = code 't' := by decide
  have hf : ¬ code '"' = code 'f' := by decide
  have hminus : ¬ code '"' = code '-' := by decide
  have hdigit : isDigit (code '"') = false := by decide
  obtain ⟨k, hk⟩ := stringTail_complete (reads_inside s) r (i + 1)
  refine ⟨k, ?_⟩
  rw [htext, value]
  simp only [hskip, hn, ht, hf, hminus, hdigit, Bool.false_eq_true, if_false, if_true,
    Cursor.advance_cons, hk]
  rfl

/-- An integer of 64 bits, with its sign in front or without one. -/
theorem value_int {n : Int} (hlow : -(Nat.pow 2 63 : Int) ≤ n) (hhigh : n ≤ maxWord)
    (hr : Unnumbered r) :
    ∃ k, value (fuel + 1) room ⟨i, text (.number (.integer n)) ++ r⟩ =
      .ok (.number (.integer n), ⟨k, r⟩) := by
  rw [text_int]
  by_cases hsign : 0 ≤ n
  · obtain ⟨m, rfl⟩ := Int.eq_ofNat_of_zero_le hsign
    obtain ⟨k, hk⟩ := numberTail_decimal (n := m) (Int.ofNat_le.mp hhigh) hr false i
    have htoNat : (m : Int).toNat = m := rfl
    rw [if_pos hsign, htoNat]
    cases hd : decimal m with
    | nil => exact absurd hd (decimal_ne_nil m)
    | cons b t =>
      have hb : isDigit b = true := isDigit_of_mem_decimal (n := m) (by rw [hd]; exact .head _)
      have hblank : isJsonBlank b = false := by
        obtain ⟨b', u, heq, hblank, -⟩ := begins_digit hb t
        cases heq
        exact hblank
      have hskip := skipBlanks_of_not_blank hblank (t ++ r) i
      have hn : b ≠ code 'n' := ne_of_isDigit hb (by decide)
      have ht : b ≠ code 't' := ne_of_isDigit hb (by decide)
      have hf : b ≠ code 'f' := ne_of_isDigit hb (by decide)
      have hminus : b ≠ code '-' := ne_of_isDigit hb (by decide)
      rw [hd, List.cons_append] at hk
      refine ⟨k, ?_⟩
      rw [List.cons_append, value]
      simp only [hskip, hn, ht, hf, hminus, hb, if_false, if_true, hk]
      rfl
  · have hm : (-n).toNat ≤ maxWord := by
      have hword : Nat.pow 2 63 ≤ maxWord := by decide
      omega
    obtain ⟨k, hk⟩ := numberTail_decimal hm hr true (i + 1)
    have hfits : (-n).toNat ≠ 0 ∧ (-n).toNat ≤ Nat.pow 2 63 := by omega
    have hvalue : -((-n).toNat : Int) = n := by omega
    have hskip := skipBlanks_of_not_blank (by decide : isJsonBlank (code '-') = false)
      (decimal (-n).toNat ++ r) i
    have hn : ¬ code '-' = code 'n' := by decide
    have ht : ¬ code '-' = code 't' := by decide
    have hf : ¬ code '-' = code 'f' := by decide
    rw [if_neg (by decide), if_pos hfits, hvalue] at hk
    refine ⟨k, ?_⟩
    rw [if_neg hsign, List.cons_append, value]
    simp only [hskip, hn, ht, hf, if_false, if_true, Cursor.advance_cons, hk]
    rfl

end

/-! ### Lengths -/

/-- The text of an array is at least as long as that of each item. -/
theorem length_text_le_itemsText (first : Bool) {items : List Json} {j : Json} (hj : j ∈ items) :
    (text j).length ≤ (itemsText first items).length := by
  induction items generalizing first with
  | nil => cases hj
  | cons x items ih =>
    rw [itemsText_cons]
    simp only [List.length_append]
    rcases List.mem_cons.mp hj with rfl | hj
    · omega
    · have hle := ih false hj
      omega

theorem length_text_le_membersText (first : Bool) {ms : Members} {m : String × Json}
    (hm : m ∈ ms) : (text m.2).length ≤ (membersText first ms).length := by
  induction ms generalizing first with
  | nil => cases hm
  | cons x ms ih =>
    obtain ⟨k, j⟩ := x
    rw [membersText_cons]
    simp only [List.length_append, List.length_cons]
    rcases List.mem_cons.mp hm with rfl | hm
    · show (text j).length ≤ _
      omega
    · have hle := ih false hm
      omega

/-- Each item of an array takes a byte at least. -/
theorem length_le_itemsText (first : Bool) {items : List Json}
    (h : ∀ j ∈ items, Begins (text j)) : items.length ≤ (itemsText first items).length := by
  induction items generalizing first with
  | nil => exact Nat.zero_le _
  | cons j items ih =>
    obtain ⟨hj, hitems⟩ := List.forall_mem_cons.mp h
    obtain ⟨b, u, hb, -⟩ := hj
    have hle := ih false hitems
    rw [itemsText_cons, hb]
    simp only [List.length_append, List.length_cons]
    omega

theorem length_le_membersText (first : Bool) (ms : Members) :
    ms.length ≤ (membersText first ms).length := by
  induction ms generalizing first with
  | nil => exact Nat.zero_le _
  | cons m ms ih =>
    obtain ⟨k, j⟩ := m
    have hle := ih false
    rw [membersText_cons]
    simp only [List.length_append, List.length_cons]
    omega

/-! ### Round trips -/

section
variable {fuel room : Nat} (r : Bytes) (i : Nat)

/-- An array is read if its items are taken. -/
theorem value_array {items : List Json} (hroom : 1 < room)
    (htakes : ∀ j ∈ items, Takes (value fuel (room - 1)) j) (hbegins : ∀ j ∈ items, Begins (text j))
    (hcount : items.length < fuel + 1) :
    ∃ k, value (fuel + 1) room ⟨i, text (.array items) ++ r⟩ = .ok (.array items, ⟨k, r⟩) := by
  obtain ⟨k, hk⟩ := items_complete htakes hbegins hcount true r (i + 1)
  obtain ⟨l, hl⟩ := closeArray_complete blanks_nil r k
  rw [List.nil_append] at hl
  have hskip := skipBlanks_of_not_blank (by decide : isJsonBlank (code '[') = false)
    (itemsText true items ++ code ']' :: r) i
  have hn : ¬ code '[' = code 'n' := by decide
  have ht : ¬ code '[' = code 't' := by decide
  have hf : ¬ code '[' = code 'f' := by decide
  have hminus : ¬ code '[' = code '-' := by decide
  have hdigit : isDigit (code '[') = false := by decide
  have hquote : ¬ code '[' = code '"' := by decide
  have hmore : ¬ room ≤ 1 := Nat.not_le.mpr hroom
  refine ⟨l, ?_⟩
  rw [text_array, List.cons_append, List.append_assoc, List.singleton_append, value]
  simp only [hskip, hn, ht, hf, hminus, hdigit, hquote, hmore, Bool.false_eq_true, if_false,
    if_true, Cursor.advance_cons, bind, Except.bind, hk, hl]
  rfl

/-- An object is read if the values of its members are taken and their names are sorted. -/
theorem value_object {ms : Members} (hroom : 1 < room) (hsorted : KeysSorted ms)
    (htakes : ∀ m ∈ ms, Takes (value fuel (room - 1)) m.2) (hcount : ms.length < fuel + 1) :
    ∃ k, value (fuel + 1) room ⟨i, text (.object ms) ++ r⟩ = .ok (.object ms, ⟨k, r⟩) := by
  obtain ⟨k, hk⟩ := members_complete htakes hcount true r (i + 1)
  obtain ⟨l, hl⟩ := closeObject_complete blanks_nil r k
  rw [List.nil_append] at hl
  have hskip := skipBlanks_of_not_blank (by decide : isJsonBlank (code '\x7b') = false)
    (membersText true ms ++ code '\x7d' :: r) i
  have hn : ¬ code '\x7b' = code 'n' := by decide
  have ht : ¬ code '\x7b' = code 't' := by decide
  have hf : ¬ code '\x7b' = code 'f' := by decide
  have hminus : ¬ code '\x7b' = code '-' := by decide
  have hdigit : isDigit (code '\x7b') = false := by decide
  have hquote : ¬ code '\x7b' = code '"' := by decide
  have hbracket : ¬ code '\x7b' = code '[' := by decide
  have hmore : ¬ room ≤ 1 := Nat.not_le.mpr hroom
  refine ⟨l, ?_⟩
  rw [text_object, List.cons_append, List.append_assoc, List.singleton_append, value]
  simp only [hskip, hn, ht, hf, hminus, hdigit, hquote, hbracket, hmore, Bool.false_eq_true,
    if_false, if_true, Cursor.advance_cons, bind, Except.bind, hk, hl,
    ofMembers_of_sorted hsorted]
  rfl

end

/-- The reader takes the text of a writable value. -/
theorem takes_value {fuel room : Nat} {j : Json} (hcanonical : Canonical j)
    (hwritable : Writable room j) (hfuel : (text j).length < fuel) :
    Takes (value fuel room) j := by
  -- on the fuel: the texts of the parts are shorter
  induction fuel generalizing room j with
  | zero => omega
  | succ fuel ih =>
    intro r hr i
    cases j with
    | null => exact value_null r i
    | bool b => exact value_bool r i b
    | string s => exact value_string r i s
    | number n =>
      cases n with
      | integer n => exact value_int r i hwritable.1 hwritable.2 hr
      | double x => exact absurd hwritable not_false
    | array items =>
      obtain ⟨hroom, hitems⟩ := hwritable
      rw [writableItems_iff] at hitems
      have hparts := canonicalItems_iff.mp hcanonical
      have hbegins : ∀ j ∈ items, Begins (text j) := fun j hj => begins_text (hitems j hj)
      rw [text_array] at hfuel
      simp only [List.length_cons, List.length_append, List.length_nil] at hfuel
      refine value_array r i hroom (fun j hj => ?_) hbegins ?_
      · have hle := length_text_le_itemsText true hj
        exact ih (hparts j hj) (hitems j hj) (by omega)
      · have hle := length_le_itemsText true hbegins
        omega
    | object ms =>
      obtain ⟨hroom, hmembers⟩ := hwritable
      rw [writableMembers_iff] at hmembers
      obtain ⟨hsorted, hparts⟩ := canonical_object.mp hcanonical
      rw [text_object] at hfuel
      simp only [List.length_cons, List.length_append, List.length_nil] at hfuel
      refine value_object r i hroom hsorted (fun m hm => ?_) ?_
      · have hle := length_text_le_membersText true hm
        exact ih (hparts m hm) (hmembers m hm) (by omega)
      · have hle := length_le_membersText true ms
        omega

/-- A canonical value that can be written reads from its compact text. -/
theorem parse_render {j : Json} (hcanonical : Canonical j) (hwritable : Writable nesting j) :
    parse (encode j.render) = .ok j := by
  rw [encode_render, parse]
  obtain ⟨k, hk⟩ := takes_value hcanonical hwritable (Nat.lt_succ_self _) []
    (headless_nil numeric) 0
  rw [List.append_nil] at hk
  rw [Cursor.start, hk]
  rfl

end CommandAgent.Json
