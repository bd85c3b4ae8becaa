import CommandAgent.Proofs.Json.Entries
import CommandAgent.Proofs.Json.Ignored

/-!
# Reading records

A record is written as an object, whose members may come in any order, or as an array that lists
the fields in theirs. Which texts read as which record is said by two relations (`MembersSet`,
`ItemsSet`) that are made from one for the values of the fields; if the readers of the fields take
exactly these values (`Faithful`), the reader of the record takes exactly those texts
(`record_sound`, `record_complete`).
-/

namespace CommandAgent.Json

open Grammar
open CommandAgent.Json.Stream (ignored fieldsOfObject fieldsOfArray record)

variable {ρ : Type}

/-! ### The texts of a record -/

/-- A member of an object: its name, what leads up to the value, and the value. -/
structure Member where
  name : String
  lead : Bytes
  value : Bytes

def Member.entry (m : Member) : Bytes × Bytes := (m.lead, m.value)

/-- The members of an object change a record: a field as its value says, if it has not been seen,
and any other member not at all. -/
inductive MembersSet (names : List String) (G : String → Bytes → ρ → ρ → Prop) :
    (seen : List String) → List Member → ρ → ρ → Prop
  | nil {seen : List String} {r : ρ} : MembersSet names G seen [] r r
  | field {seen : List String} {m : Member} {ms : List Member} {r r' r'' : ρ} :
      m.name ∈ names → m.name ∉ seen → G m.name m.value r r' →
      MembersSet names G (m.name :: seen) ms r' r'' → MembersSet names G seen (m :: ms) r r''
  | other {seen : List String} {m : Member} {ms : List Member} {r r' : ρ} :
      m.name ∉ names → Value m.value → MembersSet names G seen ms r r' →
      MembersSet names G seen (m :: ms) r r'

/-- The items of an array change a record, one field after the other. -/
inductive ItemsSet (G : String → Bytes → ρ → ρ → Prop) :
    List String → List (Bytes × Bytes) → ρ → ρ → Prop
  | nil {names : List String} {r : ρ} : ItemsSet G names [] r r
  | cons {name : String} {names : List String} {e : Bytes × Bytes} {es : List (Bytes × Bytes)}
      {r r' r'' : ρ} : Blanks e.1 → G name e.2 r r' → ItemsSet G names es r' r'' →
      ItemsSet G (name :: names) (e :: es) r r''

/-- A record is written as an object or as an array. -/
inductive Written (names : List String) (G : String → Bytes → ρ → ρ → Prop) (r r' : ρ) :
    Bytes → Prop
  | object {ms : List Member} {t : Bytes} : Filling (ms.map Member.entry) t →
      (∀ m ∈ ms, Key (Reads · m.name) m.lead) → MembersSet names G [] ms r r' →
      Written names G r r' (opening .object :: (t ++ [closing .object]))
  | array {es : List (Bytes × Bytes)} {t : Bytes} : Filling es t → ItemsSet G names es r r' →
      Written names G r r' (opening .array :: (t ++ [closing .array]))

/-! ### The readers of fields -/

/-- A reader of a field takes exactly the values that change the record so. -/
structure Faithful (read : Cursor → ρ → Except Fault (ρ × Cursor)) (G : Bytes → ρ → ρ → Prop) :
    Prop where
  begins {v : Bytes} {r r' : ρ} : G v r r' → Begins v
  sound {c c' : Cursor} {r r' : ρ} : read c r = .ok (r', c') →
    ∃ a v, Blanks a ∧ G v r r' ∧ c.rest = a ++ (v ++ c'.rest)
  complete {a v u : Bytes} {r r' : ρ} : Blanks a → G v r r' → Unnumbered u →
    ∀ i, ∃ j, read ⟨i, a ++ (v ++ u)⟩ r = .ok (r', ⟨j, u⟩)

variable {fields : List (Stream.Field ρ)} {G : String → Bytes → ρ → ρ → Prop}

/-- A field with a known name is found under it. -/
theorem find?_of_mem {name : String} (h : name ∈ fields.map Stream.Field.name) :
    ∃ f ∈ fields, f.name = name ∧ fields.find? (·.name = name) = some f := by
  obtain ⟨g, hg, rfl⟩ := List.mem_map.mp h
  cases hfind : fields.find? (·.name = g.name) with
  | none => exact absurd (decide_eq_true rfl) (List.find?_eq_none.mp hfind g hg)
  | some f =>
    have hname : f.name = g.name := by simpa using List.find?_some hfind
    exact ⟨f, List.mem_of_find?_eq_some hfind, hname, rfl⟩

theorem find?_of_not_mem {name : String} (h : name ∉ fields.map Stream.Field.name) :
    fields.find? (·.name = name) = none := by
  apply List.find?_eq_none.mpr
  intro f hf heq
  have hname : f.name = name := by simpa using heq
  exact h (hname ▸ List.mem_map_of_mem hf)

/-! ### Objects -/

/-- One more entry may come before others. -/
theorem entries_append {first : Bool} {before lead v t : Bytes} {es : List (Bytes × Bytes)}
    (hbefore : Before first before) (h : ∀ a, Blanks a → Entries false es (t ++ a)) :
    ∀ a, Blanks a → Entries first ((lead, v) :: es) (before ++ (lead ++ (v ++ t)) ++ a) := by
  intro a ha
  have hcut : before ++ (lead ++ (v ++ t)) ++ a = before ++ (lead ++ (v ++ (t ++ a))) := by simp
  rw [hcut]
  exact entries_cons hbefore (h a ha)

/-- What is read as the fields of an object is a row of members that set the record so. -/
theorem fieldsOfObject_sound (hfields : ∀ f ∈ fields, Faithful f.read (G f.name)) {fuel : Nat}
    {seen : List String} {first : Bool} {r r' : ρ} {c c' : Cursor}
    (h : fieldsOfObject fields fuel seen first r c = .ok (r', c')) :
    ∃ ms t, c.rest = t ++ c'.rest ∧
      (∀ a, Blanks a → Entries first (ms.map Member.entry) (t ++ a)) ∧
      (∀ m ∈ ms, Key (Reads · m.name) m.lead) ∧
      MembersSet (fields.map Stream.Field.name) G seen ms r r' := by
  induction fuel generalizing seen first r c with
  | zero => cases h
  | succ fuel ih =>
    rw [fieldsOfObject] at h
    obtain ⟨⟨more, d⟩, hkey, hmore⟩ := bind_eq_ok h
    clear h
    obtain ⟨a, ha, ⟨rfl, before, t, hbefore, hquote, hrest⟩ | ⟨rfl, hrest⟩⟩ := hasKey_sound hkey
    · obtain ⟨i, _⟩ := d
      obtain rfl := hquote
      obtain ⟨⟨key, e⟩, hstring, hfield⟩ := bind_eq_ok hmore
      obtain ⟨inside, hreads, ht⟩ := stringTail_sound hstring
      have ht : t = inside ++ code '"' :: e.rest := ht
      -- the value of the member has been read, and the others are left
      have hmember {g k : Cursor} {seen' : List String} {q : ρ} (hcolon : colon e = .ok g)
          {b v : Bytes} (hb : Blanks b) (hvalue : g.rest = b ++ (v ++ k.rest))
          (hrun : fieldsOfObject fields fuel seen' false q k = .ok (r', c')) :
          ∃ lead ms t', c.rest = before ++ (lead ++ (v ++ t')) ++ c'.rest ∧
            (∀ a, Blanks a → Entries first ((lead, v) :: ms.map Member.entry)
              (before ++ (lead ++ (v ++ t')) ++ a)) ∧
            Key (Reads · key) lead ∧ (∀ m ∈ ms, Key (Reads · m.name) m.lead) ∧
            MembersSet (fields.map Stream.Field.name) G seen' ms q r' := by
        obtain ⟨x, hx, hbehind⟩ := colon_sound hcolon
        obtain ⟨ms, t', hk, hentries, hkeys, hmembers⟩ := ih hrun
        refine ⟨a ++ code '"' :: (inside ++ code '"' :: (x ++ code ':' :: b)), ms, t', ?_,
          entries_append hbefore hentries, ⟨a, inside, x, b, rfl, ha, hreads, hx, hb⟩, hkeys,
          hmembers⟩
        rw [hrest, ht, hbehind, hvalue, hk]
        simp
      dsimp only at hfield
      split at hfield
      · next f hfind =>
        split at hfield
        · cases hfield
        · next hseen =>
          obtain ⟨g, hcolon, hread⟩ := bind_eq_ok hfield
          obtain ⟨⟨q, k⟩, hvalue, hrun⟩ := bind_eq_ok hread
          have hf : f ∈ fields := List.mem_of_find?_eq_some hfind
          have hname : f.name = key := by simpa using List.find?_some hfind
          obtain ⟨b, v, hb, hv, hg⟩ := (hfields f hf).sound hvalue
          obtain ⟨lead, ms, t', hc, hentries, hkey, hkeys, hmembers⟩ :=
            hmember hcolon hb hg hrun
          rw [hname] at hv
          have hseen : key ∉ seen := by simpa using hseen
          have hmem : key ∈ fields.map Stream.Field.name := hname ▸ List.mem_map_of_mem hf
          exact ⟨⟨key, lead, v⟩ :: ms, _, hc, hentries, List.forall_mem_cons.mpr ⟨hkey, hkeys⟩,
            .field hmem hseen hv hmembers⟩
      · next hfind =>
        obtain ⟨g, hcolon, hread⟩ := bind_eq_ok hfield
        obtain ⟨k, hvalue, hrun⟩ := bind_eq_ok hread
        obtain ⟨b, v, hb, hv, hg⟩ := ignored_sound hvalue
        obtain ⟨lead, ms, t', hc, hentries, hkey, hkeys, hmembers⟩ := hmember hcolon hb hg hrun
        -- the name is none of a field, or it would have been found
        have hmem : key ∉ fields.map Stream.Field.name := by
          intro hmem
          obtain ⟨f, -, -, hfound⟩ := find?_of_mem hmem
          rw [hfind] at hfound
          cases hfound
        exact ⟨⟨key, lead, v⟩ :: ms, _, hc, hentries, List.forall_mem_cons.mpr ⟨hkey, hkeys⟩,
          .other hmem hv hmembers⟩
    · cases hmore
      exact ⟨[], a, hrest, fun b hb => entries_nil (ha.append hb) first,
        fun m hm => absurd hm List.not_mem_nil, .nil⟩

/-- The readers come past what stands before the value of a member. -/
theorem key_complete {first : Bool} {before lead : Bytes} {name : String}
    (hbefore : Before first before) (h : Key (Reads · name) lead) (r : Bytes) (i : Nat) :
    ∃ j k t c a, Blanks a ∧
      hasKey first ⟨i, before ++ (lead ++ r)⟩ = .ok (true, ⟨j, code '"' :: t⟩) ∧
      stringTail ⟨j + 1, t⟩ = .ok (name, c) ∧ colon c = .ok ⟨k, a ++ r⟩ := by
  obtain ⟨a, inside, b, d, rfl, ha, hreads, hb, hd⟩ := h
  obtain ⟨j, hj⟩ := hasKey_more hbefore ha (inside ++ code '"' :: (b ++ code ':' :: (d ++ r))) i
  obtain ⟨k, hk⟩ := stringTail_complete hreads (b ++ code ':' :: (d ++ r)) (j + 1)
  obtain ⟨l, hl⟩ := colon_complete hb (d ++ r) k
  refine ⟨j, l, _, _, d, hd, ?_, hk, hl⟩
  rw [← hj]
  simp

/-- A row of members that sets a record is read as one; each member takes one unit of fuel. -/
theorem fieldsOfObject_complete (hfields : ∀ f ∈ fields, Faithful f.read (G f.name))
    {seen : List String} {ms : List Member} {r r' : ρ}
    (h : MembersSet (fields.map Stream.Field.name) G seen ms r r') {first : Bool} {t : Bytes}
    (ht : Entries first (ms.map Member.entry) t) (hkeys : ∀ m ∈ ms, Key (Reads · m.name) m.lead)
    {fuel : Nat} (hfuel : ms.length < fuel) (u : Bytes) (i : Nat) :
    ∃ j, fieldsOfObject fields fuel seen first r ⟨i, t ++ closing .object :: u⟩ =
      .ok (r', ⟨j, closing .object :: u⟩) := by
  -- on the members: the names already seen grow with them, as in the reader
  induction h generalizing first t fuel i with
  | nil =>
    cases fuel with
    | zero => omega
    | succ fuel =>
      obtain ⟨j, hj⟩ := hasKey_end (blanks_of_entries_nil ht) first u i
      refine ⟨j, ?_⟩
      rw [fieldsOfObject, closing, hj]
      rfl
  | @field seen m ms r q r' hmem hseen hv _ ih =>
    cases fuel with
    | zero => omega
    | succ fuel =>
      obtain ⟨hkey, hkeys'⟩ := List.forall_mem_cons.mp hkeys
      obtain ⟨before, t', hbefore, hrest, rfl⟩ := exists_of_entries_cons ht
      obtain ⟨f, hf, hname, hfind⟩ := find?_of_mem hmem
      obtain ⟨j, k, s, c, a, ha, hhas, hstring, hcolon⟩ :=
        key_complete hbefore hkey (m.value ++ (t' ++ closing .object :: u)) i
      obtain ⟨l, hl⟩ := (hfields f hf).complete ha (hname ▸ hv) (hrest.unnumbered .object u) k
      have hothers : Entries false (ms.map Member.entry) t' := hrest
      obtain ⟨n, hn⟩ := ih hothers hkeys' (Nat.lt_of_succ_lt_succ hfuel) l
      have hnew : seen.contains m.name = false := by simpa using hseen
      refine ⟨n, ?_⟩
      rw [fieldsOfObject]
      simp only [bind, Except.bind, List.append_assoc, hhas, if_true, Cursor.advance_cons, hstring,
        hfind, hnew, Bool.false_eq_true, if_false, hcolon, hl, hn]
  | @other seen m ms r r' hmem hv _ ih =>
    cases fuel with
    | zero => omega
    | succ fuel =>
      obtain ⟨hkey, hkeys'⟩ := List.forall_mem_cons.mp hkeys
      obtain ⟨before, t', hbefore, hrest, rfl⟩ := exists_of_entries_cons ht
      obtain ⟨j, k, s, c, a, ha, hhas, hstring, hcolon⟩ :=
        key_complete hbefore hkey (m.value ++ (t' ++ closing .object :: u)) i
      obtain ⟨l, hl⟩ := ignored_complete ha hv (hrest.unnumbered .object u) k
      have hothers : Entries false (ms.map Member.entry) t' := hrest
      obtain ⟨n, hn⟩ := ih hothers hkeys' (Nat.lt_of_succ_lt_succ hfuel) l
      refine ⟨n, ?_⟩
      rw [fieldsOfObject]
      simp only [bind, Except.bind, List.append_assoc, hhas, if_true, Cursor.advance_cons, hstring,
        find?_of_not_mem hmem, hcolon, hl, hn]

/-! ### Arrays -/

/-- What is read as the fields of an array is a row of items that set the record so. -/
theorem fieldsOfArray_sound (hfields : ∀ f ∈ fields, Faithful f.read (G f.name)) {first : Bool}
    {r r' : ρ} {c c' : Cursor} (h : fieldsOfArray fields first r c = .ok (r', c')) :
    ∃ es t, c.rest = t ++ c'.rest ∧ (∀ a, Blanks a → Entries first es (t ++ a)) ∧
      ItemsSet G (fields.map Stream.Field.name) es r r' := by
  -- on the fields, since the reader asks for one item for each of them
  induction fields generalizing first r c with
  | nil =>
    cases h
    exact ⟨[], [], rfl, fun a ha => entries_nil ha first, .nil⟩
  | cons f fs ih =>
    obtain ⟨hf, hfs⟩ := List.forall_mem_cons.mp hfields
    rw [fieldsOfArray] at h
    obtain ⟨⟨more, d⟩, hitem, hmore⟩ := bind_eq_ok h
    clear h
    obtain ⟨a, ha, ⟨rfl, before, hbefore, hrest⟩ | ⟨rfl, hrest⟩⟩ := hasItem_sound hitem
    · obtain ⟨⟨q, k⟩, hvalue, hrun⟩ := bind_eq_ok hmore
      obtain ⟨b, v, hb, hv, hd⟩ := hf.sound hvalue
      obtain ⟨es, t, hk, hentries, hitems⟩ := ih hfs hrun
      have hk : k.rest = t ++ c'.rest := hk
      refine ⟨(a ++ b, v) :: es, before ++ ((a ++ b) ++ (v ++ t)), ?_,
        entries_append hbefore hentries, .cons (ha.append hb) hv hitems⟩
      rw [hrest, hd, hk]
      simp
    · cases hmore
      exact ⟨[], a, hrest, fun b hb => entries_nil (ha.append hb) first, .nil⟩

/-- A row of items that sets a record is read as one. -/
theorem fieldsOfArray_complete (hfields : ∀ f ∈ fields, Faithful f.read (G f.name))
    {es : List (Bytes × Bytes)} {r r' : ρ}
    (h : ItemsSet G (fields.map Stream.Field.name) es r r') {first : Bool} {t : Bytes}
    (ht : Entries first es t) (u : Bytes) (i : Nat) :
    ∃ j a, Blanks a ∧ fieldsOfArray fields first r ⟨i, t ++ closing .array :: u⟩ =
      .ok (r', ⟨j, a ++ closing .array :: u⟩) := by
  induction fields generalizing es first r t i with
  | nil =>
    cases h
    exact ⟨i, t, blanks_of_entries_nil ht, rfl⟩
  | cons f fs ih =>
    obtain ⟨hf, hfs⟩ := List.forall_mem_cons.mp hfields
    cases h with
    | nil =>
      obtain ⟨j, hj⟩ := hasItem_end (blanks_of_entries_nil ht) first u i
      refine ⟨j, [], blanks_nil, ?_⟩
      rw [fieldsOfArray, closing, hj]
      rfl
    | @cons _ _ e es _ q _ ha hv hitems =>
      obtain ⟨lead, v⟩ := e
      obtain ⟨before, t', hbefore, hrest, rfl⟩ := exists_of_entries_cons ht
      obtain ⟨j, hj⟩ := hasItem_more hbefore ha
        ((hf.begins hv).append (t' ++ closing .array :: u)) i
      obtain ⟨k, hk⟩ := hf.complete blanks_nil hv (hrest.unnumbered .array u) j
      have hothers : Entries false es t' := hrest
      obtain ⟨l, a, hblanks, hl⟩ := ih hfs hitems hothers k
      refine ⟨l, a, hblanks, ?_⟩
      have hk : f.read ⟨j, v ++ (t' ++ closing .array :: u)⟩ r = .ok (q, ⟨k, _⟩) := hk
      rw [fieldsOfArray]
      simp only [bind, Except.bind, List.append_assoc, hj, if_true, hk, hl]

/-! ### Truth values and texts -/

/-- What is read as a truth value is its word behind blanks. -/
theorem flag_sound {c c' : Cursor} {b : Bool} (h : Stream.flag c = .ok (b, c')) :
    ∃ a, Blanks a ∧ c.rest = a ++ (literal b ++ c'.rest) := by
  obtain ⟨a, i, rest, ha, hrest, hskip⟩ := skipBlanks_sound c
  simp only [Stream.flag, hskip] at h
  cases rest with
  | nil => cases h
  | cons x t =>
    simp only [Cursor.advance_cons] at h
    refine ⟨a, ha, ?_⟩
    rw [hrest]
    split at h
    · next hx =>
      obtain ⟨d, hword, heq⟩ := map_eq_ok h
      cases heq
      have ht : t = letters ['r', 'u', 'e'] ++ c'.rest := word_sound hword
      rw [hx, ht]
      rfl
    split at h
    · next hx =>
      obtain ⟨d, hword, heq⟩ := map_eq_ok h
      cases heq
      have ht : t = letters ['a', 'l', 's', 'e'] ++ c'.rest := word_sound hword
      rw [hx, ht]
      rfl
    · cases h

/-- A word for a truth value is read as it. -/
theorem flag_complete {a : Bytes} (ha : Blanks a) (b : Bool) (u : Bytes) (i : Nat) :
    ∃ j, Stream.flag ⟨i, a ++ (literal b ++ u)⟩ = .ok (b, ⟨j, u⟩) := by
  cases b with
  | true =>
    obtain ⟨j, hj⟩ := skipBlanks_cons ha (by decide : isJsonBlank (code 't') = false)
      (letters ['r', 'u', 'e'] ++ u) i
    obtain ⟨k, hk⟩ := word_complete ['r', 'u', 'e'] (j + 1) u
    refine ⟨k, ?_⟩
    show Stream.flag ⟨i, a ++ code 't' :: (letters ['r', 'u', 'e'] ++ u)⟩ = _
    simp only [Stream.flag, hj, if_true, Cursor.advance_cons, hk]
    rfl
  | false =>
    obtain ⟨j, hj⟩ := skipBlanks_cons ha (by decide : isJsonBlank (code 'f') = false)
      (letters ['a', 'l', 's', 'e'] ++ u) i
    obtain ⟨k, hk⟩ := word_complete ['a', 'l', 's', 'e'] (j + 1) u
    have hne : ¬ code 'f' = code 't' := by decide
    refine ⟨k, ?_⟩
    show Stream.flag ⟨i, a ++ code 'f' :: (letters ['a', 'l', 's', 'e'] ++ u)⟩ = _
    simp only [Stream.flag, hj, hne, if_false, if_true, Cursor.advance_cons, hk]
    rfl

/-- What is read as a text is a string behind blanks that spells it. -/
theorem text_sound {c c' : Cursor} {s : String} (h : Stream.text c = .ok (s, c')) :
    ∃ a v, Blanks a ∧ Quoted v s ∧ c.rest = a ++ (v ++ c'.rest) := by
  obtain ⟨a, i, rest, ha, hrest, hskip⟩ := skipBlanks_sound c
  simp only [Stream.text, hskip] at h
  cases rest with
  | nil => cases h
  | cons x t =>
    simp only [Cursor.advance_cons] at h
    split at h
    · next hx =>
      obtain ⟨inside, hreads, ht⟩ := stringTail_sound h
      have ht : t = inside ++ code '"' :: c'.rest := ht
      refine ⟨a, _, ha, ⟨inside, rfl, hreads⟩, ?_⟩
      rw [hrest, hx, ht]
      simp
    · cases h

/-- A string that spells a text is read as it. -/
theorem text_complete {a v : Bytes} {s : String} (ha : Blanks a) (hv : Quoted v s) (u : Bytes)
    (i : Nat) : ∃ j, Stream.text ⟨i, a ++ (v ++ u)⟩ = .ok (s, ⟨j, u⟩) := by
  obtain ⟨inside, rfl, hreads⟩ := hv
  obtain ⟨j, hj⟩ := skipBlanks_cons ha (by decide : isJsonBlank (code '"') = false)
    (inside ++ code '"' :: u) i
  obtain ⟨k, hk⟩ := stringTail_complete hreads u (j + 1)
  refine ⟨k, ?_⟩
  rw [List.cons_append, List.append_assoc, List.singleton_append]
  simp only [Stream.text, hj, if_true, Cursor.advance_cons, hk]

/-! ### Records and documents -/

/-- The reader of a record takes a text of the record. -/
theorem record_sound (hfields : ∀ f ∈ fields, Faithful f.read (G f.name)) {name : String}
    {r r' : ρ} {c c' : Cursor} (h : record name fields r c = .ok (r', c')) :
    ∃ a v, Blanks a ∧ Written (fields.map Stream.Field.name) G r r' v ∧
      c.rest = a ++ (v ++ c'.rest) := by
  obtain ⟨a, i, rest, ha, hrest, hskip⟩ := skipBlanks_sound c
  simp only [record, hskip] at h
  cases rest with
  | nil => cases h
  | cons b t =>
    simp only [Cursor.advance_cons] at h
    split at h
    · next hb =>
      obtain ⟨⟨q, k⟩, hread, hclose⟩ := bind_eq_ok h
      obtain ⟨l, hl, hend⟩ := bind_eq_ok hclose
      cases hend
      obtain ⟨es, t', hk, hentries, hitems⟩ := fieldsOfArray_sound hfields hread
      obtain ⟨x, hx, hbehind⟩ := closeArray_sound hl
      have ht : t = t' ++ k.rest := hk
      refine ⟨a, _, ha, .array (hentries x hx) hitems, ?_⟩
      rw [hrest, hb, ht, hbehind]
      simp [opening, closing]
    split at h
    · next hb =>
      obtain ⟨⟨q, k⟩, hread, hclose⟩ := bind_eq_ok h
      obtain ⟨l, hl, hend⟩ := bind_eq_ok hclose
      cases hend
      obtain ⟨ms, t', hk, hentries, hkeys, hmembers⟩ := fieldsOfObject_sound hfields hread
      obtain ⟨x, hx, hbehind⟩ := closeObject_sound hl
      have ht : t = t' ++ k.rest := hk
      refine ⟨a, _, ha, .object (hentries x hx) hkeys hmembers, ?_⟩
      rw [hrest, hb, ht, hbehind]
      simp [opening, closing]
    · cases h

/-- The reader of a record takes every text of the record. -/
theorem record_complete (hfields : ∀ f ∈ fields, Faithful f.read (G f.name)) (name : String)
    {r r' : ρ} {a v : Bytes} (ha : Blanks a) (hv : Written (fields.map Stream.Field.name) G r r' v)
    (u : Bytes) (i : Nat) :
    ∃ j, record name fields r ⟨i, a ++ (v ++ u)⟩ = .ok (r', ⟨j, u⟩) := by
  cases hv with
  | @object ms t ht hkeys hmembers =>
    obtain ⟨j, hj⟩ := skipBlanks_cons ha (by decide : isJsonBlank (code '\x7b') = false)
      (t ++ closing .object :: u) i
    have hentries : Entries true (ms.map Member.entry) t := ht
    have hfuel : ms.length < (t ++ closing .object :: u).length + 1 := by
      have hlength := length_le_of_entries hentries
      simp only [List.length_map, List.length_append, List.length_cons] at hlength ⊢
      omega
    obtain ⟨k, hk⟩ := fieldsOfObject_complete hfields hmembers hentries hkeys hfuel u (j + 1)
    obtain ⟨l, hl⟩ := closeObject_complete blanks_nil u k
    refine ⟨l, ?_⟩
    have hl : closeObject ⟨k, closing .object :: u⟩ = .ok ⟨l, u⟩ := hl
    have hne : ¬ code '\x7b' = code '[' := by decide
    rw [List.cons_append, List.append_assoc, List.singleton_append, opening]
    simp only [record, hj, hne, if_false, if_true, Cursor.advance_cons, bind, Except.bind, hk, hl]
    rfl
  | @array es t ht hitems =>
    obtain ⟨j, hj⟩ := skipBlanks_cons ha (by decide : isJsonBlank (code '[') = false)
      (t ++ closing .array :: u) i
    have hentries : Entries true es t := ht
    obtain ⟨k, b, hb, hk⟩ := fieldsOfArray_complete hfields hitems hentries u (j + 1)
    obtain ⟨l, hl⟩ := closeArray_complete hb u k
    refine ⟨l, ?_⟩
    have hl : closeArray ⟨k, b ++ closing .array :: u⟩ = .ok ⟨l, u⟩ := hl
    rw [List.cons_append, List.append_assoc, List.singleton_append, opening]
    simp only [record, hj, if_true, Cursor.advance_cons, bind, Except.bind, hk, hl]
    rfl

/-- A document is read if its value is, with only blanks behind it. -/
theorem finish_eq_ok {α : Type} {read : Except Fault (α × Cursor)} {x : α} :
    finish read = .ok x ↔ ∃ c, read = .ok (x, c) ∧ Blanks c.rest := by
  constructor
  · intro h
    obtain ⟨⟨y, c⟩, rfl, hend⟩ := bind_eq_ok h
    obtain ⟨a, i, rest, ha, hrest, hskip⟩ := skipBlanks_sound c
    simp only [hskip] at hend
    split at hend
    · next hempty =>
      cases hend
      refine ⟨c, rfl, ?_⟩
      rw [hrest, List.isEmpty_iff.mp hempty, List.append_nil]
      exact ha
    · cases hend
  · rintro ⟨c, rfl, hblanks⟩
    obtain ⟨j, hj⟩ := skipBlanks_complete hblanks (headless_nil isJsonBlank) c.index
    rw [List.append_nil] at hj
    simp only [finish, bind, Except.bind, hj]
    rfl

/-- A document reads as a record exactly if it is a text of the record, with blanks around. -/
theorem document_eq_ok_iff (hfields : ∀ f ∈ fields, Faithful f.read (G f.name)) (name : String)
    (r r' : ρ) (input : Bytes) :
    Stream.document (record name fields r) input = .ok r' ↔
      ∃ a v b, input = a ++ (v ++ b) ∧ Blanks a ∧ Written (fields.map Stream.Field.name) G r r' v ∧
        Blanks b := by
  have hmap : Stream.document (record name fields r) input = .ok r' ↔
      finish (record name fields r (Cursor.start input)) = .ok r' := by
    rw [Stream.document]
    cases finish (record name fields r (Cursor.start input)) with
    | error f => constructor <;> intro h <;> cases h
    | ok x => constructor <;> intro h <;> cases h <;> rfl
  rw [hmap, finish_eq_ok]
  constructor
  · rintro ⟨c, hread, hb⟩
    obtain ⟨a, v, ha, hv, hrest⟩ := record_sound hfields hread
    exact ⟨a, v, c.rest, hrest, ha, hv, hb⟩
  · rintro ⟨a, v, b, rfl, ha, hv, hb⟩
    obtain ⟨j, hj⟩ := record_complete hfields name ha hv b 0
    exact ⟨⟨j, b⟩, hj, hb⟩

end CommandAgent.Json
