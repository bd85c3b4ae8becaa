import CommandAgent.Orchestrator.Decision
import CommandAgent.Proofs.Json.Record

/-!
# Which texts are decisions

A decision is one JSON document (`Document`): an object in which the status and the detail are each
given at most once, the one as a truth value and the other as a string, whatever else it holds; or
an array of at most these two. What is not given is a refusal without a remark. The body of an
answer is read as a decision exactly if it is such a document (`parse_eq_ok_iff`), so everything
else is refused as unreadable.
-/

namespace CommandAgent.Decision

open Json
open Json.Grammar

/-! ### Documents -/

def valuesOf (name : String) (ms : List Member) : List Bytes :=
  (ms.filter (·.name = name)).map Member.value

/-- No value is given and the default holds, or one value is given and tells what holds. -/
inductive Given {α : Type} (Tells : Bytes → α → Prop) (default : α) : List Bytes → α → Prop
  | absent : Given Tells default [] default
  | once {v : Bytes} {x : α} : Tells v x → Given Tells default [v] x

/-- A value is the literal of a truth value. -/
def IsLiteral (v : Bytes) (b : Bool) : Prop := v = literal b

/-- A text is a JSON document that gives a decision. -/
inductive Document : Bytes → Decision → Prop
  | object {a t b : Bytes} {ms : List Member} {d : Decision} : Blanks a → Blanks b →
      Filling (ms.map Member.entry) t → (∀ m ∈ ms, Key (Reads · m.name) m.lead) →
      Given IsLiteral false (valuesOf "status" ms) d.proceed →
      Given Quoted "" (valuesOf "detail" ms) d.detail →
      (∀ m ∈ ms, m.name ≠ "status" → m.name ≠ "detail" → Value m.value) →
      Document (a ++ (opening .object :: (t ++ [closing .object]) ++ b)) d
  | array {a t b : Bytes} {es : List (Bytes × Bytes)} {d : Decision} : Blanks a → Blanks b →
      Filling es t → (∀ e ∈ es, Blanks e.1) →
      Given IsLiteral false ((es.map Prod.snd).take 1) d.proceed →
      Given Quoted "" ((es.map Prod.snd).drop 1) d.detail →
      Document (a ++ (opening .array :: (t ++ [closing .array]) ++ b)) d

/-! ### Fields -/

/-- What the value of a field changes. -/
inductive Sets : String → Bytes → Decision → Decision → Prop
  | status {name : String} {v : Bytes} {b : Bool} {d : Decision} : name = "status" →
      IsLiteral v b → Sets name v d { d with proceed := b }
  | detail {name : String} {v : Bytes} {s : String} {d : Decision} : name = "detail" →
      Quoted v s → Sets name v d { d with detail := s }

/-- The reader of the field `status` takes exactly the words for truth values. -/
theorem faithful_status :
    Faithful
      (fun c (d : Decision) => (Stream.flag c).map fun (b, c) => ({ d with proceed := b }, c))
      (Sets "status") := by
  constructor
  · intro v r r' h
    cases h with
    | status _ hv => rw [hv]; exact (Value.literal _).begins
    | detail hname _ => exact absurd hname (by decide)
  · intro c c' r r' h
    obtain ⟨⟨b, d⟩, hflag, heq⟩ := map_eq_ok h
    cases heq
    obtain ⟨a, ha, hrest⟩ := flag_sound hflag
    exact ⟨a, _, ha, .status rfl rfl, hrest⟩
  · intro a v u r r' ha h _ i
    cases h with
    | status _ hv =>
      obtain ⟨j, hj⟩ := flag_complete ha _ u i
      exact ⟨j, by rw [hv, hj]; rfl⟩
    | detail hname _ => exact absurd hname (by decide)

/-- The reader of the field `detail` takes exactly the strings. -/
theorem faithful_detail :
    Faithful
      (fun c (d : Decision) => (Stream.text c).map fun (s, c) => ({ d with detail := s }, c))
      (Sets "detail") := by
  constructor
  · intro v r r' h
    cases h with
    | status hname _ => exact absurd hname (by decide)
    | detail _ hv =>
      obtain ⟨inside, rfl, -⟩ := hv
      exact begins_cons (by decide) (by decide) (by decide) _
  · intro c c' r r' h
    obtain ⟨⟨s, d⟩, htext, heq⟩ := map_eq_ok h
    cases heq
    obtain ⟨a, v, ha, hv, hrest⟩ := text_sound htext
    exact ⟨a, v, ha, .detail rfl hv, hrest⟩
  · intro a v u r r' ha h _ i
    cases h with
    | status hname _ => exact absurd hname (by decide)
    | detail _ hv =>
      obtain ⟨j, hj⟩ := text_complete ha hv u i
      exact ⟨j, by rw [hj]; rfl⟩

theorem faithful_fields : ∀ f ∈ fields, Faithful f.read (Sets f.name) := by
  rw [fields, List.forall_mem_cons, List.forall_mem_singleton]
  exact ⟨faithful_status, faithful_detail⟩

/-! ### Members and items -/

theorem valuesOf_cons_of_eq {name : String} {m : Member} (h : m.name = name) (ms : List Member) :
    valuesOf name (m :: ms) = m.value :: valuesOf name ms := by
  rw [valuesOf, List.filter_cons_of_pos (by simpa using h), List.map_cons]
  rfl

theorem valuesOf_cons_of_ne {name : String} {m : Member} (h : m.name ≠ name) (ms : List Member) :
    valuesOf name (m :: ms) = valuesOf name ms := by
  rw [valuesOf, List.filter_cons_of_neg (by simpa using h)]
  rfl

theorem eq_of_given_nil {α : Type} {Tells : Bytes → α → Prop} {default x : α}
    (h : Given Tells default [] x) : x = default := by
  cases h
  rfl

theorem of_given_cons {α : Type} {Tells : Bytes → α → Prop} {default x : α} {v : Bytes}
    {vs : List Bytes} (h : Given Tells default (v :: vs) x) : vs = [] ∧ Tells v x := by
  cases h with
  | once h => exact ⟨rfl, h⟩

/-- What the members of an object give of one field, which is not given again if it has been seen
before them. -/
structure Gives {α : Type} (name : String) (Tells : Bytes → α → Prop) (seen : List String)
    (ms : List Member) (x x' : α) : Prop where
  given : Given Tells x (valuesOf name ms) x'
  unseen : name ∈ seen → valuesOf name ms = []

namespace Gives

variable {α : Type} {name : String} {Tells : Bytes → α → Prop} {seen seen' : List String}
  {m : Member} {ms : List Member} {x x' y : α}

theorem nil : Gives name Tells seen [] x x := ⟨.absent, fun _ => rfl⟩

theorem eq_of_nil (h : Gives name Tells seen [] x x') : x' = x := eq_of_given_nil h.given

/-- A member of the field gives it, and the others do not give it again. -/
theorem cons_of_eq (hname : m.name = name) (hseen : m.name ∉ seen) (hv : Tells m.value y)
    (h : Gives name Tells (m.name :: seen) ms y x') : Gives name Tells seen (m :: ms) x x' := by
  have hrest : valuesOf name ms = [] := h.unseen (hname ▸ List.mem_cons_self)
  have hgiven := h.given
  rw [hrest] at hgiven
  constructor
  · rw [valuesOf_cons_of_eq hname, hrest, eq_of_given_nil hgiven]
    exact .once hv
  · exact fun hmem => absurd (hname ▸ hmem) hseen

/-- A first member with the name tells the value, and no member behind it has the name. -/
theorem of_cons_of_eq (hname : m.name = name) (h : Gives name Tells seen (m :: ms) x x') :
    m.name ∉ seen ∧ Tells m.value x' ∧ Gives name Tells seen' ms x' x' := by
  obtain ⟨hgiven, hunseen⟩ := h
  rw [valuesOf_cons_of_eq hname] at hgiven hunseen
  obtain ⟨hrest, hv⟩ := of_given_cons hgiven
  refine ⟨?_, hv, ?_, fun _ => hrest⟩
  · rw [hname]
    exact fun hmem => List.cons_ne_nil _ _ (hunseen hmem)
  · rw [hrest]
    exact .absent

/-- A member of another name changes nothing, whether it is remembered or not. -/
theorem cons_of_ne (hname : m.name ≠ name) (hseen : name ∈ seen → name ∈ seen')
    (h : Gives name Tells seen' ms x x') : Gives name Tells seen (m :: ms) x x' := by
  constructor
  · rw [valuesOf_cons_of_ne hname]
    exact h.given
  · rw [valuesOf_cons_of_ne hname]
    exact fun hmem => h.unseen (hseen hmem)

theorem of_cons_of_ne (hname : m.name ≠ name) (hseen : name ∈ seen' → name ∈ seen)
    (h : Gives name Tells seen (m :: ms) x x') : Gives name Tells seen' ms x x' := by
  obtain ⟨hgiven, hunseen⟩ := h
  rw [valuesOf_cons_of_ne hname] at hgiven hunseen
  exact ⟨hgiven, fun hmem => hunseen (hseen hmem)⟩

end Gives

/-- What the members of an object give: the status, the detail, and well-formed values besides. -/
structure GivesAll (seen : List String) (ms : List Member) (d d' : Decision) : Prop where
  status : Gives "status" IsLiteral seen ms d.proceed d'.proceed
  detail : Gives "detail" Quoted seen ms d.detail d'.detail
  others : ∀ m ∈ ms, m.name ≠ "status" → m.name ≠ "detail" → Value m.value

theorem mem_names {name : String} :
    name ∈ fields.map Stream.Field.name ↔ name = "status" ∨ name = "detail" := by
  simp [fields]

/-- Members that set the record give its two fields, each at most once. -/
theorem givesAll_of_members {seen : List String} {ms : List Member} {d d' : Decision}
    (h : MembersSet (fields.map Stream.Field.name) Sets seen ms d d') :
    GivesAll seen ms d d' := by
  -- a name that was seen is not read again, so a field keeps the value that it has
  induction h with
  | nil => exact ⟨.nil, .nil, fun m hm => absurd hm List.not_mem_nil⟩
  | @field seen m ms d q d' _ hseen hsets _ ih =>
    cases hsets with
    | status hname hv =>
      have hne : m.name ≠ "detail" := by rw [hname]; decide
      refine ⟨.cons_of_eq hname hseen hv ih.status,
        .cons_of_ne hne (List.mem_cons_of_mem _) ih.detail, ?_⟩
      exact List.forall_mem_cons.mpr ⟨fun hne => absurd hname hne, ih.others⟩
    | detail hname hv =>
      have hne : m.name ≠ "status" := by rw [hname]; decide
      refine ⟨.cons_of_ne hne (List.mem_cons_of_mem _) ih.status,
        .cons_of_eq hname hseen hv ih.detail, ?_⟩
      exact List.forall_mem_cons.mpr ⟨fun _ hne => absurd hname hne, ih.others⟩
  | @other seen m ms d d' hmem hv _ ih =>
    have hstatus : m.name ≠ "status" := fun heq => hmem (mem_names.mpr (.inl heq))
    have hdetail : m.name ≠ "detail" := fun heq => hmem (mem_names.mpr (.inr heq))
    refine ⟨.cons_of_ne hstatus id ih.status, .cons_of_ne hdetail id ih.detail, ?_⟩
    exact List.forall_mem_cons.mpr ⟨fun _ _ => hv, ih.others⟩

theorem eq_of_fields {d d' : Decision} (hproceed : d'.proceed = d.proceed)
    (hdetail : d'.detail = d.detail) : d' = d := by
  obtain ⟨proceed, detail⟩ := d
  obtain ⟨proceed', detail'⟩ := d'
  rw [Decision.mk.injEq]
  exact ⟨hproceed, hdetail⟩

/-- Members that give the two fields set the record; the others are passed over. -/
theorem members_of_givesAll {seen : List String} {ms : List Member} {d d' : Decision}
    (h : GivesAll seen ms d d') : MembersSet (fields.map Stream.Field.name) Sets seen ms d d' := by
  induction ms generalizing seen d with
  | nil =>
    rw [eq_of_fields h.status.eq_of_nil h.detail.eq_of_nil]
    exact .nil
  | cons m ms ih =>
    obtain ⟨hstatus, hdetail, hothers⟩ := h
    obtain ⟨hother, hothers'⟩ := List.forall_mem_cons.mp hothers
    -- only the name that was just read is new among the seen ones
    have hold {name : String} (hne : m.name ≠ name) (hmem : name ∈ m.name :: seen) :
        name ∈ seen :=
      (List.mem_cons.mp hmem).resolve_left hne.symm
    by_cases hs : m.name = "status"
    · have hd : m.name ≠ "detail" := by rw [hs]; decide
      obtain ⟨hnew, hvalue, hrest⟩ := hstatus.of_cons_of_eq hs
      exact .field (mem_names.mpr (.inl hs)) hnew (.status hs hvalue)
        (ih ⟨hrest, hdetail.of_cons_of_ne hd (hold hd), hothers'⟩)
    by_cases hd : m.name = "detail"
    · obtain ⟨hnew, hvalue, hrest⟩ := hdetail.of_cons_of_eq hd
      exact .field (mem_names.mpr (.inr hd)) hnew (.detail hd hvalue)
        (ih ⟨hstatus.of_cons_of_ne hs (hold hs), hrest, hothers'⟩)
    · have hmem : m.name ∉ fields.map Stream.Field.name :=
        fun hmem => (mem_names.mp hmem).elim hs hd
      exact .other hmem (hother hs hd)
        (ih ⟨hstatus.of_cons_of_ne hs id, hdetail.of_cons_of_ne hd id, hothers'⟩)

theorem names_eq : fields.map Stream.Field.name = ["status", "detail"] := rfl

/-- The items of an array give the status and then the detail. -/
theorem given_of_itemsSet {es : List (Bytes × Bytes)} {d : Decision}
    (h : ItemsSet Sets (fields.map Stream.Field.name) es {} d) :
    (∀ e ∈ es, Blanks e.1) ∧ Given IsLiteral false ((es.map Prod.snd).take 1) d.proceed ∧
      Given Quoted "" ((es.map Prod.snd).drop 1) d.detail := by
  rw [names_eq] at h
  cases h with
  | nil => exact ⟨fun e he => absurd he List.not_mem_nil, .absent, .absent⟩
  | cons hblanks hstatus hrest =>
    cases hstatus with
    | detail hname _ => exact absurd hname (by decide)
    | status _ hv =>
      cases hrest with
      | nil => exact ⟨List.forall_mem_singleton.mpr hblanks, .once hv, .absent⟩
      | cons hblanks' hdetail hend =>
        cases hdetail with
        | status hname _ => exact absurd hname (by decide)
        | detail _ hv' =>
          cases hend with
          | nil =>
            exact ⟨List.forall_mem_cons.mpr ⟨hblanks, List.forall_mem_singleton.mpr hblanks'⟩,
              .once hv, .once hv'⟩

/-- Entries that give the fields by their places set the decision. -/
theorem itemsSet_of_given {es : List (Bytes × Bytes)} {d : Decision}
    (hblanks : ∀ e ∈ es, Blanks e.1)
    (hstatus : Given IsLiteral false ((es.map Prod.snd).take 1) d.proceed)
    (hdetail : Given Quoted "" ((es.map Prod.snd).drop 1) d.detail) :
    ItemsSet Sets (fields.map Stream.Field.name) es {} d := by
  rw [names_eq]
  cases es with
  | nil =>
    have hproceed : d.proceed = false := eq_of_given_nil hstatus
    have hnone : d.detail = "" := eq_of_given_nil hdetail
    have hdefault : d = {} := eq_of_fields hproceed hnone
    rw [hdefault]
    exact .nil
  | cons e es =>
    obtain ⟨hfirst, hblanks'⟩ := List.forall_mem_cons.mp hblanks
    obtain ⟨-, hv⟩ := of_given_cons hstatus
    refine .cons hfirst (.status rfl hv) ?_
    cases es with
    | nil =>
      have hnone : d.detail = "" := eq_of_given_nil hdetail
      rw [← hnone]
      exact .nil
    | cons e' es =>
      obtain ⟨hnone, hv'⟩ := of_given_cons hdetail
      obtain rfl : es = [] := List.map_eq_nil_iff.mp hnone
      refine .cons (hblanks' e' List.mem_cons_self) (.detail rfl hv') ?_
      exact .nil

/-! ### Bodies -/

/-- The body of an answer is read as a decision exactly if it is a document that gives it. -/
theorem parse_eq_ok_iff (body : String) (d : Decision) :
    parse body = .ok d ↔ Document (Text.Utf8.encode body) d := by
  rw [parse, document_eq_ok_iff faithful_fields]
  constructor
  · rintro ⟨a, v, b, heq, ha, hv, hb⟩
    rw [heq]
    cases hv with
    | object ht hkeys hmembers =>
      obtain ⟨hstatus, hdetail, hothers⟩ := givesAll_of_members hmembers
      exact .object ha hb ht hkeys hstatus.given hdetail.given hothers
    | array ht hitems =>
      obtain ⟨hblanks, hstatus, hdetail⟩ := given_of_itemsSet hitems
      exact .array ha hb ht hblanks hstatus hdetail
  -- the text is any bytes here: a document need not be the encoding of a string
  · generalize Text.Utf8.encode body = input
    intro h
    cases h with
    | object ha hb ht hkeys hstatus hdetail hothers =>
      have hgives : GivesAll [] _ {} d :=
        ⟨⟨hstatus, fun hmem => absurd hmem List.not_mem_nil⟩,
          ⟨hdetail, fun hmem => absurd hmem List.not_mem_nil⟩, hothers⟩
      exact ⟨_, _, _, rfl, ha, .object ht hkeys (members_of_givesAll hgives), hb⟩
    | array ha hb ht hblanks hstatus hdetail =>
      exact ⟨_, _, _, rfl, ha, .array ht (itemsSet_of_given hblanks hstatus hdetail), hb⟩

example : (parse "\x7b\"status\": true, \"more\": [1.5e3, \x7b\x7d]\x7d").toOption =
    some ⟨true, ""⟩ := by decide +kernel

example : (parse "[true, \"go\"]").toOption = some ⟨true, "go"⟩ := by decide +kernel

example : (parse "\x7b\"status\": true, \"status\": true\x7d").toOption = none := by
  decide +kernel

end CommandAgent.Decision
