import CommandAgent.Json.Printer
import CommandAgent.Proofs.Text.Masking

/-!
# What a JSON text shows

When can a text be read inside a JSON document? If it has a sign that occurs in no fixed text and in
no number, it can only be read inside one of the document's strings; and if its signs stand for
themselves there, and it does not begin with a sign that could end an escape, it can be read there
only if the string holds it (`Distinct.infix_of_infix_escaped`). So a document whose strings do not
hold such a text does not show it.

`Walled` says that of any text in which quoted parts lie between bare ones. It passes from the parts
to a concatenation (`Walled.append`), and so from the members of an object to the object, and on to
a whole log line.
-/

namespace CommandAgent

/-! ### Ordinary signs -/

/-- The signs other than letters and digits in fixed texts, keys, numbers and JSON punctuation. -/
def punctuation : List Char :=
  [' ', '"', '*', ',', '-', '.', '/', ':', '?', '[', '\\', ']', '_', '\x7b', '\x7d']

/-- The signs that fixed texts, keys, numbers and JSON punctuation consist of. -/
def ordinary (c : Char) : Bool := c.isAlphanum || punctuation.contains c

/-- A text of ordinary signs only. -/
def Ordinary (s : String) : Prop := s.toList.all ordinary = true

instance (s : String) : Decidable (Ordinary s) := inferInstanceAs (Decidable (_ = true))

def Lacks (sign : Char) (s : String) : Prop := sign ∉ s.toList

instance (sign : Char) (s : String) : Decidable (Lacks sign s) :=
  inferInstanceAs (Decidable (¬ _))

section
variable {sign : Char}

theorem ne_of_ordinary (hsign : ordinary sign = false) {c : Char} (hc : ordinary c = true) :
    sign ≠ c := by
  rintro rfl
  rw [hsign] at hc
  cases hc

theorem Ordinary.lacks (hsign : ordinary sign = false) {s : String} (h : Ordinary s) :
    Lacks sign s := by
  intro hmem
  exact ne_of_ordinary hsign (List.all_eq_true.mp h sign hmem) rfl

theorem Lacks.append {a b : String} (ha : Lacks sign a) (hb : Lacks sign b) :
    Lacks sign (a ++ b) := by
  rw [Lacks, String.toList_append, List.mem_append]
  exact not_or.mpr ⟨ha, hb⟩

theorem ordinary_toString_nat (n : Nat) : Ordinary (toString n) := by
  rw [Nat.toString_eq_repr, Nat.repr_eq_ofList_toDigits, Ordinary, String.toList_ofList,
    List.all_eq_true]
  intro c hc
  have hdigit : c.isDigit = true := Nat.isDigit_of_mem_toDigits (by decide) (by decide) hc
  simp [ordinary, Char.isAlphanum, hdigit]

theorem ordinary_toString_int (n : Int) : Ordinary (toString n) := by
  cases n with
  | ofNat n => exact ordinary_toString_nat n
  | negSucc n =>
    have htext : toString (Int.negSucc n) = "-" ++ toString (n + 1) := rfl
    rw [htext, Ordinary, String.toList_append, List.all_append,
      show ("-".toList.all ordinary) = true by decide, Bool.true_and]
    exact ordinary_toString_nat (n + 1)

end

namespace Json

/-! ### Escapes -/

def escapeSigns : List Char :=
  ['\\', '"', 'n', 'r', 't', 'b', 'f', 'u', '0', '1', '2', '3', '4', '5', '6', '7', '8', '9',
    'a', 'b', 'c', 'd', 'e', 'f']

/-- A text of escape signs only. -/
def Escaping (cs : List Char) : Prop := cs.all escapeSigns.contains = true

theorem Escaping.mem {cs : List Char} (h : Escaping cs) {x : Char} (hx : x ∈ cs) :
    x ∈ escapeSigns :=
  List.contains_iff_mem.mp (List.all_eq_true.mp h x hx)

theorem escaping_hexDigit {n : Nat} (h : n < 16) : Escaping [hexDigit n] := by
  have hall : ∀ n < 16, [hexDigit n].all escapeSigns.contains = true := by decide
  exact hall n h

/-- A character stands for itself, or it is escaped: by a backslash and other escape signs. -/
theorem escapeChar_cases (c : Char) :
    escapeChar c = [c] ∨ ∃ rest, escapeChar c = '\\' :: rest ∧ Escaping (escapeChar c) := by
  simp only [escapeChar]
  split
  · exact .inr ⟨_, rfl, rfl⟩
  split
  · exact .inr ⟨_, rfl, rfl⟩
  split
  · exact .inr ⟨_, rfl, rfl⟩
  split
  · exact .inr ⟨_, rfl, rfl⟩
  split
  · exact .inr ⟨_, rfl, rfl⟩
  split
  · exact .inr ⟨_, rfl, rfl⟩
  split
  · exact .inr ⟨_, rfl, rfl⟩
  split
  · next hlow =>
    have hfirst : Escaping [hexDigit (c.toNat / 16)] := escaping_hexDigit (by omega)
    have hsecond : Escaping [hexDigit (c.toNat % 16)] := escaping_hexDigit (by omega)
    have hlead : Escaping ['\\', 'u', '0', '0'] := rfl
    refine .inr ⟨_, rfl, ?_⟩
    show (['\\', 'u', '0', '0'] ++ ([hexDigit (c.toNat / 16)] ++ [hexDigit (c.toNat % 16)])).all
      escapeSigns.contains = true
    rw [List.all_append, List.all_append, hlead, hfirst, hsecond]
    rfl
  · exact .inl rfl

theorem mem_escaped {x : Char} {cs : List Char} (h : x ∈ cs.flatMap escapeChar) :
    x ∈ cs ∨ x ∈ escapeSigns := by
  obtain ⟨c, hc, hx⟩ := List.mem_flatMap.mp h
  rcases escapeChar_cases c with hself | ⟨-, -, hsigns⟩
  · rw [hself, List.mem_singleton] at hx
    exact .inl (hx ▸ hc)
  · exact .inr (hsigns.mem hx)

/-- A text that can be told from its surroundings: by a sign that is not ordinary, by signs that
stand for themselves in a string, and by a beginning that ends no escape. -/
structure Distinct (sign : Char) (p : List Char) : Prop where
  mem : sign ∈ p
  rare : ordinary sign = false
  unescaped : ∀ c ∈ p, escapeChar c = [c]
  start : ∀ c ∈ p.head?, c ∉ escapeSigns

variable {sign : Char} {p : List Char}

/-- A beginning of an escaped text that needs no escapes is a beginning of the text. -/
theorem prefix_of_prefix_escaped (hp : ∀ c ∈ p, escapeChar c = [c]) {cs : List Char}
    (h : p <+: cs.flatMap escapeChar) : p <+: cs := by
  induction p generalizing cs with
  | nil => exact List.nil_prefix
  | cons x p ih =>
    cases cs with
    | nil => exact h
    | cons c cs =>
      rw [List.flatMap_cons] at h
      rcases escapeChar_cases c with hself | ⟨rest, hslash, -⟩
      · rw [hself] at h
        obtain ⟨rfl, hrest⟩ := List.cons_prefix_cons.mp h
        have htail := ih (fun c hc => hp c (List.mem_cons_of_mem x hc)) hrest
        exact List.cons_prefix_cons.mpr ⟨rfl, htail⟩
      · -- the escape begins with a backslash, which does not stand for itself
        rw [hslash] at h
        obtain ⟨rfl, -⟩ := List.cons_prefix_cons.mp h
        exact absurd (hp '\\' List.mem_cons_self) (by decide)

/-- A text in two parts stands in the second if the first does not have its first sign. -/
theorem infix_of_infix_append {e r : List Char} (hp : ∀ c ∈ p.head?, c ∉ e) (h : p <:+: e ++ r) :
    p <:+: r := by
  induction e with
  | nil => exact h
  | cons x e ih =>
    rcases List.infix_cons_iff.mp h with hpre | hin
    · cases p with
      | nil => exact List.nil_infix
      | cons y p =>
        obtain ⟨rfl, -⟩ := List.cons_prefix_cons.mp hpre
        exact absurd List.mem_cons_self (hp y rfl)
    · exact ih (fun c hc hmem => hp c hc (List.mem_cons_of_mem x hmem)) hin

/-- What can be read in an escaped text is in the text. -/
theorem Distinct.infix_of_infix_escaped (hp : Distinct sign p) {cs : List Char}
    (h : p <:+: cs.flatMap escapeChar) : p <:+: cs := by
  induction cs with
  | nil => exact h
  | cons c cs ih =>
    rw [List.flatMap_cons] at h
    rcases escapeChar_cases c with hself | ⟨-, -, hsigns⟩
    · have hall : p <:+: c :: cs.flatMap escapeChar := by rwa [hself] at h
      rcases List.infix_cons_iff.mp hall with hpre | hin
      · have hescaped : p <+: (c :: cs).flatMap escapeChar := by rwa [List.flatMap_cons, hself]
        exact (prefix_of_prefix_escaped hp.unescaped hescaped).isInfix
      · exact List.infix_cons (ih hin)
    · have hstart : ∀ x ∈ p.head?, x ∉ escapeChar c :=
        fun x hx hmem => hp.start x hx (hsigns.mem hmem)
      exact List.infix_cons (ih (infix_of_infix_append hstart h))

/-! ### Quoted parts -/

/-- A text of bare parts without the sign, and quoted parts between them that do not show `p`. -/
inductive Walled (sign : Char) (p : List Char) : List Char → Prop
  | bare {l : List Char} : sign ∉ l → Walled sign p l
  | quoted {a m b : List Char} : sign ∉ a → ¬ p <:+: m → Walled sign p b →
    Walled sign p (a ++ '"' :: m ++ '"' :: b)

namespace Walled

/-- A front part without the sign leaves a walled text walled. -/
theorem bare_append {a b : List Char} (ha : sign ∉ a) (hb : Walled sign p b) :
    Walled sign p (a ++ b) := by
  cases hb with
  | bare hb => exact .bare (fun h => (List.mem_append.mp h).elim ha hb)
  | @quoted c m b hc hm hb =>
    have hac : sign ∉ a ++ c := fun h => (List.mem_append.mp h).elim ha hc
    have happend : a ++ (c ++ '"' :: m ++ '"' :: b) = a ++ c ++ '"' :: m ++ '"' :: b := by
      simp only [List.append_assoc]
    rw [happend]
    exact .quoted hac hm hb

theorem append {a b : List Char} (ha : Walled sign p a) (hb : Walled sign p b) :
    Walled sign p (a ++ b) := by
  induction ha with
  | bare ha => exact bare_append ha hb
  | @quoted c m d hc hm _ ih =>
    have happend : c ++ '"' :: m ++ '"' :: d ++ b = c ++ '"' :: m ++ '"' :: (d ++ b) := by
      simp only [List.append_assoc, List.cons_append]
    rw [happend]
    exact .quoted hc hm ih

theorem cons {c : Char} {l : List Char} (hc : sign ≠ c) (hl : Walled sign p l) :
    Walled sign p (c :: l) :=
  bare_append (a := [c]) (by simpa using hc) hl

/-- A text that has the sign and no quotation mark cannot be read there. -/
theorem not_infix {l : List Char} (hmem : sign ∈ p) (hquote : '"' ∉ p) (h : Walled sign p l) :
    ¬ p <:+: l := by
  induction h with
  | bare hl => exact fun hin => hl (hin.subset hmem)
  | @quoted a m b ha hm _ ih =>
    intro hin
    rw [List.append_assoc, List.cons_append] at hin
    rcases (Text.infix_append_cons_iff hquote).mp hin with hpa | hrest
    · exact ha (hpa.subset hmem)
    · rcases (Text.infix_append_cons_iff hquote).mp hrest with hpm | hpb
      · exact hm hpm
      · exact ih hpb

end Walled

/-! ### Values -/

/-- A member that does not show the text: its key has ordinary signs only, its value is walled. -/
def Hides (sign : Char) (p : List Char) (m : String × Json) : Prop :=
  Ordinary m.1 ∧ Walled sign p m.2.renderChars

theorem Hides.of {k : String} {j : Json} (hk : Ordinary k) (hj : Walled sign p j.renderChars) :
    Hides sign p (k, j) :=
  ⟨hk, hj⟩

theorem toList_render (j : Json) : j.render.toList = j.renderChars := String.toList_ofList

namespace Distinct

theorem notMem_escapeSigns (hp : Distinct sign p) : sign ∉ escapeSigns := by
  have hordinary : escapeSigns.all ordinary = true := by decide
  exact fun h => ne_of_ordinary hp.rare (List.all_eq_true.mp hordinary sign h) rfl

/-- The sign alone can be told from its surroundings, too. -/
theorem singleton (hp : Distinct sign p) : Distinct sign [sign] where
  mem := List.mem_singleton_self sign
  rare := hp.rare
  unescaped := by simpa using hp.unescaped sign hp.mem
  start := by simpa using hp.notMem_escapeSigns

theorem quote_notMem (hp : Distinct sign p) : '"' ∉ p :=
  fun h => absurd (hp.unescaped _ h) (by decide)

/-- A walled text does not show what can be told from its surroundings. -/
theorem not_infix (hp : Distinct sign p) {l : List Char} (h : Walled sign p l) : ¬ p <:+: l :=
  h.not_infix hp.mem hp.quote_notMem

/-- A text that is walled against its sign alone does not have it. -/
theorem notMem (hp : Distinct sign p) {l : List Char} (h : Walled sign [sign] l) : sign ∉ l := by
  intro hmem
  obtain ⟨before, after, rfl⟩ := List.append_of_mem hmem
  have hinfix : [sign] <:+: before ++ sign :: after := ⟨before, after, by simp⟩
  exact hp.singleton.not_infix h hinfix

/-- A string that does not hold the text. -/
theorem walled_string (hp : Distinct sign p) {s : String} (h : ¬ p <:+: s.toList) :
    Walled sign p (Json.string s).renderChars :=
  .quoted (a := []) List.not_mem_nil (fun hin => h (hp.infix_of_infix_escaped hin))
    (.bare List.not_mem_nil)

/-- A string without the sign. -/
theorem walled_text (hp : Distinct sign p) {s : String} (h : Lacks sign s) :
    Walled sign p (Json.string s).renderChars :=
  hp.walled_string fun hin => h (hin.subset hp.mem)

theorem walled_ofOption (hp : Distinct sign p) {o : Option String}
    (h : ∀ s ∈ o, ¬ p <:+: s.toList) : Walled sign p (Json.ofOption o).renderChars := by
  cases o with
  | none => exact .bare (Ordinary.lacks hp.rare (s := "null") (by decide))
  | some s => exact hp.walled_string (h s rfl)

theorem walled_int (hp : Distinct sign p) (n : Int) :
    Walled sign p (Json.int n).renderChars :=
  .bare ((ordinary_toString_int n).lacks hp.rare)

theorem walled_nat (hp : Distinct sign p) (n : Nat) :
    Walled sign p (Json.nat n).renderChars :=
  hp.walled_int n

theorem walled_bool (hp : Distinct sign p) (b : Bool) :
    Walled sign p (Json.bool b).renderChars := by
  cases b with
  | true => exact .bare (Ordinary.lacks hp.rare (s := "true") (by decide))
  | false => exact .bare (Ordinary.lacks hp.rare (s := "false") (by decide))

theorem hides_ordinary (hp : Distinct sign p) {k s : String} (hk : Ordinary k) (hs : Ordinary s) :
    Hides sign p (k, .string s) :=
  .of hk (hp.walled_text (hs.lacks hp.rare))

theorem hides_text (hp : Distinct sign p) {k s : String} (hk : Ordinary k) (hs : Lacks sign s) :
    Hides sign p (k, .string s) :=
  .of hk (hp.walled_text hs)

theorem hides_string (hp : Distinct sign p) {k s : String} (hk : Ordinary k)
    (hs : ¬ p <:+: s.toList) : Hides sign p (k, .string s) :=
  .of hk (hp.walled_string hs)

theorem hides_nat (hp : Distinct sign p) {k : String} (hk : Ordinary k) (n : Nat) :
    Hides sign p (k, .nat n) :=
  .of hk (hp.walled_nat n)

/-- The text of an object is walled if the sign is hidden in each of its members. -/
theorem walled_renderMembers (hp : Distinct sign p) {ms : Members} (first : Bool)
    (h : ∀ m ∈ ms, Hides sign p m) : Walled sign p (renderMembers first ms) := by
  induction ms generalizing first with
  | nil => exact .bare List.not_mem_nil
  | cons m rest ih =>
    obtain ⟨k, j⟩ := m
    obtain ⟨⟨hk, hj⟩, hrest⟩ := List.forall_mem_cons.mp h
    have hcomma : Walled sign p (if first then [] else [',']) := by
      cases first with
      | true => exact .bare List.not_mem_nil
      | false => exact .bare (by simpa using ne_of_ordinary hp.rare (by decide))
    have hkey : Walled sign p (renderString k) := hp.walled_text (hk.lacks hp.rare)
    rw [renderMembers]
    exact ((hcomma.append hkey).append (.cons (ne_of_ordinary hp.rare (by decide)) hj)).append
      (ih false hrest)

theorem walled_object (hp : Distinct sign p) {ms : Members} (h : ∀ m ∈ ms, Hides sign p m) :
    Walled sign p (Json.object ms).renderChars := by
  have hclose : Walled sign p ['\x7d'] :=
    .bare (by simpa using ne_of_ordinary hp.rare (by decide))
  rw [renderChars]
  exact .append (.cons (ne_of_ordinary hp.rare (by decide)) (hp.walled_renderMembers true h)) hclose

end Distinct

/-- The members of an object are among those it is made from. -/
theorem mem_foldl_insertMember {m : String × Json} {ms acc : Members}
    (h : m ∈ ms.foldl (fun acc m => insertMember m.1 m.2 acc) acc) : m ∈ ms ∨ m ∈ acc := by
  induction ms generalizing acc with
  | nil => exact .inr h
  | cons a rest ih =>
    rcases ih h with hrest | hacc
    · exact .inl (List.mem_cons_of_mem a hrest)
    · rcases mem_insertMember hacc with rfl | hacc
      · exact .inl List.mem_cons_self
      · exact .inr hacc

theorem Distinct.walled_ofMembers (hp : Distinct sign p) {ms : Members}
    (h : ∀ m ∈ ms, Hides sign p m) : Walled sign p (ofMembers ms).renderChars := by
  refine hp.walled_object fun m hm => ?_
  rcases mem_foldl_insertMember hm with hms | hnone
  · exact h m hms
  · cases hnone

end Json
end CommandAgent
