import CommandAgent.Log.Logger
import CommandAgent.Log.Stamp
import CommandAgent.Proofs.Json.Quoted
import CommandAgent.Proofs.Json.Spelling

/-!
# A record is one line

A record ends with a line break. It has no other if the context and the message have none
(`Logger.record_one_line`): the time stamp and the level never have one, and the metadata has none
whatever its strings hold, because a JSON text has no control character at all
(`Json.printable_renderChars`). So no text that a backend hands to the log as metadata can pass for
a record of its own.
-/

namespace CommandAgent

/-- Every character but the controls below the blank. -/
def printable (c : Char) : Bool := decide (0x20 ≤ c.toNat)

/-- A text without control characters. -/
def Printable (cs : List Char) : Prop := cs.all printable = true

instance (cs : List Char) : Decidable (Printable cs) := inferInstanceAs (Decidable (_ = true))

namespace Printable

variable {a b : List Char}

theorem append (ha : Printable a) (hb : Printable b) : Printable (a ++ b) := by
  rw [Printable, List.all_append, Bool.and_eq_true]
  exact ⟨ha, hb⟩

theorem cons {c : Char} (hc : printable c = true) (ha : Printable a) : Printable (c :: a) := by
  rw [Printable, List.all_cons, Bool.and_eq_true]
  exact ⟨hc, ha⟩

theorem of_subset (hb : Printable b) (h : a ⊆ b) : Printable a :=
  List.all_eq_true.mpr fun c hc => List.all_eq_true.mp hb c (h hc)

theorem text_append_iff {s t : String} :
    Printable (s ++ t).toList ↔ Printable s.toList ∧ Printable t.toList := by
  rw [Printable, String.toList_append, List.all_append, Bool.and_eq_true]
  rfl

theorem text_append {s t : String} (hs : Printable s.toList) (ht : Printable t.toList) :
    Printable (s ++ t).toList :=
  text_append_iff.mpr ⟨hs, ht⟩

theorem notMem (ha : Printable a) {c : Char} (hc : printable c = false) : c ∉ a := by
  intro hmem
  have hprintable := List.all_eq_true.mp ha c hmem
  rw [hc] at hprintable
  cases hprintable

theorem ofList (ha : Printable a) : Printable (String.ofList a).toList := by
  rwa [String.toList_ofList]

theorem zeros (n : Nat) : Printable (List.replicate n '0') := by
  refine List.all_eq_true.mpr fun c hc => ?_
  rw [List.eq_of_mem_replicate hc]
  rfl

theorem toDigits (n : Nat) : Printable (Nat.toDigits 10 n) := by
  refine List.all_eq_true.mpr fun c hc => ?_
  have hdigit : c.isDigit = true := Nat.isDigit_of_mem_toDigits (by decide) (by decide) hc
  have hlow : 48 ≤ c.toNat := by
    simp only [Char.isDigit, Bool.and_eq_true, decide_eq_true_eq] at hdigit
    exact UInt32.le_iff_toNat_le.mp hdigit.1
  exact decide_eq_true (Nat.le_trans (by decide) hlow)

theorem nat (n : Nat) : Printable (toString n).toList := by
  rw [Nat.toString_eq_repr, Nat.repr_eq_ofList_toDigits]
  exact (toDigits n).ofList

theorem int (n : Int) : Printable (toString n).toList := by
  cases n with
  | ofNat n => exact nat n
  | negSucc n =>
    have htext : toString (Int.negSucc n) = "-" ++ toString (n + 1) := rfl
    rw [htext]
    exact text_append (by decide) (nat (n + 1))

end Printable

/-! ### Numbers -/

/-- The text of a double is printable, whatever the double. -/
theorem Binary64.printable_toText (x : Binary64) : Printable x.toText.toList := by
  have hsign : Printable (if x.isNegative then "-" else "").toList := by
    cases x.isNegative <;> decide
  rw [toText]
  generalize x.shortest = d
  have hdigits := Printable.toDigits d.digits
  have hzeros (k : Int) := (Printable.zeros k.toNat).ofList
  have htake (k : Nat) := (hdigits.of_subset (List.take_subset k _)).ofList
  have hdrop (k : Nat) := (hdigits.of_subset (List.drop_subset k _)).ofList
  dsimp only
  split
  · exact .text_append hsign (by decide)
  refine .text_append hsign ?_
  split
  · exact .text_append (.text_append hdigits.ofList (hzeros _)) (by decide)
  split
  · exact .text_append (.text_append (htake _) (by decide)) (hdrop _)
  split
  · exact .text_append (.text_append (by decide) (hzeros _)) hdigits.ofList
  · refine .text_append (.text_append ?_ ?_) (.int _)
    · split
      · exact hdigits.ofList
      · exact .text_append (.text_append (htake 1) (by decide)) (hdrop 1)
    · split <;> decide

/-! ### JSON -/

namespace Json

/-- A character that stands for itself in a string is no control. -/
theorem printable_of_escapeChar {c : Char} (h : escapeChar c = [c]) : printable c = true := by
  refine decide_eq_true (Nat.le_of_not_lt fun hlow => ?_)
  unfold escapeChar at h
  repeat' split at h
  all_goals simp_all

theorem printable_escapeChar (c : Char) : Printable (escapeChar c) := by
  rcases escapeChar_cases c with hself | ⟨-, -, hsigns⟩
  · rw [hself]
    exact .cons (printable_of_escapeChar hself) rfl
  · have hall : Printable escapeSigns := by decide
    exact hall.of_subset fun x hx => hsigns.mem hx

theorem printable_renderString (s : String) : Printable (renderString s) := by
  refine .append (.cons rfl ?_) rfl
  refine List.all_eq_true.mpr fun x hx => ?_
  obtain ⟨c, -, hx⟩ := List.mem_flatMap.mp hx
  exact List.all_eq_true.mp (printable_escapeChar c) x hx

theorem printable_renderNumber (n : Number) : Printable (renderNumber n) := by
  cases n with
  | integer value => exact .int value
  | double value => exact value.printable_toText

mutual

/-- The text of a value has no control character. -/
theorem printable_renderChars : ∀ j : Json, Printable j.renderChars
  | .null => by decide
  | .bool true => by decide
  | .bool false => by decide
  | .number n => by
    rw [renderChars]
    exact printable_renderNumber n
  | .string s => by
    rw [renderChars]
    exact printable_renderString s
  | .array items => by
    rw [renderChars]
    exact .append (.cons rfl (printable_renderItems true items)) rfl
  | .object ms => by
    rw [renderChars]
    exact .append (.cons rfl (printable_renderMembers true ms)) rfl

theorem printable_renderItems : ∀ (first : Bool) (items : List Json),
    Printable (renderItems first items)
  | _, [] => by
    rw [renderItems]
    rfl
  | first, j :: rest => by
    rw [renderItems]
    refine .append (.append ?_ (printable_renderChars j)) (printable_renderItems false rest)
    cases first <;> rfl

theorem printable_renderMembers : ∀ (first : Bool) (ms : List (String × Json)),
    Printable (renderMembers first ms)
  | _, [] => by
    rw [renderMembers]
    rfl
  | first, (k, j) :: rest => by
    rw [renderMembers]
    refine .append (.append (.append ?_ (printable_renderString k))
      (.cons rfl (printable_renderChars j))) (printable_renderMembers false rest)
    cases first <;> rfl

end

end Json

/-! ### Lines -/

namespace Stamp

theorem printable_digits (width n : Nat) : Printable (digits width n).toList :=
  .text_append (Printable.zeros _).ofList (.nat n)

theorem printable_fraction (nanoseconds : Nat) : Printable (fraction nanoseconds).toList := by
  have hgroups (width n : Nat) : Printable ("." ++ digits width n).toList :=
    .text_append (by decide) (printable_digits width n)
  unfold fraction
  split
  · decide
  split
  · exact hgroups _ _
  split
  · exact hgroups _ _
  · exact hgroups _ _

theorem printable_text (seconds nanoseconds : Nat) :
    Printable (text seconds nanoseconds).toList := by
  simp only [text, Printable.text_append_iff, printable_digits, printable_fraction, true_and,
    and_true]
  decide

end Stamp

theorem Level.printable_label (level : Level) : Printable level.label.toList := by
  cases level <;> decide

/-- The byte of a line break stands for nothing else. -/
theorem Text.Utf8.newline_notMem_encode {s : String} (h : '\n' ∉ s.toList) : 10 ∉ encode s := by
  intro hmem
  obtain ⟨c, hc, hbyte⟩ := List.mem_flatMap.mp hmem
  by_cases hascii : c.toNat < 0x80
  · rw [Json.encodeChar_of_ascii hascii, List.mem_singleton] at hbyte
    have hvalue : c.toNat = '\n'.toNat := by
      have hcode : (Json.code c).toNat = c.toNat := toNat_ofNat (by omega)
      rw [← hcode, ← hbyte]
      rfl
    rw [Char.toNat_inj.mp hvalue] at hc
    exact h hc
  · exact absurd (Json.le_of_mem_encodeChar (Nat.not_lt.mp hascii) hbyte) (by decide)

namespace Logger

variable {l : Logger} {stamp : String} {e : Entry}

/-- A control character in a line comes from its context or its message. -/
theorem notMem_line (hstamp : Printable stamp.toList) {c : Char} (hc : printable c = false)
    (hcontext : c ∉ l.context.toList) (hmessage : c ∉ e.message.toList) :
    c ∉ (l.line stamp e).toList := by
  have hfixed {s : String} (h : Printable s.toList) : c ∉ s.toList := h.notMem hc
  have hmetadata : c ∉ (if e.metadata.isNull then "" else " " ++ e.metadata.render).toList := by
    split
    · exact hfixed (by decide)
    · refine hfixed (.text_append (by decide) ?_)
      rw [Json.toList_render]
      exact Json.printable_renderChars e.metadata
  simp only [line, String.toList_append, List.mem_append, not_or]
  exact ⟨⟨⟨⟨⟨⟨⟨⟨hfixed (by decide), hfixed hstamp⟩, hfixed (by decide)⟩,
    hfixed e.level.printable_label⟩, hfixed (by decide)⟩, hcontext⟩, hfixed (by decide)⟩,
    hmessage⟩, hmetadata⟩

/-- A record is one line: its only line break is its last byte. -/
theorem record_one_line (hstamp : Printable stamp.toList) (hcontext : '\n' ∉ l.context.toList)
    (hmessage : '\n' ∉ e.message.toList) :
    ∃ bytes, record (l.line stamp e) = bytes ++ [10] ∧ 10 ∉ bytes := by
  refine ⟨Text.Utf8.encode (l.line stamp e), ?_, ?_⟩
  · rw [record, Text.Utf8.encode, String.toList_append, List.flatMap_append]
    rfl
  · exact Text.Utf8.newline_notMem_encode (notMem_line hstamp rfl hcontext hmessage)

end Logger
end CommandAgent
