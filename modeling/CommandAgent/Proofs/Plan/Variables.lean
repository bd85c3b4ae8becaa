import CommandAgent.Plan.Overlay
import CommandAgent.Proofs.Text.Trimming
import CommandAgent.Proofs.Url.Path

/-!
# The environment of a plan, read and written

A text lists variables as entries between semicolons. Semicolons separate entries and nothing else
(`parse_intercalate`), so what a text lists is told by its entries one by one. An entry with an
equals sign is a key up to the first one, and a value behind it; trimming the entry takes the blanks
in front of the key and those behind the value (`pair?_sign`).

So a listed variable is one whose key and value survive this (`IsVariable`): such variables are read
back from the text that lists them, and no others are ever read. An entry that lists nothing
(`Idle`) may stand anywhere.
-/

namespace CommandAgent.EnvOverlay

open Text (isBlank dropBlanks dropTrailingBlanks StartsPlain EndsPlain)

/-! ### Blanks around an equals sign -/

section
variable {key value part : List Char}

/-- Blanks are dropped in front of a key, and nothing behind its sign. -/
theorem dropBlanks_sign (key value : List Char) :
    dropBlanks (key ++ '=' :: value) = dropBlanks key ++ '=' :: value := by
  induction key with
  | nil => rfl
  | cons c key ih =>
    rw [dropBlanks, dropBlanks] at ih ⊢
    rw [List.cons_append, List.dropWhile_cons, List.dropWhile_cons]
    split
    · exact ih
    · rfl

theorem dropTrailingBlanks_sign (key value : List Char) :
    dropTrailingBlanks (key ++ '=' :: value) = key ++ '=' :: dropTrailingBlanks value := by
  have hreverse : (key ++ '=' :: value).reverse = value.reverse ++ '=' :: key.reverse := by simp
  rw [dropTrailingBlanks, hreverse, dropBlanks_sign, dropTrailingBlanks]
  simp

theorem trimChars_sign (key value : List Char) :
    trimChars (key ++ '=' :: value) = dropBlanks key ++ '=' :: dropTrailingBlanks value := by
  rw [trimChars, dropBlanks_sign, dropTrailingBlanks_sign]

/-- Only a blank text has nothing left when it is trimmed. -/
theorem trimChars_eq_nil_iff : trimChars part = [] ↔ ∀ c ∈ part, isBlank c := by
  have hends : trimChars part = [] ↔ ∀ c ∈ dropBlanks part, isBlank c :=
    List.rdropWhile_eq_nil_iff
  rw [hends]
  constructor
  · intro h
    have hstart := Text.startsPlain_dropBlanks part
    have hnil : dropBlanks part = [] := by
      cases hrest : dropBlanks part with
      | nil => rfl
      | cons c cs =>
        rw [hrest] at h hstart
        exact absurd (h c List.mem_cons_self) (hstart c rfl)
    exact List.dropWhile_eq_nil_iff.mp hnil
  · intro h c hc
    exact h c ((List.dropWhile_suffix isBlank).subset hc)

theorem trimChars_dropBlanks (cs : List Char) : trimChars (dropBlanks cs) = trimChars cs := by
  rw [trimChars, trimChars, Text.dropBlanks_eq_self_iff.mpr (Text.startsPlain_dropBlanks cs)]

/-- Trimming takes characters away and adds none. -/
theorem trimChars_subset (cs : List Char) : trimChars cs ⊆ cs :=
  List.Subset.trans (Text.prefix_dropTrailingBlanks _).subset (List.dropWhile_suffix isBlank).subset

/-! ### One entry -/

/-- A text with an equals sign is a key without one, the sign, and a value. -/
theorem exists_key (h : '=' ∈ part) : ∃ key value, part = key ++ '=' :: value ∧ '=' ∉ key :=
  List.eq_append_cons_of_mem h

/-- What an entry lists: its key without outer blanks, and what is behind the first equals sign
without trailing ones. -/
theorem pair?_sign (hkey : '=' ∉ key) (value : List Char) :
    pair? (key ++ '=' :: value) =
      if (trimChars key).isEmpty then none
      else some (String.ofList (trimChars key), String.ofList (dropTrailingBlanks value)) := by
  have hpass : ∀ c ∈ dropBlanks key, (c != '=') = true := by
    intro c hc
    have hmem : c ∈ key := (List.dropWhile_suffix isBlank).subset hc
    exact bne_iff_ne.mpr (ne_of_mem_of_not_mem hmem hkey)
  unfold pair?
  rw [trimChars_sign]
  dsimp only
  rw [List.dropWhile_append_of_pos hpass, List.takeWhile_append_of_pos hpass]
  simp only [List.dropWhile_cons, List.takeWhile_cons, bne_self_eq_false, Bool.false_eq_true,
    if_false, List.append_nil, trimChars_dropBlanks]

/-- An entry without an equals sign lists nothing. -/
theorem pair?_of_notMem (h : '=' ∉ part) : pair? part = none := by
  have hpass : ∀ c ∈ trimChars part, (c != '=') = true := by
    intro c hc
    exact bne_iff_ne.mpr (ne_of_mem_of_not_mem (trimChars_subset part hc) h)
  unfold pair?
  dsimp only
  rw [List.dropWhile_eq_nil_iff.mpr hpass]

/-- An entry that lists nothing. -/
inductive Idle : List Char → Prop where
  | blank {part : List Char} : (∀ c ∈ part, isBlank c) → Idle part
  | noSign {part : List Char} : '=' ∉ part → Idle part
  | noKey {key value : List Char} : (∀ c ∈ key, isBlank c) → Idle (key ++ '=' :: value)

theorem sign_notMem_of_blank (h : ∀ c ∈ part, isBlank c) : '=' ∉ part := by
  intro hmem
  exact absurd (h '=' hmem) (by decide)

/-- A part lists no variable exactly if it is idle. -/
theorem pair?_eq_none_iff : pair? part = none ↔ Idle part := by
  constructor
  · intro h
    by_cases hsign : '=' ∈ part
    · obtain ⟨key, value, rfl, hkey⟩ := exists_key hsign
      rw [pair?_sign hkey] at h
      split at h
      · next hempty => exact .noKey (trimChars_eq_nil_iff.mp (List.isEmpty_iff.mp hempty))
      · cases h
    · exact .noSign hsign
  · rintro (hblank | hsign | hkey)
    · exact pair?_of_notMem (sign_notMem_of_blank hblank)
    · exact pair?_of_notMem hsign
    · rw [pair?_sign (sign_notMem_of_blank hkey), trimChars_eq_nil_iff.mpr hkey]
      rfl

/-- A variable as a text can list it: the key is not empty, has no outer blanks and neither a
semicolon nor an equals sign, and the value has no trailing blanks and no semicolon. -/
structure IsVariable (v : String × String) : Prop where
  key_ne : v.1 ≠ ""
  key_trim : Text.trim v.1 = v.1
  key_sign : '=' ∉ v.1.toList
  key_free : ';' ∉ v.1.toList
  value_trim : Text.trimEnd v.2 = v.2
  value_free : ';' ∉ v.2.toList

def entryOf (v : String × String) : String := v.1 ++ "=" ++ v.2

theorem toList_entryOf (v : String × String) :
    (entryOf v).toList = v.1.toList ++ '=' :: v.2.toList := by
  simp [entryOf]

theorem ofList_trimChars (s : String) : String.ofList (trimChars s.toList) = Text.trim s := rfl

/-- The entry that lists a variable is read as it. -/
theorem pair?_entryOf {v : String × String} (h : IsVariable v) :
    pair? (entryOf v).toList = some v := by
  have hne : ¬ (trimChars v.1.toList).isEmpty := by
    intro hempty
    have htrim := ofList_trimChars v.1
    rw [h.key_trim, List.isEmpty_iff.mp hempty] at htrim
    exact h.key_ne htrim.symm
  have hvalue : String.ofList (dropTrailingBlanks v.2.toList) = v.2 := h.value_trim
  rw [toList_entryOf, pair?_sign h.key_sign, if_neg hne, ofList_trimChars, h.key_trim, hvalue]

/-- A part with a key and a sign gives a variable that can be listed. -/
theorem isVariable_sign (hkey : '=' ∉ key) (hfree : ';' ∉ key ++ '=' :: value)
    (hne : trimChars key ≠ []) :
    IsVariable (String.ofList (trimChars key), String.ofList (dropTrailingBlanks value)) := by
  have hsub := trimChars_subset key
  rw [List.mem_append, List.mem_cons, not_or, not_or] at hfree
  obtain ⟨hkeyFree, -, hvalueFree⟩ := hfree
  constructor <;> dsimp only
  case key_ne =>
    intro hempty
    exact hne (String.ofList_eq_empty_iff.mp hempty)
  case key_trim =>
    have htrim := Text.trim_trim (String.ofList key)
    rwa [← ofList_trimChars (String.ofList key), String.toList_ofList] at htrim
  case key_sign =>
    rw [String.toList_ofList]
    exact fun hmem => hkey (hsub hmem)
  case key_free =>
    rw [String.toList_ofList]
    exact fun hmem => hkeyFree (hsub hmem)
  case value_trim =>
    rw [Text.trimEnd, String.toList_ofList,
      Text.dropTrailingBlanks_eq_self_iff.mpr (Text.endsPlain_dropTrailingBlanks value)]
  case value_free =>
    rw [String.toList_ofList]
    exact fun hmem => hvalueFree ((Text.prefix_dropTrailingBlanks value).subset hmem)

/-- What an entry lists is a variable. -/
theorem isVariable_of_pair? {v : String × String} (hfree : ';' ∉ part)
    (h : pair? part = some v) : IsVariable v := by
  by_cases hsign : '=' ∈ part
  · obtain ⟨key, value, rfl, hkey⟩ := exists_key hsign
    rw [pair?_sign hkey] at h
    split at h
    · cases h
    · next hne =>
      obtain rfl := Option.some.inj h
      exact isVariable_sign hkey hfree (mt List.isEmpty_iff.mpr hne)
  · rw [pair?_of_notMem hsign] at h
    cases h

end

/-! ### Entries between semicolons -/

/-- A semicolon separates what is listed before it from what is listed behind it. -/
theorem parse_semicolon (a b : String) : parse (a ++ ";" ++ b) = parse a ++ parse b := by
  have hlist : (a ++ ";" ++ b).toList = a.toList ++ ';' :: b.toList := by simp
  rw [parse, hlist, List.splitOn_append_cons_self, List.filterMap_append]
  rfl

/-- What entries list is what each of them lists, in order. -/
theorem parse_intercalate (entries : List String) :
    parse (";".intercalate entries) = entries.flatMap parse := by
  induction entries with
  | nil => rfl
  | cons entry entries ih =>
    cases entries with
    | nil => simp
    | cons next entries =>
      rw [String.intercalate_cons_cons, parse_semicolon, ih]
      exact (List.flatMap_cons ..).symm

/-- A text without a semicolon is a single entry. -/
theorem parse_of_notMem {entry : String} (h : ';' ∉ entry.toList) :
    parse entry = (pair? entry.toList).toList := by
  rw [parse, List.splitOn_eq_singleton h, List.filterMap_cons]
  cases pair? entry.toList <;> rfl

theorem parse_eq_nil_iff {entry : String} (h : ';' ∉ entry.toList) :
    parse entry = [] ↔ Idle entry.toList := by
  rw [parse_of_notMem h, ← pair?_eq_none_iff]
  cases pair? entry.toList <;> simp

/-- An entry alone lists its variable and nothing else. -/
theorem parse_entryOf {v : String × String} (h : IsVariable v) : parse (entryOf v) = [v] := by
  have hfree : ';' ∉ (entryOf v).toList := by
    rw [toList_entryOf, List.mem_append, List.mem_cons]
    rintro (hmem | hsign | hmem)
    · exact h.key_free hmem
    · cases hsign
    · exact h.value_free hmem
  rw [parse_of_notMem hfree, pair?_entryOf h]
  rfl

theorem render_eq (pairs : List (String × String)) :
    render pairs = ";".intercalate (pairs.map entryOf) := rfl

/-- Variables are read back from the text that lists them. -/
theorem parse_render {pairs : List (String × String)} (h : ∀ v ∈ pairs, IsVariable v) :
    parse (render pairs) = pairs := by
  rw [render_eq, parse_intercalate, List.flatMap_map]
  induction pairs with
  | nil => rfl
  | cons v pairs ih =>
    obtain ⟨hv, hpairs⟩ := List.forall_mem_cons.mp h
    rw [List.flatMap_cons, parse_entryOf hv, ih hpairs, List.singleton_append]

/-- Nothing but variables is read. -/
theorem isVariable_of_mem_parse {raw : String} {v : String × String} (h : v ∈ parse raw) :
    IsVariable v := by
  obtain ⟨part, hpart, hentry⟩ := List.mem_filterMap.mp h
  refine isVariable_of_pair? ?_ hentry
  intro hmem
  rw [List.splitOn_eq_splitOnP] at hpart
  exact absurd (Url.forall_of_mem_splitOnP hpart ';' hmem) (by decide)

/-- The second entries are the first with entries that list nothing put between them. -/
inductive Padded : List String → List String → Prop where
  | nil : Padded [] []
  | keep {entries padded : List String} (entry : String) :
      Padded entries padded → Padded (entry :: entries) (entry :: padded)
  | insert {entries padded : List String} {entry : String} : ';' ∉ entry.toList →
      Idle entry.toList → Padded entries padded → Padded entries (entry :: padded)

theorem Padded.flatMap_parse {entries padded : List String} (h : Padded entries padded) :
    padded.flatMap parse = entries.flatMap parse := by
  induction h with
  | nil => rfl
  | keep entry _ ih => rw [List.flatMap_cons, List.flatMap_cons, ih]
  | insert hfree hidle _ ih =>
    rw [List.flatMap_cons, (parse_eq_nil_iff hfree).mpr hidle, List.nil_append, ih]

/-- A text that lists variables is read as exactly these. What is read of any text is variables, and
listing them again changes nothing. An entry that is blank, or has no equals sign, or none but
blanks in front of it, lists nothing, and neither does any number of them between other entries;
every other entry lists something. -/
theorem parse_exactly :
    (∀ pairs, (∀ v ∈ pairs, IsVariable v) → parse (render pairs) = pairs) ∧
    (∀ raw, (∀ v ∈ parse raw, IsVariable v) ∧ parse (render (parse raw)) = parse raw) ∧
    (∀ entry : String, ';' ∉ entry.toList → (parse entry = [] ↔ Idle entry.toList)) ∧
    ∀ entries padded, Padded entries padded →
      parse (";".intercalate padded) = parse (";".intercalate entries) := by
  refine ⟨?_, ?_, ?_, ?_⟩
  · intro pairs hpairs
    exact parse_render hpairs
  · intro raw
    have hvariables : ∀ v ∈ parse raw, IsVariable v := fun v hv => isVariable_of_mem_parse hv
    exact ⟨hvariables, parse_render hvariables⟩
  · intro entry hfree
    exact parse_eq_nil_iff hfree
  · intro entries padded hpadded
    rw [parse_intercalate, parse_intercalate, hpadded.flatMap_parse]

/-- Variables with an equals sign and blanks in their values, and without a value. -/
def listed : List (String × String) := [("NLS_LANG", " a = b"), ("EMPTY", "")]

theorem isVariable_of_mem_listed {v : String × String} (h : v ∈ listed) : IsVariable v := by
  rcases List.mem_cons.mp h with rfl | h
  · constructor <;> decide
  · obtain rfl := List.mem_singleton.mp h
    constructor <;> decide

theorem padded_listed :
    Padded (listed.map entryOf) [" \t", "NLS_LANG= a = b", "TERM", "EMPTY=", "\n=x"] := by
  refine .insert (by decide) (.blank (List.all_eq_true.mp (by decide))) (.keep _ ?_)
  refine .insert (by decide) (.noSign (by decide)) (.keep _ ?_)
  have hkey : ∀ c ∈ ['\n'], isBlank c := List.all_eq_true.mp (by decide)
  exact .insert (by decide) (Idle.noKey hkey) .nil

/-- A variable with blanks in its value and one without a value, with idle entries around them. -/
theorem parse_exactly_listed :
    (∀ v ∈ listed, IsVariable v) ∧ parse (render listed) = listed ∧
      ';' ∉ "\n=x".toList ∧ (parse "\n=x" = [] ↔ Idle "\n=x".toList) ∧
      Padded (listed.map entryOf) [" \t", "NLS_LANG= a = b", "TERM", "EMPTY=", "\n=x"] ∧
      parse (";".intercalate [" \t", "NLS_LANG= a = b", "TERM", "EMPTY=", "\n=x"]) =
        parse (";".intercalate (listed.map entryOf)) := by
  have hlisted : ∀ v ∈ listed, IsVariable v := fun v hv => isVariable_of_mem_listed hv
  have hfree : ';' ∉ "\n=x".toList := by decide
  obtain ⟨hread, -, hidle, hpadded⟩ := parse_exactly
  exact ⟨hlisted, hread listed hlisted, hfree, hidle _ hfree, padded_listed,
    hpadded _ _ padded_listed⟩

end CommandAgent.EnvOverlay
